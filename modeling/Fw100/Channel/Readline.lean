import Fw100.Channel.IntakeCalls

/-!
# Runs of `readline`

Successive calls on one channel. Without the SMS prompt the calls cut the received
stream into disjoint slices and the cursor stays within the received data; when in
addition every line fits the buffer, the lines are those of the plain splitter,
whatever the chunks were.
-/
namespace Fw100.Channel
open Library Text

theorem readlineCalls_succ (n : ℕ) (b : AtBuffer) (rs : List ReadResult) :
    readlineCalls (n + 1) b rs =
      let before := readlineCalls n b rs
      let last := readline before.2.1 before.2.2
      (before.1 ++ [last.1], last.2.1, last.2.2) := by
  induction n generalizing b rs with
  | zero => rfl
  | succ n ih =>
    rw [readlineCalls]
    dsimp only
    rw [ih]
    rfl

section Splitter

/-- No CR/LF-delimited segment of the stream starts with the SMS prompt. -/
def NoPromptSegment (l : List UInt8) : Prop :=
  ∀ seg ∈ l.splitOnP isNewline, ¬ smsPrompt <+: seg

theorem takeWhile_mem_splitOnP (l : List UInt8) :
    l.takeWhile (fun x => !isNewline x) ∈ l.splitOnP isNewline := by
  have hcat := List.takeWhile_append_dropWhile (p := fun x => !isNewline x) (l := l)
  have htext : ∀ x ∈ l.takeWhile (fun x => !isNewline x), isNewline x = false :=
    fun x hx => by simpa using List.mem_takeWhile_imp hx
  cases hd : l.dropWhile (fun x => !isNewline x) with
  | nil =>
    rw [hd, List.append_nil] at hcat
    have hsplit := List.splitOnP_eq_singleton htext
    rw [hcat] at hsplit
    simp [hsplit, hcat]
  | cons e r =>
    have he := List.head_dropWhile_not (fun x => !isNewline x) (l := l) (by simp [hd])
    simp only [hd, List.head_cons, Bool.not_eq_false'] at he
    have hsplit := List.splitOnP_append_cons_of_forall_mem htext e he r
    rw [← hd, hcat] at hsplit
    simp [hsplit]

theorem NoPromptSegment.suffix {l m : List UInt8} {e : UInt8} (he : isNewline e = true)
    (h : NoPromptSegment (l ++ e :: m)) : NoPromptSegment m := by
  intro seg hseg
  rw [NoPromptSegment, List.splitOnP_append_cons l m he] at h
  exact h seg (List.mem_append_right _ hseg)

theorem NoPromptSegment.drop_newlines {g l : List UInt8} (hg : ∀ x ∈ g, isNewline x = true)
    (h : NoPromptSegment (g ++ l)) : NoPromptSegment l := by
  induction g with
  | nil => exact h
  | cons x g ih =>
    exact ih (fun y hy => hg y (by simp [hy])) (NoPromptSegment.suffix (l := []) (hg x (by simp)) h)

/-- Behind newlines such a stream never continues with the prompt. -/
theorem NoPromptSegment.not_prompt {g l : List UInt8} (hg : ∀ x ∈ g, isNewline x = true)
    (h : NoPromptSegment (g ++ (smsPrompt ++ l))) : False := by
  have hmem := takeWhile_mem_splitOnP (smsPrompt ++ l)
  have hpre : smsPrompt <+: (smsPrompt ++ l).takeWhile (fun x => !isNewline x) := by
    rw [List.takeWhile_append_of_pos (by simp [smsPrompt, isNewline])]
    exact List.prefix_append _ _
  exact h.drop_newlines hg _ hmem hpre

/-- From any buffer the calls return the complete lines of the data still to be handed out. -/
theorem readlineCalls_lines (n : ℕ) {b : AtBuffer} {a u t : List UInt8} {rs : List ReadResult}
    (hb : Holding b a u t) (hrs : ∀ q ∈ rs, q.Live) (hp : NoPromptSegment (u ++ streamBytes rs))
    (hs : ShortLines (u ++ streamBytes rs)) :
    (readlineCalls n b rs).1 =
      ((completeLines isNewline (u ++ streamBytes rs)).map some ++ List.replicate n none).take n := by
  induction n generalizing b a u t rs with
  | zero => simp [readlineCalls]
  | succ n ih =>
    rcases readline_outcome hb hrs with ⟨w, hw, hlive, hout⟩
    have hcalls : (readlineCalls (n + 1) b rs).1 =
        (readline b rs).1 :: (readlineCalls n (readline b rs).2.1 (readline b rs).2.2).1 := rfl
    rw [hcalls]
    revert hw hlive hout
    generalize (readline b rs).1 = line
    generalize (readline b rs).2.1 = b'
    generalize (readline b rs).2.2 = rs'
    intro hw hlive hout
    rw [hw, ← List.append_assoc] at hp hs ⊢
    cases hout with
    | closed hold split lost text =>
      have hlost := lost (by rw [hw, ← List.append_assoc]; exact hs.first)
      rw [split, streamBytes, List.flatMap_nil, List.append_nil] at hp hs ⊢
      have hrest := ih hold hlive (by simpa [streamBytes] using hp.drop_newlines hlost)
        (by simpa [streamBytes] using hs.suffix)
      rw [hrest, completeLines_append_seps _ hlost, streamBytes, List.flatMap_nil, List.append_nil,
        completeLines_of_forall _ text]
      simp [List.replicate_succ]
    | line hold split eol text nonempty lost =>
      have hlost := lost (by rw [hw, ← List.append_assoc]; exact hs.first)
      rw [split, List.append_assoc, List.cons_append] at hp hs ⊢
      have hs' := hs
      rw [List.append_cons] at hs'
      have hrest := ih hold hlive (hp.suffix eol) hs'.suffix
      rw [hrest, List.append_assoc, completeLines_append_seps _ hlost,
        completeLines_append_cons _ text eol]
      simp [nonempty, List.replicate_succ', ← List.append_assoc, List.take_append_of_le_length]
    | prompt cur split lost =>
      have hlost := lost (by rw [hw, ← List.append_assoc]; exact hs.first)
      rw [split, List.append_assoc] at hp
      exact (hp.not_prompt hlost).elim

/-- **Chunking does not matter.** For every stream without prompt segments whose lines fit the
buffer and every way in which `read` delivers it, the successive calls return the stream's
complete lines and then `NULL`. -/
theorem readline_chunking (stream : List UInt8) (hp : NoPromptSegment stream)
    (hs : ShortLines stream) (rs : List ReadResult) (hrs : ∀ q ∈ rs, q.Live)
    (hstream : streamBytes rs = stream) (n : ℕ) :
    (readlineCalls n .initial rs).1 =
      ((completeLines isNewline stream).map some ++ List.replicate n none).take n := by
  subst hstream
  rcases Holding.initial with ⟨t, hb⟩
  simpa using readlineCalls_lines n hb hrs (by simpa using hp) (by simpa using hs)

theorem shortLines_of_length {l : List UInt8} (h : l.length < maxAtResponse) : ShortLines l := by
  intro pre run seg post hl _ _
  have := congrArg List.length hl
  simp only [List.length_append] at this
  omega

theorem readline_chunking_split_reply :
    (readlineCalls 3 .initial
      [.data (ascii "\r\n+CSQ:1"), .eintr, .data (ascii "3,99\r"), .data (ascii "\n\r\nOK\r\n")]).1 =
      [some (ascii "+CSQ:13,99"), some (ascii "OK"), none] := by
  have h := readline_chunking (ascii "\r\n+CSQ:13,99\r\n\r\nOK\r\n") (by unfold NoPromptSegment; decide)
    (shortLines_of_length (by decide))
    [.data (ascii "\r\n+CSQ:1"), .eintr, .data (ascii "3,99\r"), .data (ascii "\n\r\nOK\r\n")]
    (by decide) (by decide) 3
  exact h.trans (by decide)

end Splitter

section Slices

/-- The lines occupy disjoint slices of the stream, in order. -/
def OrderedSlices : List CString → List UInt8 → Prop
  | [], _ => True
  | l :: ls, s => ∃ g r, s = g ++ l ++ r ∧ OrderedSlices ls r

theorem OrderedSlices.append {ls : List CString} {s : List UInt8} (h : OrderedSlices ls s)
    (m : List UInt8) : OrderedSlices ls (s ++ m) := by
  induction ls generalizing s with
  | nil => trivial
  | cons l ls ih =>
    rcases h with ⟨g, r, rfl, hr⟩
    exact ⟨g, r ++ m, by simp, ih hr⟩

theorem OrderedSlices.snoc {ls : List CString} {s : List UInt8} (h : OrderedSlices ls s)
    (g l r : List UInt8) : OrderedSlices (ls ++ [l]) (s ++ (g ++ l ++ r)) := by
  induction ls generalizing s with
  | nil => exact ⟨s ++ g, r, by simp, trivial⟩
  | cons k ls ih =>
    rcases h with ⟨g', r', rfl, hr⟩
    exact ⟨g', r' ++ (g ++ l ++ r), by simp, ih hr⟩

def receivedBytes (rs rs' : List ReadResult) : List UInt8 :=
  (streamBytes rs).take ((streamBytes rs).length - (streamBytes rs').length)

theorem receivedBytes_eq {rs rs' : List ReadResult} {r : List UInt8}
    (h : streamBytes rs = r ++ streamBytes rs') : receivedBytes rs rs' = r := by
  simp [receivedBytes, h]

/-- After `k` calls the lines returned are disjoint slices of the bytes received so far, in
order, and the cursor is not behind the NUL that terminates these bytes. -/
def ReadsCleanly (rs : List ReadResult) (k : ℕ) : Prop :=
  let after := readlineCalls k .initial rs
  OrderedSlices (after.1.filterMap id) (receivedBytes rs after.2.2) ∧ after.2.1.cur ≤ after.2.1.fill

/-- The received bytes are the ones behind the lines returned and the unread data. -/
structure Sliced (rs₀ : List ReadResult) (lines : List (Option CString)) (b : AtBuffer)
    (rs : List ReadResult) : Prop where
  live : ∀ q ∈ rs, q.Live
  data : ∃ a u t c, Holding b a u t ∧ streamBytes rs₀ = c ++ u ++ streamBytes rs ∧
    OrderedSlices (lines.filterMap id) c

/-- One more call keeps the slices, or hands out the prompt and overshoots the terminator. -/
theorem Sliced.step {rs₀ rs : List ReadResult} {lines : List (Option CString)} {b : AtBuffer}
    (h : Sliced rs₀ lines b rs) :
    Sliced rs₀ (lines ++ [(readline b rs).1]) (readline b rs).2.1 (readline b rs).2.2 ∨
      ((readline b rs).1 = some smsPrompt ∧
        (readline b rs).2.1.cur = (readline b rs).2.1.fill + 1) := by
  rcases h.data with ⟨a, u, t, c, hb, hstream, hslices⟩
  rcases readline_outcome hb h.live with ⟨w, hw, hlive, hout⟩
  revert hw hlive hout
  generalize (readline b rs).1 = line
  generalize (readline b rs).2.1 = b'
  generalize (readline b rs).2.2 = rs'
  intro hw hlive hout
  rw [hw, ← List.append_assoc, List.append_assoc c] at hstream
  cases hout with
  | closed hold split lost text =>
    rw [split] at hstream
    exact .inl ⟨hlive, _, _, _, _, hold, by rw [hstream, ← List.append_assoc],
      by simpa using hslices.append _⟩
  | @line _ _ _ g s r _ e hold split eol text nonempty lost =>
    rw [split] at hstream
    exact .inl ⟨hlive, _, _, _, _, hold,
      by rw [hstream, List.append_cons (g ++ s) e r, ← List.append_assoc c],
      by simpa using hslices.snoc g s [e]⟩
  | prompt cur split lost => exact .inr ⟨rfl, cur⟩

theorem Sliced.initial {rs : List ReadResult} (h : ∀ q ∈ rs, q.Live) :
    Sliced rs [] .initial rs := by
  rcases Holding.initial with ⟨t, hb⟩
  exact ⟨h, [], [], t, [], hb, by simp, trivial⟩

theorem Sliced.readsCleanly {rs : List ReadResult} {k : ℕ}
    (h : Sliced rs (readlineCalls k .initial rs).1 (readlineCalls k .initial rs).2.1
      (readlineCalls k .initial rs).2.2) : ReadsCleanly rs k := by
  rcases h.data with ⟨a, u, t, c, hb, hstream, hslices⟩
  refine ⟨?_, ?_⟩
  · rw [receivedBytes_eq hstream]
    exact hslices.append u
  · rw [hb.cur, hb.fill]
    omega

theorem Sliced.cur_le {rs₀ rs : List ReadResult} {lines : List (Option CString)} {b : AtBuffer}
    (h : Sliced rs₀ lines b rs) : b.cur ≤ b.fill := by
  rcases h.data with ⟨a, u, t, c, hb, -⟩
  rw [hb.cur, hb.fill]
  omega

/-- After `k` calls that met no prompt the pieces `handed` are handed out: one by each call, or
all there are. -/
structure Plain (rs₀ : List ReadResult) (handed : List Piece) (k : ℕ) (lines : List (Option CString))
    (b : AtBuffer) (rs : List ReadResult) : Prop where
  kept : Kept b
  sliced : Sliced rs₀ lines b rs
  plain : .prompt ∉ handed
  next : (handed.length = k ∧ ∃ done, arrivals rs₀ = done ++ arrivals rs ∧
      Between b handed (intake done)) ∨
    (handed.length ≤ k ∧ rs = [] ∧ handed = (intake (arrivals rs₀)).pieces ∧ ∃ s, Filling b s)

/-- At the end of the input a call changes nothing that matters. -/
theorem Filling.at_end {b : AtBuffer} {s : Intake} (h : Filling b s) :
    (readline b []).1 = none ∧ (readline b []).2.2 = [] ∧
      ∃ s', Filling (readline b []).2.1 s' := by
  obtain ⟨a, t, hb, -⟩ := h.unread
  have hkept := h.reading.kept h.room
  have hwaits (b : AtBuffer) (hroom : b.fill ≠ maxAtResponse) :
      readLoop (readFuel []) b [] = (none, b, []) := by
    rw [show readFuel [] = 0 + 1 from rfl, readLoop, if_neg hroom]
    rfl
  cases hhere : b.here == 0 with
  | true =>
    have hreset := Filling.reset hkept []
    rw [readline, if_pos hhere, hwaits _ hreset.room]
    exact ⟨rfl, rfl, _, hreset⟩
  | false =>
    have htext := h.text_dropWhile
    have hu := h.noNewline
    have hp := h.noPrompt
    have hlook : b.look.1 = none := by
      rw [hb.look_none (by rwa [htext]) ((firstLine_eq_none_iff _).mpr (by rwa [htext]))]
    have hcompact := Filling.compact hkept hhere hlook []
    rw [readline_continue [] hhere hlook, hwaits _ hcompact.room]
    exact ⟨rfl, rfl, _, hcompact⟩

theorem arrivals_nulFree {rs : List ReadResult} (hrs : ∀ q ∈ rs, q.Live) :
    Arrival.byte 0 ∉ arrivals rs := by
  intro h
  obtain ⟨q, hq, hmem⟩ := List.mem_flatMap.mp h
  cases q with
  | data c => exact (hrs _ hq).2 0 (by simpa [ReadResult.arrivals] using hmem) rfl
  | eintr => simp [ReadResult.arrivals] at hmem
  | error => simp [ReadResult.arrivals] at hmem

theorem Plain.piece {rs₀ rs : List ReadResult} {handed : List Piece} {k : ℕ}
    {lines : List (Option CString)} {b : AtBuffer} (h : Plain rs₀ handed k lines b rs)
    (hlen : handed.length = k) {done : List Arrival} (hdone : arrivals rs₀ = done ++ arrivals rs)
    (evs : List Arrival) (p : Piece) (harr : arrivals rs = evs ++ arrivals (readline b rs).2.2)
    (hnext : Between (readline b rs).2.1 (handed ++ [p]) (intake (done ++ evs)))
    (hprompt : p = .prompt ↔ (readline b rs).2.1.fill < (readline b rs).2.1.cur) :
    (∃ handed', Plain rs₀ handed' (k + 1) (lines ++ [(readline b rs).1]) (readline b rs).2.1
      (readline b rs).2.2) ∨
    ((readline b rs).2.1.fill < (readline b rs).2.1.cur ∧
      (intake (arrivals rs₀)).pieces[k]? = some .prompt) := by
  have hall : arrivals rs₀ = (done ++ evs) ++ arrivals (readline b rs).2.2 := by
    rw [hdone, harr, List.append_assoc]
  obtain hsliced | ⟨-, hcur⟩ := h.sliced.step
  · have hp : p ≠ .prompt := fun hp => by
      have := hprompt.mp hp
      have := hsliced.cur_le
      omega
    refine .inl ⟨handed ++ [p], readline_kept h.kept rs, hsliced, ?_,
      .inl ⟨by simp [hlen], _, hall, hnext⟩⟩
    simp [h.plain, Ne.symm hp]
  · obtain rfl : p = .prompt := hprompt.mpr (by omega)
    refine .inr ⟨by omega, ?_⟩
    have hpre : handed ++ [.prompt] <+: (intake (arrivals rs₀)).pieces := by
      rw [hall, intake, List.foldl_append]
      exact hnext.pieces.trans (Intake.foldl_step_pieces _ _)
    rw [← hlen]
    exact List.prefix_iff_getElem?.mp hpre handed.length (by simp) |>.trans (by simp)

/-- One more call meets no prompt, or hands out the prompt as the next piece and overshoots. -/
theorem Plain.step {rs₀ rs : List ReadResult} {handed : List Piece} {k : ℕ}
    {lines : List (Option CString)} {b : AtBuffer} (h : Plain rs₀ handed k lines b rs) :
    (∃ handed', Plain rs₀ handed' (k + 1) (lines ++ [(readline b rs).1]) (readline b rs).2.1
      (readline b rs).2.2) ∨
    ((readline b rs).2.1.fill < (readline b rs).2.1.cur ∧
      (intake (arrivals rs₀)).pieces[k]? = some .prompt) := by
  have hkept := readline_kept h.kept rs
  obtain ⟨hlen, done, hdone, hbetween⟩ | ⟨hlen, rfl, hall, s, hwait⟩ := h.next
  · rcases hbetween.call h.kept (fun q hq => (h.sliced.live q hq).open) with
      ⟨a, u, t, line, hb, hl, hread⟩ | ⟨hpieces, hseen, hreads⟩
    · rcases hbetween with ⟨n, hn, hs⟩
      rw [hb.cur, hb.cstr_rest] at hn
      rcases hb.look_piece handed true hn hl with ⟨p, rfl, hnext, hprompt⟩
      have hfill : b.look.2.fill = a.length + u.length := by
        rcases h.sliced.data with ⟨a', u', t', c, hb', -⟩
        rw [look_fill, hb'.fill, ← hb'.cur, hb.cur, ← hb'.cstr_rest, hb.cstr_rest]
      have hpiece := h.piece hlen hdone [] p
      rw [hread] at hpiece ⊢
      exact hpiece rfl (by rwa [List.append_nil, hs]) (by rw [hfill]; exact hprompt)
    · cases hr : readline b rs with
      | mk line rest =>
        rcases rest with ⟨b', rs'⟩
        rw [hr] at hreads hkept
        dsimp only at hreads hkept ⊢
        cases hreads with
        | closed wait same all =>
          obtain hsliced | ⟨hnone, -⟩ := h.sliced.step
          · rw [hr] at hsliced
            have hend : handed = (intake (arrivals rs₀)).pieces := by
              rw [hdone, intake, List.foldl_append]
              exact (all ▸ same.trans hpieces).symm
            exact .inl ⟨handed, hkept, hsliced, h.plain, .inr ⟨by omega, rfl, hend, _, wait⟩⟩
          · simp [hr] at hnone
        | line wait same read fit found paused split last seen =>
          rcases wait.found fit found with ⟨p, rfl, hnext, hprompt⟩
          rw [seen hseen (arrivals_nulFree h.sliced.live), ← look_fill] at hprompt
          rw [same, hpieces] at hnext
          have hpiece := fun evs => h.piece hlen hdone evs p
          rw [hr] at hpiece
          refine hpiece _ split ?_ hprompt
          rwa [intake, List.foldl_append, List.foldl_append, ← intake, read, last]
  · rcases hwait.at_end with ⟨hline, hrest, s', hwait'⟩
    obtain hsliced | ⟨hnone, -⟩ := h.sliced.step
    · exact .inl ⟨handed, hkept, hsliced, h.plain, .inr ⟨by omega, hrest, hall, s', hwait'⟩⟩
    · simp [hline] at hnone

theorem Plain.initial {rs : List ReadResult} (hrs : ∀ q ∈ rs, q.Live) :
    Plain rs [] 0 [] .initial rs :=
  ⟨.initial, .initial hrs, by simp, .inl ⟨rfl, [], rfl, Between.initial⟩⟩

theorem Plain.no_prompt {rs₀ rs : List ReadResult} {handed : List Piece} {k : ℕ}
    {lines : List (Option CString)} {b : AtBuffer} (h : Plain rs₀ handed k lines b rs) :
    .prompt ∉ (intake (arrivals rs₀)).pieces.take k := by
  obtain ⟨hlen, done, hdone, hbetween⟩ | ⟨hlen, -, hall, -⟩ := h.next
  · have hpre : handed <+: (intake (arrivals rs₀)).pieces := by
      rw [hdone, intake, List.foldl_append]
      exact hbetween.pieces.trans (Intake.foldl_step_pieces _ _)
    rw [← hlen, ← List.prefix_iff_eq_take.mp hpre]
    exact h.plain
  · rw [← hall, List.take_of_length_le hlen]
    exact h.plain

/-- The first `n` calls meet no prompt, or one of them hands it out and overshoots. -/
theorem plain_or_prompt {rs : List ReadResult} (hrs : ∀ q ∈ rs, q.Live) (n : ℕ) :
    (∃ handed, Plain rs handed n (readlineCalls n .initial rs).1 (readlineCalls n .initial rs).2.1
      (readlineCalls n .initial rs).2.2) ∨
    ∃ k < n, (readlineCalls (k + 1) .initial rs).2.1.fill <
        (readlineCalls (k + 1) .initial rs).2.1.cur ∧
      (intake (arrivals rs)).pieces[k]? = some .prompt := by
  induction n with
  | zero => exact .inl ⟨[], .initial hrs⟩
  | succ n ih =>
    obtain ⟨handed, hplain⟩ | ⟨k, hk, hover, hprompt⟩ := ih
    · rw [readlineCalls_succ]
      obtain hnext | ⟨hover, hprompt⟩ := hplain.step
      · exact .inl hnext
      · exact .inr ⟨n, by omega, by rwa [readlineCalls_succ], hprompt⟩
    · exact .inr ⟨k, by omega, hover, hprompt⟩

/-- **Lines are disjoint slices exactly while no `read` stops behind the bare prompt.** -/
theorem readsCleanly_iff_no_prompt (rs : List ReadResult) (hrs : ∀ q ∈ rs, q.Live) (n : ℕ) :
    (∀ k ≤ n, ReadsCleanly rs k) ↔ .prompt ∉ (intake (arrivals rs)).pieces.take n := by
  constructor
  · intro hclean
    obtain ⟨handed, hplain⟩ | ⟨k, hk, hover, -⟩ := plain_or_prompt hrs n
    · exact hplain.no_prompt
    · have := (hclean (k + 1) hk).2
      omega
  · intro hnone k hk
    obtain ⟨handed, hplain⟩ | ⟨j, hj, -, hprompt⟩ := plain_or_prompt hrs k
    · exact hplain.sliced.readsCleanly
    · refine absurd (List.mem_of_getElem? (i := j) ?_) hnone
      rw [List.getElem?_take_of_lt (by omega), hprompt]

/-- Seven received bytes, the prompt and an answer: the cursor overshoots the prompt's
terminator and stale bytes of the first line come back in front of the answer. -/
theorem readsCleanly_fails_at_prompt :
    ¬ (∀ k ≤ 2, ReadsCleanly [.data (ascii "+CSQ:1\r"), .data (ascii "> "), .data (ascii "OK\r")] k) ∧
      (readlineCalls 3 .initial
        [.data (ascii "+CSQ:1\r"), .data (ascii "> "), .data (ascii "OK\r")]).1 =
        [some (ascii "+CSQ:1"), some (ascii "> "), some (ascii "Q:1OK")] := by
  refine ⟨fun h => absurd (h 2 le_rfl).2 ?_, by decide +kernel⟩
  decide +kernel

theorem readsCleanly_iff_no_prompt_split_reply :
    ReadsCleanly [.data (ascii "+CS"), .data (ascii "Q:1\rOK\r> "), .data (ascii "x\r")] 2 :=
  (readsCleanly_iff_no_prompt
    [.data (ascii "+CS"), .data (ascii "Q:1\rOK\r> "), .data (ascii "x\r")]
    (by decide) 2).mpr (by decide +kernel) 2 le_rfl

end Slices

end Fw100.Channel
