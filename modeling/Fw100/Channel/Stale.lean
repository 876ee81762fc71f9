import Fw100.Channel.BufferInvariant
import Fw100.Channel.Readline

/-!
# Buffers that differ only in stale cells

Two buffers that agree up to the terminator of the received data take the same steps. What
lies behind the terminator becomes visible in one way only, through the prompt branch of
`findNextEOL`, which puts the cursor behind the NUL. As long as the stale cells hold no text
the next call starts afresh there, so `readline` cannot tell the two buffers apart.
-/
namespace Fw100.Channel
open Library Text

theorem takeWhile_append_stop {α : Type*} {p : α → Bool} {x : α} (hx : p x = false)
    (u t : List α) : (u ++ x :: t).takeWhile p = u.takeWhile p := by
  induction u with
  | nil => simp [hx]
  | cons a u ih =>
    by_cases ha : p a = true
    · simp [ha, ih]
    · simp [ha]

/-- What lies behind a NUL has no influence on the search for an end of line. Only the prompt
puts the end of line at that NUL. -/
theorem findNextEOL_append_nul (u t : List UInt8) :
    findNextEOL (u ++ 0 :: t) = findNextEOL (u ++ [0]) ∧
      ∀ k, findNextEOL (u ++ 0 :: t) = some k → k ≤ u.length ∧ (k = u.length → 2 ≤ u.length) := by
  have hprompt : atPrompt (u ++ 0 :: t) = atPrompt (u ++ [0]) := by
    unfold atPrompt
    match u with
    | [] => simp
    | [x] => simp
    | x :: y :: u => cases u <;> simp
  have htwo : atPrompt (u ++ 0 :: t) = true → 2 ≤ u.length := by
    unfold atPrompt
    match u with
    | [] => simp
    | [x] => simp
    | x :: y :: u => simp
  have htext : ∀ s, (u ++ 0 :: s).takeWhile (fun c => c != 0 && !isNewline c) =
      u.takeWhile (fun c => c != 0 && !isNewline c) := fun s => takeWhile_append_stop (by simp) u s
  have hle := (List.takeWhile_sublist (fun c => c != 0 && !isNewline c) (l := u)).length_le
  have hget : ∀ k ≤ u.length, (u ++ 0 :: t).getD k 0 = (u ++ [0]).getD k 0 := by
    intro k hk
    obtain hk | rfl := Nat.lt_or_eq_of_le hk
    · simp [List.getD_eq_getElem?_getD, List.getElem?_append_left, hk]
    · simp [List.getD_eq_getElem?_getD]
  constructor
  · simp only [findNextEOL, hprompt, htext, hget _ hle]
  · intro k hk
    unfold findNextEOL at hk
    split at hk
    · next hp =>
      obtain rfl : 2 = k := by simpa using hk
      exact ⟨htwo hp, fun h => h.le⟩
    · simp only [htext] at hk
      split at hk
      · cases hk
      · next hne =>
        obtain rfl : _ = k := by simpa using hk
        refine ⟨hle, fun heq => absurd ?_ hne⟩
        rw [heq]
        simp [List.getD_eq_getElem?_getD]

def harmless (x : UInt8) : Bool := x == 0 || isNewline x

/-- No cell behind the first `k` and from index 3 on holds text. -/
def QuietFrom (k : ℕ) (t : List UInt8) : Prop := ∀ x ∈ t.drop (2 - k), harmless x = true

/-- The buffers agree up to the terminator behind `q`; no text is stale behind it. -/
structure Twin (q : List UInt8) (b b₀ : AtBuffer) : Prop where
  cur : b.cur = b₀.cur
  fill : b.fill = b₀.fill
  cells : ∃ t, b.cells = q ++ 0 :: t ∧ QuietFrom q.length t
  cells₀ : ∃ t, b₀.cells = q ++ 0 :: t ∧ QuietFrom q.length t

theorem rest_of_cells {b : AtBuffer} {q t : List UInt8} (h : b.cells = q ++ 0 :: t)
    (hcur : b.cur ≤ q.length) : b.rest = q.drop b.cur ++ 0 :: t := by
  rw [AtBuffer.rest, h, List.drop_append_of_le_length hcur]

def stored (q : List UInt8) (p : ℕ) (c : List UInt8) : List UInt8 :=
  if p + c.length < q.length then q.take p ++ c ++ 0 :: q.drop (p + c.length + 1)
  else q.take p ++ c

theorem stored_length {q c : List UInt8} {p : ℕ} (hp : p ≤ q.length) :
    (stored q p c).length = max q.length (p + c.length) := by
  unfold stored
  split
  · simp only [List.length_append, List.length_take, List.length_cons, List.length_drop]
    omega
  · simp only [List.length_append, List.length_take]
    omega

theorem overwrite_stored {q t c : List UInt8} {p : ℕ} (hp : p ≤ q.length)
    (hfit : p + c.length ≤ q.length + t.length) :
    overwrite p (c ++ [0]) (q ++ 0 :: t) =
      stored q p c ++ 0 :: t.drop (p + c.length - q.length) := by
  have hsplit : q ++ 0 :: t = q.take p ++ (q.drop p ++ 0 :: t) := by
    rw [← List.append_assoc, List.take_append_drop]
  have hlen : (q.take p).length = p := by simp [hp]
  have hover := overwrite_append (a := q.take p) (c := c ++ [0]) (l := q.drop p ++ 0 :: t)
    (by simp; omega)
  rw [hlen, ← hsplit] at hover
  rw [hover, List.length_append, List.length_singleton, List.drop_append, List.length_drop]
  unfold stored
  split
  · next hlt =>
    have h0 : p + c.length - q.length = 0 := by omega
    have h1 : c.length + 1 - (q.length - p) = 0 := by omega
    rw [h0, h1, List.drop_drop]
    simp [Nat.add_assoc]
  · next hge =>
    have h0 : (q.drop p).drop (c.length + 1) = [] := by
      rw [List.drop_drop, List.drop_eq_nil_iff]
      omega
    have h1 : c.length + 1 - (q.length - p) = (p + c.length - q.length) + 1 := by omega
    rw [h0, h1]
    simp

theorem QuietFrom.stored {q t c : List UInt8} {p : ℕ} (h : QuietFrom q.length t)
    (hp : p ≤ q.length) :
    QuietFrom (stored q p c).length (t.drop (p + c.length - q.length)) := by
  rw [QuietFrom, stored_length hp, List.drop_drop]
  intro x hx
  refine h x ((List.drop_subset_drop_left t ?_) hx)
  omega

/-- The string at the cursor lies in front of the terminator. -/
theorem cstr_append (u t : List UInt8) : cstr (u ++ 0 :: t) = cstr u :=
  takeWhile_append_stop (by simp) u t

theorem take_cstr (u t : List UInt8) :
    (u ++ 0 :: t).take ((cstr u).length + 1) = cstr u ++ [0] := by
  induction u with
  | nil => simp [cstr]
  | cons x u ih =>
    by_cases hx : x = 0
    · simp [cstr, hx]
    · simpa [cstr, hx] using ih

theorem length_cstr_drop (q : List UInt8) (k : ℕ) : (cstr (q.drop k)).length ≤ q.length := by
  have h1 := (List.takeWhile_sublist (· != 0) (l := q.drop k)).length_le
  have h2 : (q.drop k).length ≤ q.length := by simp
  exact h1.trans h2

theorem compact_of_cells {b : AtBuffer} {q t : List UInt8} (h : b.cells = q ++ 0 :: t)
    (hcur : b.cur ≤ q.length) :
    b.compact.cells = stored q 0 (cstr (q.drop b.cur)) ++ 0 :: t ∧
      b.compact.fill = (cstr (q.drop b.cur)).length := by
  have hrest := rest_of_cells h hcur
  have hle := length_cstr_drop q b.cur
  rw [AtBuffer.compact_cells, AtBuffer.compact_fill, hrest, cstr_append, take_cstr, h]
  refine ⟨?_, rfl⟩
  have hover := overwrite_stored (q := q) (t := t) (c := cstr (q.drop b.cur)) (p := 0) (by omega)
    (by omega)
  have h0 : 0 + (cstr (q.drop b.cur)).length - q.length = 0 := by omega
  rwa [h0, List.drop_zero] at hover

namespace Twin
variable {q : List UInt8} {b b₀ : AtBuffer}

theorem here (h : Twin q b b₀) (hcur : b.cur ≤ q.length) : b.here = b₀.here := by
  rcases h.cells with ⟨t, ht, -⟩
  rcases h.cells₀ with ⟨t₀, ht₀, -⟩
  rw [AtBuffer.here, AtBuffer.here, rest_of_cells ht hcur, rest_of_cells ht₀ (h.cur ▸ hcur), h.cur]
  cases q.drop b₀.cur <;> rfl

theorem reset (h : Twin q b b₀) : Twin (q.set 0 0) b.reset b₀.reset := by
  rcases h.cells with ⟨t, ht, hq⟩
  rcases h.cells₀ with ⟨t₀, ht₀, hq₀⟩
  refine ⟨rfl, rfl, ⟨t, ?_, by simpa using hq⟩, ⟨t₀, ?_, by simpa using hq₀⟩⟩
  · cases q <;> simp [AtBuffer.reset, ht]
  · cases q <;> simp [AtBuffer.reset, ht₀]

theorem store (h : Twin q b b₀) {c : List UInt8} (hfill : b.fill ≤ q.length)
    (hroom : b.fill + c.length ≤ maxAtResponse) :
    Twin (stored q b.fill c) (b.store c) (b₀.store c) := by
  have hlen := b.cells_length
  have hlen₀ := b₀.cells_length
  rcases h.cells with ⟨t, ht, hq⟩
  rcases h.cells₀ with ⟨t₀, ht₀, hq₀⟩
  rw [ht, List.length_append, List.length_cons] at hlen
  rw [ht₀, List.length_append, List.length_cons] at hlen₀
  refine ⟨h.cur, ?_, ⟨_, ?_, hq.stored hfill⟩, ⟨_, ?_, hq₀.stored hfill⟩⟩
  · simp [h.fill]
  · rw [AtBuffer.store_cells, ht, overwrite_stored hfill (by omega)]
  · rw [AtBuffer.store_cells, ← h.fill, ht₀, overwrite_stored hfill (by omega)]

theorem compact (h : Twin q b b₀) (hcur : b.cur ≤ q.length) :
    Twin (stored q 0 (cstr (q.drop b.cur))) b.compact b₀.compact ∧
      (stored q 0 (cstr (q.drop b.cur))).length = q.length ∧ b.compact.fill ≤ q.length := by
  rcases h.cells with ⟨t, ht, hq⟩
  rcases h.cells₀ with ⟨t₀, ht₀, hq₀⟩
  rcases compact_of_cells ht hcur with ⟨hc, hf⟩
  rcases compact_of_cells ht₀ (h.cur ▸ hcur) with ⟨hc₀, hf₀⟩
  rw [← h.cur] at hc₀ hf₀
  have hle := length_cstr_drop q b.cur
  have hsame : (stored q 0 (cstr (q.drop b.cur))).length = q.length := by
    rw [stored_length (by omega)]
    omega
  exact ⟨⟨rfl, hf.trans hf₀.symm, ⟨t, hc, hsame ▸ hq⟩, ⟨t₀, hc₀, hsame ▸ hq₀⟩⟩, hsame, hf ▸ hle⟩

theorem skipNewlines (h : Twin q b b₀) (hcur : b.cur ≤ q.length) :
    Twin q b.skipNewlines b₀.skipNewlines ∧ b.skipNewlines.cur ≤ q.length := by
  rcases h.cells with ⟨t, ht, hq⟩
  rcases h.cells₀ with ⟨t₀, ht₀, hq₀⟩
  have hrest := rest_of_cells ht hcur
  have hrest₀ := rest_of_cells ht₀ (h.cur ▸ hcur)
  have hskip := takeWhile_append_stop isNewline_zero (q.drop b.cur) t
  have hskip₀ := takeWhile_append_stop isNewline_zero (q.drop b₀.cur) t₀
  have hle := (List.takeWhile_sublist isNewline (l := q.drop b.cur)).length_le
  rw [List.length_drop] at hle
  refine ⟨⟨?_, h.fill, ⟨t, ht, hq⟩, ⟨t₀, ht₀, hq₀⟩⟩, ?_⟩
  · rw [AtBuffer.skipNewlines_cur, AtBuffer.skipNewlines_cur, hrest, hrest₀, hskip, hskip₀, h.cur]
  · rw [AtBuffer.skipNewlines_cur, hrest, hskip]
    omega

theorem cut (h : Twin q b b₀) {k : ℕ} (hk : b.cur + k ≤ q.length) :
    Twin (q.set (b.cur + k) 0) (b.cut k) (b₀.cut k) := by
  have hset : ∀ t : List UInt8, (q ++ 0 :: t).set (b.cur + k) 0 = q.set (b.cur + k) 0 ++ 0 :: t := by
    intro t
    obtain hlt | heq := Nat.lt_or_eq_of_le hk
    · rw [List.set_append_left _ _ hlt]
    · rw [List.set_append_right _ _ (by omega), heq, List.set_eq_of_length_le le_rfl]
      simp
  rcases h.cells with ⟨t, ht, hq⟩
  rcases h.cells₀ with ⟨t₀, ht₀, hq₀⟩
  refine ⟨?_, h.fill, ⟨t, ?_, by simpa using hq⟩, ⟨t₀, ?_, by simpa using hq₀⟩⟩
  · simp [h.cur]
  · rw [AtBuffer.cut_cells, ht, hset]
  · rw [AtBuffer.cut_cells, ← h.cur, ht₀, hset]

theorem look (h : Twin q b b₀) (hcur : b.cur ≤ q.length) :
    b.look.1 = b₀.look.1 ∧ b.look.2.fill = b.fill ∧
      ∃ q', q'.length = q.length ∧ Twin q' b.look.2 b₀.look.2 ∧
        (b.look.2.cur ≤ q.length ∨
          b.look.1.isSome ∧ b.look.2.cur = q.length + 1 ∧ 2 ≤ q.length) := by
  rcases h.skipNewlines hcur with ⟨hs, hcur'⟩
  rcases hs.cells with ⟨t, ht, hq⟩
  rcases hs.cells₀ with ⟨t₀, ht₀, hq₀⟩
  have hrest := rest_of_cells ht hcur'
  have hrest₀ := rest_of_cells ht₀ (hs.cur ▸ hcur')
  rw [← hs.cur] at hrest₀
  rcases findNextEOL_append_nul (q.drop b.skipNewlines.cur) t with ⟨heol, hk⟩
  rcases findNextEOL_append_nul (q.drop b.skipNewlines.cur) t₀ with ⟨heol₀, -⟩
  rw [← hrest] at heol hk
  rw [← hrest₀, ← heol] at heol₀
  unfold AtBuffer.look
  dsimp only
  rw [heol₀]
  cases hf : findNextEOL b.skipNewlines.rest with
  | none => exact ⟨rfl, rfl, q, rfl, hs, .inl hcur'⟩
  | some k =>
    rcases hk k hf with ⟨hle, hend⟩
    rw [List.length_drop] at hle hend
    have hcut := hs.cut (k := k) (by omega)
    rcases hcut.cells with ⟨s, hcells, -⟩
    rcases hcut.cells₀ with ⟨s₀, hcells₀, -⟩
    refine ⟨?_, rfl, _, by simp, hcut, ?_⟩
    · dsimp only
      rw [hcells, hcells₀, ← hs.cur, List.drop_append_of_le_length (by simpa using hcur'),
        List.drop_append_of_le_length (by simpa using hcur'), cstr_append, cstr_append]
    · simp only [AtBuffer.cut_cur, Option.isSome_some, true_and]
      omega

end Twin

/-- Two buffers that the next call of `readline` cannot tell apart. -/
structure Alike (b b₀ : AtBuffer) : Prop where
  kept : Kept b
  kept₀ : Kept b₀
  twin : ∃ q, Twin q b b₀ ∧ (b.cur ≤ q.length ∨ b.cur = q.length + 1 ∧ 2 ≤ q.length)

/-- The results of two calls agree and leave buffers alike. -/
def SameCall (r r₀ : Option CString × AtBuffer × List ReadResult) : Prop :=
  r.1 = r₀.1 ∧ r.2.2 = r₀.2.2 ∧ ∃ q, Twin q r.2.1 r₀.2.1 ∧
    (r.2.1.cur ≤ q.length ∨ r.2.1.cur = q.length + 1 ∧ 2 ≤ q.length)

theorem sysRead_length {n : ℕ} {rs rs' : List ReadResult} {c : List UInt8}
    (h : sysRead n rs = (.data c, rs')) : c.length ≤ n := by
  match rs with
  | [] =>
    obtain ⟨rfl, -⟩ : [] = c ∧ _ := by simpa [sysRead] using h
    simp
  | .eintr :: rs => simp [sysRead] at h
  | .error :: rs => simp [sysRead] at h
  | .data d :: rs =>
    by_cases hd : d.length ≤ n
    · obtain ⟨rfl, -⟩ : d = c ∧ _ := by simpa [sysRead, hd] using h
      exact hd
    · obtain ⟨rfl, -⟩ : d.take n = c ∧ _ := by simpa [sysRead, hd] using h
      simp

theorem readLoop_twin (fuel : ℕ) {q : List UInt8} {b b₀ : AtBuffer} {rs : List ReadResult}
    (h : Twin q b b₀) (hcur : b.cur ≤ q.length) (hfill : b.fill ≤ q.length) :
    SameCall (readLoop fuel b rs) (readLoop fuel b₀ rs) := by
  induction fuel generalizing q b b₀ rs with
  | zero => exact ⟨rfl, rfl, q, h, .inl hcur⟩
  | succ fuel ih =>
    wlog hroom : b.fill ≠ maxAtResponse generalizing q b b₀
    · have hfull : b.fill = maxAtResponse := by simpa using hroom
      rw [readLoop_full (b := b) hfull fuel rs, readLoop_full (b := b₀) (h.fill ▸ hfull) fuel rs]
      exact this h.reset (Nat.zero_le _) (Nat.zero_le _) (reset_fill_ne b)
    have hroom₀ : b₀.fill ≠ maxAtResponse := h.fill ▸ hroom
    cases hres : sysRead (maxAtResponse - b.fill) rs with
    | mk r rs' =>
      have hres₀ : sysRead (maxAtResponse - b₀.fill) rs = (r, rs') := h.fill ▸ hres
      cases r with
      | error =>
        simp only [readLoop, hroom, hroom₀, hres, hres₀, if_false]
        exact ⟨rfl, rfl, q, h, .inl hcur⟩
      | eintr =>
        simp only [readLoop, hroom, hroom₀, hres, hres₀, if_false]
        exact ih h hcur hfill
      | data c =>
        cases c with
        | nil =>
          simp only [readLoop, hroom, hroom₀, hres, hres₀, if_false]
          exact ⟨rfl, rfl, q, h, .inl hcur⟩
        | cons x c =>
          have hlen := sysRead_length hres
          have hmax : b.fill + (x :: c).length ≤ maxAtResponse := by
            simp only [List.length_cons] at hlen ⊢
            omega
          have hs := h.store (c := x :: c) hfill hmax
          have hql := stored_length (q := q) (c := x :: c) hfill
          obtain ⟨hline, hkeep, q', hq', ht', hpos⟩ := hs.look (by
            rw [hql]
            exact hcur.trans (le_max_left _ _))
          cases hl : (b.store (x :: c)).look.1 with
          | some line =>
            rw [readLoop_found fuel hroom hres hl,
              readLoop_found fuel hroom₀ hres₀ (hline.symm.trans hl)]
            refine ⟨rfl, rfl, q', ht', ?_⟩
            rw [hq']
            exact hpos.imp id (fun h => h.2)
          | none =>
            rw [readLoop_continue fuel hroom hres hl,
              readLoop_continue fuel hroom₀ hres₀ (hline.symm.trans hl)]
            refine ih ht' ?_ ?_
            · rw [hq']
              simpa [hl] using hpos
            · rw [hkeep, AtBuffer.store_fill, hq', hql]
              exact le_max_right _ _

/-- With only newlines left unread a call starts on an empty buffer. -/
theorem readline_restart {b : AtBuffer} (hb : Kept b) (hrest : ∀ x ∈ cstr b.rest, isNewline x = true)
    (rs : List ReadResult) : readline b rs = readLoop (readFuel rs) b.reset rs := by
  cases hhere : b.here == 0 with
  | true => rw [readline, if_pos hhere]
  | false =>
    obtain ⟨t, ht⟩ := cstr_terminated (hb.rest_zero (cur_le_of_here hhere))
    have hskip : b.rest.takeWhile isNewline = cstr b.rest := by
      have := takeWhile_append_stop isNewline_zero (cstr b.rest) t
      rwa [← ht, List.takeWhile_eq_self_iff.mpr hrest] at this
    have hnul : b.skipNewlines.rest = 0 :: t := by
      rw [AtBuffer.rest, AtBuffer.skipNewlines_cells, AtBuffer.skipNewlines_cur, hskip,
        ← List.drop_drop, ← AtBuffer.rest]
      have := congrArg (List.drop (cstr b.rest).length) ht
      rwa [List.drop_left] at this
    have hnone : b.look.1 = none := by
      simp [AtBuffer.look, hnul, findNextEOL, atPrompt]
    have hcompact : b.skipNewlines.compact = b.reset := by
      simp [AtBuffer.compact, AtBuffer.reset, hnul, cstr, overwrite_singleton]
    rw [readline_continue rs hhere hnone, look_none_skip hnone, hcompact]

theorem quiet_behind {b : AtBuffer} {q t : List UInt8} (hcells : b.cells = q ++ 0 :: t)
    (hq : QuietFrom q.length t) (hcur : b.cur = q.length + 1) (htwo : 2 ≤ q.length) :
    ∀ x ∈ cstr b.rest, isNewline x = true := by
  have hrest : b.rest = t := by simp [AtBuffer.rest, hcells, hcur]
  rw [QuietFrom, Nat.sub_eq_zero_of_le htwo, List.drop_zero] at hq
  intro x hx
  rw [hrest] at hx
  have hne : x ≠ 0 := by simpa using List.mem_takeWhile_imp hx
  simpa [harmless, hne] using hq x ((List.takeWhile_sublist _).subset hx)

/-- One call on buffers alike returns the same line and leaves buffers alike. -/
theorem Alike.readline {b b₀ : AtBuffer} (h : Alike b b₀) (rs : List ReadResult) :
    (readline b rs).1 = (readline b₀ rs).1 ∧ (readline b rs).2.2 = (readline b₀ rs).2.2 ∧
      Alike (readline b rs).2.1 (readline b₀ rs).2.1 := by
  have hsame : SameCall (Channel.readline b rs) (Channel.readline b₀ rs) := by
    rcases h.twin with ⟨q, ht, hcur | ⟨hcur, htwo⟩⟩
    · have hhere := ht.here hcur
      cases h0 : b.here == 0 with
      | true =>
        rw [Channel.readline, if_pos h0, Channel.readline, if_pos (hhere ▸ h0)]
        exact readLoop_twin _ ht.reset (Nat.zero_le _) (Nat.zero_le _)
      | false =>
        have h0₀ : (b₀.here == 0) = false := hhere ▸ h0
        rcases ht.look hcur with ⟨hline, -, q', hq', ht', hpos⟩
        cases hl : b.look.1 with
        | some line =>
          rw [readline_found rs h0 hl, readline_found rs h0₀ (hline.symm.trans hl)]
          refine ⟨rfl, rfl, q', ht', ?_⟩
          rw [hq']
          exact hpos.imp id (fun h => h.2)
        | none =>
          rw [readline_continue rs h0 hl, readline_continue rs h0₀ (hline.symm.trans hl)]
          rcases ht'.compact (by rw [hq']; simpa [hl] using hpos) with ⟨hc, hsize, hfill⟩
          exact readLoop_twin _ hc (Nat.zero_le _) (hsize ▸ hfill)
    · rcases ht.cells with ⟨t, hcells, hq⟩
      rcases ht.cells₀ with ⟨t₀, hcells₀, hq₀⟩
      rw [readline_restart h.kept (quiet_behind hcells hq hcur htwo),
        readline_restart h.kept₀ (quiet_behind hcells₀ hq₀ (ht.cur ▸ hcur) htwo)]
      exact readLoop_twin _ ht.reset (Nat.zero_le _) (Nat.zero_le _)
  rcases hsame with ⟨hline, hrs, htwin⟩
  exact ⟨hline, hrs, readline_kept h.kept rs, readline_kept h.kept₀ rs, htwin⟩

theorem Alike.readlineCalls {b b₀ : AtBuffer} (h : Alike b b₀) (n : ℕ) (rs : List ReadResult) :
    (readlineCalls n b rs).1 = (readlineCalls n b₀ rs).1 := by
  induction n generalizing b b₀ rs with
  | zero => rfl
  | succ n ih =>
    rcases h.readline rs with ⟨hline, hrs, halike⟩
    have htail := ih halike (Channel.readline b rs).2.2
    simp only [Channel.readlineCalls]
    rw [htail, hline, hrs]

end Fw100.Channel
