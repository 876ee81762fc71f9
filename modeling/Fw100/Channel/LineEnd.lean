import Fw100.Channel.ReadOn
import Fw100.Channel.Readline

/-!
# The call that passes the end of a line

A byte of the stream that ends a line is first still to come, then stands in the buffer, then a
call passes it. What that call returns is decided by the intake in front of the byte.
-/
namespace Fw100.Channel
open Library Text

def leftOver (b : AtBuffer) (rs : List ReadResult) : ℕ := b.fill - b.cur + (streamBytes rs).length
def received (as : List Arrival) : List UInt8 :=
  as.filterMap fun | .byte c => some c | .pause => none

theorem received_append (as bs : List Arrival) :
    received (as ++ bs) = received as ++ received bs := List.filterMap_append

theorem received_bytes (c : List UInt8) : received (c.map .byte) = c := by
  simp [received, List.filterMap_map]

theorem received_arrivals (rs : List ReadResult) : received (arrivals rs) = streamBytes rs := by
  induction rs with
  | nil => rfl
  | cons r rs ih =>
    have hr : received r.arrivals = r.bytes := by
      cases r with
      | data c => rw [ReadResult.arrivals, received_append, received_bytes]; exact List.append_nil c
      | eintr => rfl
      | error => rfl
    rw [streamBytes_cons, ← ih, ← hr, ← received_append]
    rfl

theorem received_pauses {tail : List Arrival} (h : ∀ x ∈ tail, x = .pause) : received tail = [] := by
  rw [received, List.filterMap_eq_nil_iff]
  intro x hx
  rw [h x hx]

/-! ### Looking past a line -/

theorem cstr_cases (l : List UInt8) : (∀ x ∈ l, x ≠ 0) ∨ ∃ r, l = cstr l ++ 0 :: r := by
  by_cases h : 0 ∈ l
  · obtain ⟨k, hk⟩ := List.getElem?_of_mem h
    exact .inr (cstr_terminated hk)
  · exact .inl (fun x hx h0 => h (h0 ▸ hx))

/-- The buffer whose rest is data with its terminator. -/
theorem unread_of_rest {b : AtBuffer} {l t : List UInt8} (h : b.rest = l ++ 0 :: t) :
    ∃ t', Unread b (b.cells.take b.cur) (cstr l) t' := by
  have hunread := unread_of_zero (b := b) (k := l.length) (by simp [h])
  rwa [h, cstr_append_zero] at hunread

/-- A line found ends in front of the cursor, and what follows stays. -/
theorem look_rest {b : AtBuffer} {line : CString} (h : b.look.1 = some line) {k : ℕ}
    (hk : b.look.2.cur = b.cur + k) : b.look.2.rest = b.rest.drop k := by
  obtain ⟨j, hj⟩ := look_some h
  have hcur : b.look.2.cur = b.skipNewlines.cur + j + 1 := by rw [hj, AtBuffer.cut_cur]
  have hcells : b.look.2.cells = b.cells.set (b.skipNewlines.cur + j) 0 := by
    rw [hj, AtBuffer.cut_cells, AtBuffer.skipNewlines_cells]
  rw [AtBuffer.rest, hcells, List.drop_set_of_lt (by omega), hk, AtBuffer.rest, List.drop_drop]

/-- A line found is not empty and lies in the data. -/
theorem Unread.look_cur {b : AtBuffer} {a u t : List UInt8} (h : Unread b a u t) {line : CString}
    (hl : b.look.1 = some line) :
    a.length + (u.takeWhile isNewline).length + 2 ≤ b.look.2.cur ∧
      b.look.2.cur ≤ a.length + u.length + 1 := by
  have hcat := congrArg List.length (List.takeWhile_append_dropWhile (p := isNewline) (l := u))
  rw [List.length_append] at hcat
  by_cases hp : u.dropWhile isNewline = smsPrompt
  · have hcur := (h.look_prompt hp).2.2
    have h2 : (u.dropWhile isNewline).length = 2 := by rw [hp]; rfl
    omega
  · cases hf : firstLine isNewline u with
    | none => simp [h.look_none hp hf] at hl
    | some q =>
      rcases q with ⟨s, r⟩
      rcases firstLine_eq_some _ hf with ⟨e, hu, -, -, hne⟩
      have hpos := List.length_pos_iff.mpr hne
      have hcur := (h.look_line hp hf).2.cur
      have hlen := congrArg List.length hu
      simp only [List.length_append, List.length_cons, List.length_nil] at hlen hcur
      omega

theorem not_prompt_of_firstLine {u s r : List UInt8} (h : firstLine isNewline u = some (s, r)) :
    u.dropWhile isNewline ≠ smsPrompt := by
  intro hp
  have hnone : firstLine isNewline u = none := by
    rw [firstLine_eq_none_iff, hp]
    exact smsPrompt_no_newline
  simp [hnone] at h

/-- A complete line in front is handed out, and the cursor is moved behind its end. -/
theorem Unread.look_at {b : AtBuffer} {a g s r t : List UInt8} {e : UInt8}
    (h : Unread b a (g ++ s ++ e :: r) t) (hg : ∀ x ∈ g, isNewline x = true)
    (hs : ∀ x ∈ s, isNewline x = false) (hne : s ≠ []) (he : isNewline e = true) :
    b.look.1 = some s ∧ b.look.2.cur = b.cur + (g ++ s ++ [e]).length := by
  have hfirst := firstLine_of_eq isNewline (r := r) hg hs hne he
  have htake : (g ++ s ++ e :: r).takeWhile isNewline = g := by
    rw [List.append_assoc, List.takeWhile_append_of_pos hg]
    obtain ⟨x, s, rfl⟩ := List.exists_cons_of_ne_nil hne
    simp [hs x (by simp)]
  obtain ⟨hline, hnext⟩ := h.look_line (not_prompt_of_firstLine hfirst) hfirst
  refine ⟨hline, ?_⟩
  rw [hnext.cur, htake, h.cur]
  simp

theorem cstr_line {g s : List UInt8} {e : UInt8} (hg : ∀ x ∈ g, isNewline x = true)
    (hs : ∀ x ∈ s, x ≠ 0) (he : isNewline e = true) (v : List UInt8) :
    cstr (g ++ s ++ e :: v) = g ++ s ++ e :: cstr v := by
  rw [List.append_cons, cstr_append, ← List.append_cons]
  intro x hx
  simp only [List.mem_append, List.mem_singleton] at hx
  obtain (hx | hx) | rfl := hx
  · exact newline_ne_zero (hg x hx)
  · exact hs x hx
  · exact newline_ne_zero he

/-! ### The end of a line in the buffer -/

/-- The end of the line stands in the buffer, `left` bytes of the stream in front of the end. -/
structure InBuffer (S : Intake) (e : UInt8) (left : ℕ) (handed : List Piece) (b : AtBuffer)
    (rs : List ReadResult) : Prop where
  held : ∃ v₁ v₂ t, b.rest = v₁ ++ e :: v₂ ++ 0 :: t ∧ b.fill = b.cur + (v₁ ++ e :: v₂).length ∧
    v₂.length + (streamBytes rs).length = left ∧ Intake.Alike (readOn handed v₁) S

/-- The call has passed the end of the line: `S` is the intake in front of it. -/
structure Passed (S : Intake) (left : ℕ) (handed : List Piece) (line : Option CString)
    (b : AtBuffer) (rs : List ReadResult) : Prop where
  pieces : S.pieces = handed
  outcome : S.line ≠ [] ∧ line = some S.line ∧ leftOver b rs = left ∨
    S.line = [] ∧ (line = none ∨ leftOver b rs < left)

theorem InBuffer.left_lt {S : Intake} {e : UInt8} {left : ℕ} {handed : List Piece} {b : AtBuffer}
    {rs : List ReadResult} (h : InBuffer S e left handed b rs) : left < leftOver b rs := by
  obtain ⟨v₁, v₂, t, -, hfill, hleft, -⟩ := h.held
  rw [List.length_append, List.length_cons] at hfill
  rw [Channel.leftOver]
  omega

/-- A line that ends in front of the end of the line is handed out first. -/
theorem InBuffer.look_front {S : Intake} {e : UInt8} {left : ℕ} {handed : List Piece}
    {b : AtBuffer} {rs : List ReadResult} {w v₁ v₂ t : List UInt8} {p : Piece}
    (hrest : b.rest = w ++ v₁ ++ e :: v₂ ++ 0 :: t)
    (hfill : b.fill = b.cur + (w ++ v₁ ++ e :: v₂).length)
    (hleft : v₂.length + (streamBytes rs).length = left)
    (hread : Intake.Alike (readOn handed (w ++ v₁)) S)
    (hpiece : Intake.Alike (readOn handed (w ++ v₁)) (readOn (handed ++ [p]) v₁))
    {line : CString} (hl : b.look.1 = some line) (hcur : b.look.2.cur = b.cur + w.length) :
    InBuffer S e left (handed ++ [p]) b.look.2 rs := by
  refine ⟨v₁, v₂, t, ?_, ?_, hleft, hpiece.symm.trans hread⟩
  · rw [look_rest hl hcur, hrest, List.append_assoc, List.append_assoc, List.drop_left,
      List.append_assoc]
  · rw [look_fill, hfill, hcur]
    simp only [List.length_append]
    omega

/-- Only newlines stand in front of the end of the line, so there is no line to it. -/
theorem InBuffer.look_newlines {S : Intake} {e : UInt8} {left : ℕ} {handed : List Piece}
    {b : AtBuffer} {rs : List ReadResult} {g v₂ t : List UInt8}
    (hrest : b.rest = g ++ e :: v₂ ++ 0 :: t) (hfill : b.fill = b.cur + (g ++ e :: v₂).length)
    (he : isNewline e = true) (hg : ∀ x ∈ g, isNewline x = true)
    (hleft : v₂.length + (streamBytes rs).length = left)
    (hread : Intake.Alike (readOn handed g) S) {line : CString} (hl : b.look.1 = some line) :
    Passed S left handed (some line) b.look.2 rs := by
  have hempty := hread.symm.trans (by simpa using readOn_newlines handed hg [])
  refine ⟨hempty.pieces, .inr ⟨hempty.line, .inr ?_⟩⟩
  obtain ⟨t', hb⟩ := unread_of_rest hrest
  have hge : ∀ x ∈ g ++ [e], isNewline x = true := by simpa [or_imp, forall_and] using ⟨hg, he⟩
  have hcstr : cstr (g ++ e :: v₂) = (g ++ [e]) ++ cstr v₂ := by
    rw [List.append_cons, cstr_append (fun x hx => newline_ne_zero (hge x hx))]
  have htake : (cstr (g ++ e :: v₂)).takeWhile isNewline =
      (g ++ [e]) ++ (cstr v₂).takeWhile isNewline := by
    rw [hcstr, List.takeWhile_append_of_pos hge]
  obtain ⟨hlow, hhigh⟩ := hb.look_cur hl
  have hle := (List.takeWhile_sublist (l := v₂) (· != 0)).length_le
  rw [htake, ← hb.cur] at hlow
  rw [hcstr, ← hb.cur] at hhigh
  rw [leftOver, look_fill, hfill]
  simp only [cstr, List.length_append, List.length_cons, List.length_nil] at hlow hhigh hle ⊢
  omega

/-- The text in front of the end of the line is handed out with it. -/
theorem InBuffer.look_end {S : Intake} {e : UInt8} {left : ℕ} {handed : List Piece}
    {b : AtBuffer} {rs : List ReadResult} {g s v₂ t : List UInt8}
    (hrest : b.rest = g ++ s ++ e :: v₂ ++ 0 :: t)
    (hfill : b.fill = b.cur + (g ++ s ++ e :: v₂).length) (he : isNewline e = true)
    (hg : ∀ x ∈ g, isNewline x = true) (hs : ∀ x ∈ s, isNewline x = false)
    (hnul : ∀ x ∈ s, x ≠ 0) (hne : s ≠ []) (hleft : v₂.length + (streamBytes rs).length = left)
    (hread : Intake.Alike (readOn handed (g ++ s)) S) {line : CString}
    (hl : b.look.1 = some line) : Passed S left handed (some line) b.look.2 rs := by
  have htext := hread.symm.trans ((readOn_newlines handed hg s).trans (readOn_text handed hs hnul))
  obtain ⟨t', hb⟩ := unread_of_rest hrest
  rw [cstr_line hg hnul he] at hb
  obtain ⟨hline, hcur⟩ := hb.look_at hg hs hne he
  obtain rfl : line = s := by simpa [hl] using hline
  have hline' : S.line = line := htext.line
  refine ⟨htext.pieces, .inl ⟨by rwa [hline'], by rw [hline'], ?_⟩⟩
  rw [leftOver, look_fill, hfill, hcur]
  simp only [List.length_append, List.length_cons, List.length_nil]
  omega

/-- A line that is complete in front of the end of the line. -/
theorem InBuffer.look_line {S : Intake} {e : UInt8} {left : ℕ} {handed : List Piece}
    {b : AtBuffer} {rs : List ReadResult} {g s v v₂ t : List UInt8} {e₁ : UInt8}
    (hrest : b.rest = g ++ s ++ [e₁] ++ v ++ e :: v₂ ++ 0 :: t)
    (hfill : b.fill = b.cur + (g ++ s ++ [e₁] ++ v ++ e :: v₂).length)
    (hg : ∀ x ∈ g, isNewline x = true) (hs : ∀ x ∈ s, isNewline x = false)
    (hnul : ∀ x ∈ s, x ≠ 0) (hne : s ≠ []) (he₁ : isNewline e₁ = true)
    (hleft : v₂.length + (streamBytes rs).length = left)
    (hread : Intake.Alike (readOn handed (g ++ s ++ [e₁] ++ v)) S) {line : CString}
    (hl : b.look.1 = some line) :
    line = s ∧ InBuffer S e left (handed ++ [.line s]) b.look.2 rs := by
  obtain ⟨t', hb⟩ := unread_of_rest hrest
  rw [List.append_assoc (g ++ s ++ [e₁]), List.append_assoc (g ++ s), List.singleton_append,
    cstr_line hg hnul he₁] at hb
  obtain ⟨hline, hcur⟩ := hb.look_at hg hs hne he₁
  refine ⟨by simpa [hl] using hline, look_front hrest hfill hleft hread ?_ hl hcur⟩
  have hpiece := (readOn_newlines handed hg _).trans (readOn_line handed hs hnul hne he₁ v)
  simpa using hpiece

/-- A NUL in front of the end of the line: only a prompt is handed out. -/
theorem InBuffer.look_hidden {S : Intake} {e : UInt8} {left : ℕ} {handed : List Piece}
    {b : AtBuffer} {rs : List ReadResult} {w v v₂ t : List UInt8}
    (hrest : b.rest = w ++ [0] ++ v ++ e :: v₂ ++ 0 :: t)
    (hfill : b.fill = b.cur + (w ++ [0] ++ v ++ e :: v₂).length)
    (hnul : ∀ x ∈ w, x ≠ 0) (hf : firstLine isNewline w = none)
    (hleft : v₂.length + (streamBytes rs).length = left)
    (hread : Intake.Alike (readOn handed (w ++ [0] ++ v)) S) {line : CString}
    (hl : b.look.1 = some line) :
    line = smsPrompt ∧ InBuffer S e left (handed ++ [.prompt]) b.look.2 rs := by
  obtain ⟨t', hb⟩ := unread_of_rest hrest
  have hcstr : cstr (w ++ [0] ++ v ++ e :: v₂) = w := by
    rw [List.append_assoc, List.append_assoc, cstr_append hnul]
    simp [cstr]
  rw [hcstr] at hb
  by_cases hp : w.dropWhile isNewline = smsPrompt
  · obtain ⟨hline, -, hcur⟩ := hb.look_prompt hp
    have hcur' : b.look.2.cur = b.cur + (w ++ [0]).length := by
      rw [hcur, ← hb.cur, List.length_append, List.length_singleton, Nat.add_assoc]
    refine ⟨by simpa [hl] using hline, look_front hrest hfill hleft hread ?_ hl hcur'⟩
    have hcat := List.takeWhile_append_dropWhile (p := isNewline) (l := w)
    have hpiece := (readOn_newlines handed (g := w.takeWhile isNewline)
      (fun x hx => List.mem_takeWhile_imp hx) _).trans (readOn_prompt handed v)
    rw [← List.append_assoc, ← hp, hcat] at hpiece
    simpa using hpiece
  · simp [hb.look_none hp hf] at hl

/-- A look that finds a line, with the end of a line in the buffer. -/
theorem InBuffer.look {S : Intake} {e : UInt8} {left : ℕ} {handed : List Piece} {b : AtBuffer}
    {rs : List ReadResult} (h : InBuffer S e left handed b rs) (he : isNewline e = true)
    {line : CString} (hl : b.look.1 = some line) :
    (∃ p : Piece, line = p.text ∧ InBuffer S e left (handed ++ [p]) b.look.2 rs) ∨
      Passed S left handed (some line) b.look.2 rs := by
  obtain ⟨v₁, v₂, t, hrest, hfill, hleft, hread⟩ := h.held
  have hg : ∀ x ∈ (cstr v₁).takeWhile isNewline, isNewline x = true :=
    fun x hx => List.mem_takeWhile_imp hx
  have hnul := cstr_nulFree v₁
  cases hf : firstLine isNewline (cstr v₁) with
  | some q =>
    rcases q with ⟨s, r⟩
    rcases firstLine_eq_some _ hf with ⟨e₁, hu, he₁, hs, hne⟩
    obtain ⟨v, hv⟩ := List.takeWhile_prefix (l := v₁) (· != 0)
    have hsplit : v₁ = (cstr v₁).takeWhile isNewline ++ s ++ [e₁] ++ (r ++ v) := by
      conv_lhs => rw [← hv, ← cstr, hu]
      simp
    rw [hsplit] at hrest hfill hread
    obtain ⟨rfl, hnext⟩ := InBuffer.look_line hrest hfill hg hs
      (fun x hx => hnul x (by rw [hu]; simp [hx])) hne he₁ hleft hread hl
    exact .inl ⟨.line line, rfl, hnext⟩
  | none =>
    obtain hfree | ⟨v, hv⟩ := cstr_cases v₁
    · have hs := (firstLine_eq_none_iff _).mp hf
      have hcat := List.takeWhile_append_dropWhile (p := isNewline) (l := cstr v₁)
      have hsame : cstr v₁ = v₁ :=
        List.takeWhile_eq_self_iff.mpr (fun x hx => by simpa using hfree x hx)
      rw [hsame] at hs hg hcat
      rw [← hcat] at hrest hfill hread
      by_cases hne : v₁.dropWhile isNewline = []
      · rw [hne, List.append_nil] at hrest hfill hread
        exact .inr (InBuffer.look_newlines hrest hfill he hg hleft hread hl)
      · exact .inr (InBuffer.look_end hrest hfill he hg hs
          (fun x hx => hfree x ((List.dropWhile_sublist _).subset hx)) hne hleft hread hl)
    · rw [hv.trans (List.append_cons _ _ _)] at hrest hfill hread
      obtain ⟨rfl, hnext⟩ := InBuffer.look_hidden hrest hfill hnul hf hleft hread hl
      exact .inl ⟨.prompt, rfl, hnext⟩

/-! ### One call -/

/-- The end of the line is still to come. -/
structure Coming (S : Intake) (e : UInt8) (left : ℕ) (handed : List Piece) (b : AtBuffer)
    (rs : List ReadResult) : Prop where
  ahead : ∃ s before after, Between b handed s ∧ arrivals rs = before ++ .byte e :: after ∧
    before.foldl Intake.step s = S ∧ (received after).length = left

theorem line_nil_of_pieces {s S : Intake} {e : UInt8} {before after : List Arrival}
    (he : isNewline e = true) (hS : before.foldl Intake.step s = S)
    (hsame : ((before ++ .byte e :: after).foldl Intake.step s).pieces = s.pieces) :
    S.pieces = s.pieces ∧ S.line = [] := by
  have hbefore := Intake.foldl_step_pieces s before
  rw [List.foldl_append, hS, List.foldl_cons] at hsame
  rw [hS] at hbefore
  have hafter := Intake.foldl_step_pieces (S.step (.byte e)) after
  rw [hsame] at hafter
  have hbyte : (S.byte e).pieces <+: (S.step (.byte e)).pieces := by
    rw [Intake.step]
    split_ifs
    · exact Intake.settle_pieces _ (S.byte e).terminate
    · exact List.prefix_rfl
  have hlen := (hbyte.trans hafter).length_le
  have hle := hbefore.length_le
  have hstay := (S.byte_pieces e).length_le
  refine ⟨(hbefore.eq_of_length (by omega)).symm, ?_⟩
  rw [Intake.line]
  split_ifs with hseen
  · rfl
  · by_contra htext
    have hmore : (S.byte e).pieces = S.pieces ++ [.line S.text] := by
      simp [Intake.byte, Intake.see, hseen, newline_ne_zero he, he, htext]
    rw [hmore, List.length_append, List.length_singleton] at hlen
    omega

/-- A read that completes a piece leaves less than it delivered. -/
theorem Filling.leftOver_lt {b : AtBuffer} {s : Intake} (h : Filling b s) {c : List UInt8}
    (hfit : b.fill + c.length ≤ maxAtResponse) {line : CString}
    (hl : (b.store c).look.1 = some line) (rs : List ReadResult) :
    leftOver (b.store c).look.2 rs < c.length + (streamBytes rs).length := by
  have hnone := (firstLine_eq_none_iff isNewline).mpr (by rw [h.text_dropWhile]; exact h.noNewline)
  have hp : s.text.dropWhile isNewline ≠ smsPrompt := by
    rw [h.text_dropWhile]
    exact h.noPrompt
  obtain hhidden | hseen := Nat.lt_or_eq_of_le h.stop_le
  · obtain ⟨a, t, hstore, -⟩ := h.stored_hidden hhidden c
    simp [hstore.look_none hp hnone] at hl
  · obtain ⟨a, t, hstore, hstop⟩ := h.stored_seen hseen hfit
    have hfill := h.fill
    have hle := (List.takeWhile_sublist (l := c) (· != 0)).length_le
    rw [← cstr] at hle
    by_cases hprompt : (s.text ++ cstr c).dropWhile isNewline = smsPrompt
    · have hcur := (hstore.look_prompt hprompt).2.2
      have hc : 0 < (cstr c).length := by
        rw [List.length_pos_iff]
        intro h0
        rw [h0, List.append_nil] at hprompt
        exact hp hprompt
      rw [leftOver, look_fill, AtBuffer.store_fill, hcur, List.length_append]
      omega
    · cases hf : firstLine isNewline (s.text ++ cstr c) with
      | none => simp [hstore.look_none hprompt hf] at hl
      | some q =>
        rcases q with ⟨l, r⟩
        rcases firstLine_eq_some _ hf with ⟨e, hsplit, he, -, -⟩
        have hcur := (hstore.look_line hprompt hf).2.cur
        have hlen := congrArg List.length hsplit
        simp only [List.length_append, List.length_cons, List.length_nil] at hlen hcur
        have hr : r.length < (cstr c).length := by
          by_contra hge
          have hpre : (s.text ++ cstr c).takeWhile isNewline ++ l ++ [e] <+: s.text := by
            refine List.prefix_of_prefix_length_le ⟨r, ?_⟩ (List.prefix_append s.text (cstr c)) ?_
            · rw [List.append_assoc, List.singleton_append]
              exact hsplit.symm
            · simp only [List.length_append, List.length_cons, List.length_nil]
              omega
          have := h.noNewline e (hpre.subset (by simp))
          simp [he] at this
        rw [leftOver, look_fill, AtBuffer.store_fill, hcur]
        omega

theorem append_cons_split {α : Type*} {before after xs ys : List α} {x : α}
    (h : before ++ x :: after = xs ++ ys) :
    (∃ m, xs = before ++ x :: m ∧ after = m ++ ys) ∨ ∃ m, before = xs ++ m ∧ ys = m ++ x :: after := by
  rcases List.append_eq_append_iff.mp h with ⟨m, hxs, hm⟩ | ⟨m, hbefore, hys⟩
  · cases m with
    | nil => exact .inr ⟨[], by simpa using hxs.symm, by simpa using hm.symm⟩
    | cons y m =>
      obtain ⟨rfl, rfl⟩ : x = y ∧ after = m ++ ys := by simpa using hm
      exact .inl ⟨m, hxs, rfl⟩
  · exact .inr ⟨m, hbefore, hys⟩

/-- What waits in the buffer is what the intake has read. -/
theorem Filling.alike {b : AtBuffer} {s : Intake} (h : Filling b s) :
    Intake.Alike (readOn s.pieces (b.rest.take (b.fill - b.cur))) s := by
  obtain ⟨a, t, hb, hstop⟩ := h.unread
  have hle := h.stop_le
  rw [h.fill] at hle
  rw [hb.rest, hb.cur]
  obtain hhidden | hseen := Nat.lt_or_eq_of_le hle
  · obtain ⟨k, hk⟩ := Nat.exists_eq_add_of_lt hhidden
    have htake : (s.text ++ 0 :: t).take (b.fill - a.length) = s.text ++ 0 :: t.take k := by
      rw [show b.fill - a.length = s.text.length + (k + 1) by omega, List.take_length_add_append,
        List.take_succ_cons]
    rw [htake]
    exact (readOn_hidden s.pieces h.noNewline hb.nulFree h.noPrompt _).trans
      ⟨rfl, rfl, .inr ⟨by simp, by rwa [h.fill]⟩⟩
  · rw [← hseen, ← hstop, Nat.add_sub_cancel_left, List.take_left]
    exact (readOn_text s.pieces h.noNewline hb.nulFree).trans
      ⟨rfl, rfl, .inl ⟨rfl, by rw [hseen, h.fill]⟩⟩

theorem AtBuffer.store_rest {b : AtBuffer} (hcur : b.cur ≤ b.fill) {c : List UInt8}
    (hfit : b.fill + c.length ≤ maxAtResponse) :
    ∃ t, (b.store c).rest = b.rest.take (b.fill - b.cur) ++ c ++ 0 :: t := by
  have hlen := b.cells_length
  have hfill : (b.cells.take b.fill).length = b.fill := by
    simp
    omega
  have hcells : (b.store c).cells =
      b.cells.take b.fill ++ (c ++ [0]) ++ (b.cells.drop b.fill).drop (c ++ [0]).length := by
    have := overwrite_append (a := b.cells.take b.fill) (c := c ++ [0]) (l := b.cells.drop b.fill)
      (by simp; omega)
    rwa [hfill, List.take_append_drop] at this
  refine ⟨(b.cells.drop b.fill).drop (c ++ [0]).length, ?_⟩
  rw [AtBuffer.rest, hcells, show (b.store c).cur = b.cur from rfl, List.append_assoc,
    List.drop_append_of_le_length (by omega), AtBuffer.rest, List.drop_take]
  simp

/-- The chunk that completes a line holds the end of the line. -/
theorem Filling.inBuffer {b : AtBuffer} {s S : Intake} (h : Filling b s) {c₁ c₂ : List UInt8}
    {e : UInt8} (hfit : b.fill + (c₁ ++ e :: c₂).length ≤ maxAtResponse)
    (hS : (c₁.map Arrival.byte).foldl Intake.step s = S) {left : ℕ} {rs : List ReadResult}
    (hleft : c₂.length + (streamBytes rs).length = left) :
    InBuffer S e left s.pieces (b.store (c₁ ++ e :: c₂)) rs := by
  have hfill := h.fill
  obtain ⟨t, hrest⟩ := b.store_rest h.reading.cur hfit
  have hlen := b.cells_length
  have hcur := h.reading.cur
  rw [List.length_append, List.length_cons] at hfit
  rw [Intake.foldl_step (by omega), if_neg (by omega)] at hS
  refine ⟨b.rest.take (b.fill - b.cur) ++ c₁, c₂, t, by simpa using hrest, ?_, hleft, ?_⟩
  · simp only [AtBuffer.rest, AtBuffer.store, List.length_append,
      List.length_cons, List.length_take, List.length_drop]
    omega
  · rw [← hS, readOn, List.foldl_append]
    exact h.alike.foldl c₁

/-- One call while the end of the line is to come. -/
theorem Coming.call {S : Intake} {e : UInt8} {left : ℕ} {handed : List Piece} {b : AtBuffer}
    {rs : List ReadResult} (h : Coming S e left handed b rs) (hb : Kept b)
    (hrs : ∀ q ∈ rs, q.Open) (he : isNewline e = true) :
    (∃ p : Piece, (readline b rs).1 = some p.text ∧
      (Coming S e left (handed ++ [p]) (readline b rs).2.1 (readline b rs).2.2 ∨
        InBuffer S e left (handed ++ [p]) (readline b rs).2.1 (readline b rs).2.2)) ∨
    Passed S left handed (readline b rs).1 (readline b rs).2.1 (readline b rs).2.2 := by
  obtain ⟨s, before, after, hbetween, harr, hS, hleft⟩ := h.ahead
  rcases hbetween.call hb hrs with ⟨a, u, t, line, hunread, hl, hread⟩ | ⟨hpieces, -, hreads⟩
  · rcases hbetween with ⟨n, hn, hs⟩
    rw [hunread.cur, hunread.cstr_rest] at hn
    rcases hunread.look_piece handed true hn hl with ⟨p, rfl, hnext, -⟩
    rw [hread]
    exact .inl ⟨p, rfl, .inl ⟨s, before, after, hs ▸ hnext, harr, hS, hleft⟩⟩
  · revert hreads
    generalize (readline b rs).1 = line
    generalize (readline b rs).2.1 = b'
    generalize (readline b rs).2.2 = rs'
    intro hreads
    cases hreads with
    | closed wait same all =>
      have hsame : ((before ++ .byte e :: after).foldl Intake.step s).pieces = s.pieces := by
        rw [← harr, all, same]
      obtain ⟨hSpieces, htext⟩ := line_nil_of_pieces he hS hsame
      exact .inr ⟨hSpieces.trans hpieces, .inr ⟨htext, .inl rfl⟩⟩
    | @line b₁ s₁ evs tail c l _ wait same read fit found paused split last seen =>
      have htail := received_pauses paused
      rw [harr] at split
      rcases append_cons_split split with ⟨m, hm, hafter⟩ | ⟨m, hbefore, hrest⟩
      · rcases append_cons_split hm.symm with ⟨m', hevs, hm'⟩ | ⟨m', hbefore, hchunk⟩
        · -- an earlier chunk of this call, in which no line was completed
          have hsame : ((before ++ .byte e :: m').foldl Intake.step s).pieces = s.pieces := by
            rw [← hevs, read, same]
          obtain ⟨hSpieces, htext⟩ := line_nil_of_pieces he hS hsame
          refine .inr ⟨hSpieces.trans hpieces, .inr ⟨htext, .inr ?_⟩⟩
          refine (wait.leftOver_lt fit found rs').trans_le ?_
          rw [← hleft, hafter, hm']
          simp only [received_append, received_bytes, htail, received_arrivals, List.length_append]
          omega
        · -- the chunk that completes the line
          rcases append_cons_split hchunk.symm with ⟨m₂, hc, hm₂⟩ | ⟨m₂, -, hpause⟩
          · obtain ⟨c₁, c', rfl, rfl, hc'⟩ := List.map_eq_append_iff.mp hc
            obtain ⟨e', c₂, rfl, he', rfl⟩ := List.map_eq_cons_iff.mp hc'
            obtain rfl : e' = e := by simpa using he'
            have hS₁ : (c₁.map Arrival.byte).foldl Intake.step s₁ = S := by
              rw [← hS, hbefore, List.foldl_append, read]
            have hleft' : c₂.length + (streamBytes rs').length = left := by
              rw [← hleft, hafter, hm₂]
              simp [received_append, received_bytes, htail, received_arrivals]
            have hbuffer := wait.inBuffer fit hS₁ hleft'
            rw [same, hpieces] at hbuffer
            rcases hbuffer.look he found with ⟨p, rfl, hnext⟩ | hpassed
            · exact .inl ⟨p, rfl, .inr hnext⟩
            · exact .inr hpassed
          · exact absurd (paused (.byte e) (by simp [hpause])) (by simp)
      · have hnext := wait.found fit found
        rcases hnext with ⟨p, rfl, hnext, -⟩
        rw [same, hpieces] at hnext
        refine .inl ⟨p, rfl, .inl ⟨_, m, after, hnext, hrest, ?_, hleft⟩⟩
        rw [← hS, hbefore, List.foldl_append, List.foldl_append, read, last]

theorem Reads.leftOver_lt {s : Intake} {rs rs' : List ReadResult} {line : Option CString}
    {b : AtBuffer} (h : Reads s rs line b rs') :
    line = none ∨ leftOver b rs' < (streamBytes rs).length := by
  cases h with
  | closed => exact .inl rfl
  | line wait same read fit found paused split last seen =>
    refine .inr ((wait.leftOver_lt fit found rs').trans_le ?_)
    rw [← received_arrivals rs, split]
    simp only [received_append, received_bytes, received_arrivals, List.length_append]
    omega

/-- A buffer in which no line is complete has no line to the end of the line either. -/
theorem InBuffer.passed {S : Intake} {e : UInt8} {left : ℕ} {handed : List Piece} {b : AtBuffer}
    {rs rs' : List ReadResult} (h : InBuffer S e left handed b rs) (he : isNewline e = true)
    {u : List UInt8} (hu : cstr b.rest = u) (hp : u.dropWhile isNewline ≠ smsPrompt)
    (htext : ∀ x ∈ u.dropWhile isNewline, isNewline x = false) {b' : AtBuffer} {s : Intake}
    {line : Option CString} (hreads : Reads s rs line b' rs') : Passed S left handed line b' rs' := by
  obtain ⟨v₁, v₂, t, hrest, hfill, hleft, hread⟩ := h.held
  have hpassed : S.pieces = handed ∧ S.line = [] := by
    rw [hrest, cstr_append_zero] at hu
    obtain hfree | ⟨v, hv⟩ := cstr_cases v₁
    · have hcstr : u = v₁ ++ e :: cstr v₂ := by
        rw [← hu, List.append_cons, cstr_append]
        · simp
        · simpa [or_imp, forall_and] using ⟨hfree, newline_ne_zero he⟩
      have hg : ∀ x ∈ v₁, isNewline x = true := by
        rw [← List.dropWhile_eq_nil_iff]
        by_contra hne
        have := htext e (by simp [hcstr, List.dropWhile_append, hne])
        simp [he] at this
      have hempty := hread.symm.trans (by simpa using readOn_newlines handed hg [])
      exact ⟨hempty.pieces, hempty.line⟩
    · have hcstr : u = cstr v₁ := by
        rw [← hu]
        conv_lhs =>
          rw [hv, List.append_assoc, List.cons_append, cstr_append_nul (cstr_nulFree v₁)]
      have hnul : ∀ x ∈ u.dropWhile isNewline, x ≠ 0 := fun x hx =>
        cstr_nulFree v₁ x (hcstr ▸ (List.dropWhile_sublist _).subset hx)
      have hhidden := (readOn_newlines handed (g := u.takeWhile isNewline)
        (fun x hx => List.mem_takeWhile_imp hx) _).trans (readOn_hidden handed htext hnul hp v)
      rw [← List.append_assoc, List.takeWhile_append_dropWhile, hcstr, ← hv] at hhidden
      have hempty := hread.symm.trans hhidden
      exact ⟨hempty.pieces, hempty.line⟩
  exact ⟨hpassed.1, .inr ⟨hpassed.2, hreads.leftOver_lt.imp_right (fun hlt => by omega)⟩⟩

/-- One call while the end of the line is in the buffer. -/
theorem InBuffer.call {S : Intake} {e : UInt8} {left : ℕ} {handed : List Piece} {b : AtBuffer}
    {rs : List ReadResult} (h : InBuffer S e left handed b rs) (hb : Kept b)
    (hrs : ∀ q ∈ rs, q.Open) (he : isNewline e = true) :
    (∃ p : Piece, (readline b rs).1 = some p.text ∧
      InBuffer S e left (handed ++ [p]) (readline b rs).2.1 (readline b rs).2.2) ∨
    Passed S left handed (readline b rs).1 (readline b rs).2.1 (readline b rs).2.2 := by
  cases hhere : b.here == 0 with
  | true =>
    have hfilling := Filling.reset hb handed
    have hreads := Filling.reads (readFuel rs) (by rwa [hfilling.refill_eq]) hrs le_rfl
    rw [readline, if_pos hhere]
    exact .inr (h.passed he (cstr_rest_of_here hhere) (by simp [smsPrompt]) (by simp) hreads)
  | false =>
    cases hl : b.look.1 with
    | some line =>
      rw [readline_found rs hhere hl]
      obtain ⟨p, rfl, hnext⟩ | hpassed := h.look he hl
      · exact .inl ⟨p, rfl, hnext⟩
      · exact .inr hpassed
    | none =>
      obtain ⟨t, hunread⟩ := hb.unread (cur_le_of_here hhere)
      obtain ⟨hp, htext⟩ := hunread.look_waits hl
      have hfilling := Filling.compact hb hhere hl handed
      have hreads := Filling.reads (readFuel rs) (by rwa [hfilling.refill_eq]) hrs le_rfl
      rw [readline_continue rs hhere hl]
      exact .inr (h.passed he rfl hp htext hreads)

end Fw100.Channel
