import Fw100.Channel.LineBufferSpec

/-!
# What every call of `readline` keeps

Whatever the descriptor delivers, NULs and errors included, the last cell of the array stays
NUL and the unread rest never fills the buffer. These are the facts about `s_ATBuffer` that
hold at the end of any session.
-/
namespace Fw100.Channel
open Library Text

/-- The facts about the buffer between two calls. -/
structure Kept (b : AtBuffer) : Prop where
  last : b.cells[maxAtResponse]? = some 0
  short : (cstr b.rest).length < maxAtResponse

/-- The facts about the buffer while the loop reads: the data is terminated at `p_read`. -/
structure Reading (b : AtBuffer) : Prop where
  last : b.cells[maxAtResponse]? = some 0
  ended : b.cells[b.fill]? = some 0
  fill : b.fill ≤ maxAtResponse
  cur : b.cur ≤ b.fill

/-- A run of cells that all pass a test ends at the first cell that fails it. -/
theorem length_takeWhile_le {p : UInt8 → Bool} {x : UInt8} (hx : p x = false) {l : List UInt8}
    {k : ℕ} (h : l[k]? = some x) : (l.takeWhile p).length ≤ k := by
  induction l generalizing k with
  | nil => simp at h
  | cons a l ih =>
    cases k with
    | zero =>
      obtain rfl : a = x := by simpa using h
      simp [hx]
    | succ k =>
      have := ih (k := k) (by simpa using h)
      by_cases ha : p a = true
      · simpa [ha] using this
      · simp [ha]

theorem cstr_terminated {l : List UInt8} {k : ℕ} (h : l[k]? = some 0) :
    ∃ t, l = cstr l ++ 0 :: t := by
  induction l generalizing k with
  | nil => simp at h
  | cons a l ih =>
    by_cases ha : a = 0
    · exact ⟨l, by simp [cstr, ha]⟩
    · cases k with
      | zero => exact absurd (by simpa using h) ha
      | succ k =>
        rcases ih (k := k) (by simpa using h) with ⟨t, ht⟩
        have hcons : cstr (a :: l) = a :: cstr l := by simp [cstr, ha]
        exact ⟨t, by rw [hcons, List.cons_append, ← ht]⟩

theorem cstr_nulFree (l : List UInt8) : ∀ x ∈ cstr l, x ≠ 0 :=
  fun x hx => by simpa using List.mem_takeWhile_imp hx

/-- The data that a NUL ends is unread data. -/
theorem unread_of_zero {b : AtBuffer} {k : ℕ} (h : b.rest[k]? = some 0) :
    ∃ t, Unread b (b.cells.take b.cur) (cstr b.rest) t := by
  obtain ⟨t, ht⟩ := cstr_terminated h
  have hcur := (List.getElem?_eq_some_iff.mp h).1
  rw [AtBuffer.rest, List.length_drop] at hcur
  refine ⟨t, ?_, by simp; omega, cstr_nulFree _⟩
  rw [List.append_assoc, ← ht, AtBuffer.rest, List.take_append_drop]

theorem Kept.rest_zero {b : AtBuffer} (h : Kept b) (hcur : b.cur ≤ maxAtResponse) :
    b.rest[maxAtResponse - b.cur]? = some 0 := by
  rw [AtBuffer.rest, List.getElem?_drop, Nat.add_sub_cancel' hcur]
  exact h.last

theorem Kept.unread {b : AtBuffer} (h : Kept b) (hcur : b.cur ≤ maxAtResponse) :
    ∃ t, Unread b (b.cells.take b.cur) (cstr b.rest) t := unread_of_zero (h.rest_zero hcur)

theorem Reading.rest_zero {b : AtBuffer} (h : Reading b) : b.rest[b.fill - b.cur]? = some 0 := by
  rw [AtBuffer.rest, List.getElem?_drop, Nat.add_sub_cancel' h.cur]
  exact h.ended

theorem Reading.unread {b : AtBuffer} (h : Reading b) :
    ∃ t, Unread b (b.cells.take b.cur) (cstr b.rest) t := unread_of_zero h.rest_zero

theorem cstr_length_le {b : AtBuffer} {k : ℕ} (h : b.cells[k]? = some 0) (hk : b.cur ≤ k) :
    (cstr b.rest).length ≤ k - b.cur := by
  apply length_takeWhile_le (x := 0) (by simp)
  rw [AtBuffer.rest, List.getElem?_drop]
  rwa [Nat.add_sub_cancel' hk]

theorem Kept.of_cur_pos {b : AtBuffer} (hlast : b.cells[maxAtResponse]? = some 0)
    (hcur : 0 < b.cur) : Kept b := by
  refine ⟨hlast, ?_⟩
  by_cases hk : b.cur ≤ maxAtResponse
  · have := cstr_length_le hlast hk
    omega
  · have hlen := b.cells_length
    rw [AtBuffer.rest, List.drop_eq_nil_of_le (by omega)]
    simp [cstr, maxAtResponse]

theorem Kept.cut {b : AtBuffer} (hlast : b.cells[maxAtResponse]? = some 0) (k : ℕ) :
    Kept (b.cut k) := by
  refine .of_cur_pos ?_ (by simp)
  have hlen := b.cells_length
  rw [AtBuffer.cut_cells, List.getElem?_set]
  split
  · next heq => simp [heq, hlen]
  · exact hlast

theorem Kept.initial : Kept .initial := by
  refine ⟨by simp [AtBuffer.initial], ?_⟩
  have hrest : AtBuffer.initial.rest = 0 :: List.replicate maxAtResponse 0 := rfl
  rw [hrest]
  exact Nat.zero_lt_succ _

namespace Reading
variable {b : AtBuffer}

theorem kept (h : Reading b) (hroom : b.fill ≠ maxAtResponse) : Kept b := by
  refine ⟨h.last, ?_⟩
  have hle := cstr_length_le h.ended h.cur
  have hfill := h.fill
  omega

theorem reset (hlast : b.cells[maxAtResponse]? = some 0) : Reading b.reset := by
  refine ⟨?_, ?_, by simp [AtBuffer.reset], by simp [AtBuffer.reset]⟩
  · rw [AtBuffer.reset, List.getElem?_set_ne (by simp [maxAtResponse])]
    exact hlast
  · simp [AtBuffer.reset, b.cells_length]

theorem store (h : Reading b) {c : List UInt8} (hroom : b.fill + c.length ≤ maxAtResponse) :
    Reading (b.store c) := by
  have hlen := b.cells_length
  have hended : (b.store c).cells[b.fill + c.length]? = some 0 := by
    rw [AtBuffer.store_cells, getElem?_overwrite, if_pos ⟨by omega, by simp, by omega⟩]
    simp
  refine ⟨?_, hended, hroom, h.cur.trans (by simp)⟩
  obtain hlt | heq := Nat.lt_or_eq_of_le hroom
  · rw [AtBuffer.store_cells, getElem?_overwrite, if_neg (by simp; omega)]
    exact h.last
  · rwa [heq] at hended

theorem skipNewlines (h : Reading b) : Reading b.skipNewlines := by
  refine ⟨h.last, h.ended, h.fill, ?_⟩
  have hle : (b.rest.takeWhile isNewline).length ≤ b.fill - b.cur := by
    apply length_takeWhile_le isNewline_zero
    rw [AtBuffer.rest, List.getElem?_drop, Nat.add_sub_cancel' h.cur]
    exact h.ended
  have hcur := h.cur
  rw [AtBuffer.skipNewlines_cur, AtBuffer.skipNewlines_fill]
  omega

/-- The partial line is moved together with its terminator. -/
theorem compact (h : Kept b) (hcur : b.cur ≤ maxAtResponse) : Reading b.compact := by
  have hlen := b.cells_length
  have hshort := h.short
  obtain ⟨t, ht⟩ := cstr_terminated (h.rest_zero hcur)
  have hlt : (cstr b.rest).length < b.rest.length := by
    have := congrArg List.length ht
    rw [List.length_append, List.length_cons] at this
    omega
  have hzero : b.rest[(cstr b.rest).length]? = some 0 := by
    have := congrArg (fun l => l[(cstr b.rest).length]?) ht
    simpa using this
  refine ⟨?_, ?_, hshort.le, Nat.zero_le _⟩
  · rw [AtBuffer.compact_cells, getElem?_overwrite, if_neg (by simp; omega)]
    exact h.last
  · rw [AtBuffer.compact_cells, AtBuffer.compact_fill, getElem?_overwrite,
      if_pos ⟨by omega, by simp; omega, by omega⟩]
    simpa using hzero

theorem look (h : Reading b) :
    (∀ line, b.look.1 = some line → Kept b.look.2) ∧ (b.look.1 = none → Reading b.look.2) := by
  have hs := h.skipNewlines
  unfold AtBuffer.look
  dsimp only
  cases findNextEOL b.skipNewlines.rest with
  | none => exact ⟨by simp, fun _ => hs⟩
  | some k => exact ⟨fun _ _ => Kept.cut hs.last k, by simp⟩

end Reading

/-- The length of the unread data never reaches what the remaining calls of `read` are asked for. -/
theorem sysRead_fuel {n : ℕ} (hn : 0 < n) (r : ReadResult) (rs : List ReadResult) :
    (sysRead n (r :: rs)).1.bytes.length ≤ n ∧
      readFuel (sysRead n (r :: rs)).2 < readFuel (r :: rs) := by
  cases r with
  | error => simp [sysRead, ReadResult.bytes, readFuel_cons]
  | eintr => simp [sysRead, ReadResult.bytes, readFuel_cons]
  | data c =>
    by_cases hc : c.length ≤ n
    · simp [sysRead, hc, ReadResult.bytes, readFuel_cons]
    · simp only [sysRead, hc, if_false, ReadResult.bytes, readFuel_cons, List.length_take,
        List.length_drop]
      omega

theorem readLoop_kept_step {fuel : ℕ} {b : AtBuffer} {rs : List ReadResult} (hb : Reading b)
    (hf : readFuel rs ≤ fuel + 1) (hroom : b.fill ≠ maxAtResponse)
    (ih : ∀ {b : AtBuffer} {rs : List ReadResult}, Reading b → readFuel rs ≤ fuel →
      Kept (readLoop fuel b rs).2.1) : Kept (readLoop (fuel + 1) b rs).2.1 := by
  have hfill := hb.fill
  cases rs with
  | nil => simpa [readLoop, hroom, sysRead] using hb.kept hroom
  | cons r rs =>
    rcases sysRead_fuel (n := maxAtResponse - b.fill) (by omega) r rs with ⟨hlen, hfuel⟩
    cases hres : sysRead (maxAtResponse - b.fill) (r :: rs) with
    | mk q rs' =>
      rw [hres] at hlen hfuel
      simp only at hlen hfuel
      cases q with
      | error => simpa [readLoop, hroom, hres] using hb.kept hroom
      | eintr => simpa [readLoop, hroom, hres] using ih hb (by omega)
      | data c =>
        cases c with
        | nil => simpa [readLoop, hroom, hres] using hb.kept hroom
        | cons x c =>
          obtain ⟨hfound, hmore⟩ := (hb.store (c := x :: c) (by simp only [ReadResult.bytes] at hlen; omega)).look
          cases hl : (b.store (x :: c)).look.1 with
          | some line => simpa [readLoop_found fuel hroom hres hl] using hfound line hl
          | none =>
            simpa [readLoop_continue fuel hroom hres hl] using
              ih (hmore hl) (by omega)

theorem readLoop_kept (fuel : ℕ) {b : AtBuffer} {rs : List ReadResult} (hb : Reading b)
    (hf : readFuel rs ≤ fuel) : Kept (readLoop fuel b rs).2.1 := by
  induction fuel generalizing b rs with
  | zero => simp [readFuel] at hf
  | succ fuel ih =>
    by_cases hfull : b.fill = maxAtResponse
    · rw [readLoop_full hfull fuel rs]
      exact readLoop_kept_step (.reset hb.last) hf (reset_fill_ne b) ih
    · exact readLoop_kept_step hb hf hfull ih

/-- What `look` leaves: the buffer cut at the end of a line, or the cursor behind the newlines. -/
theorem look_some {b : AtBuffer} {line : CString} (h : b.look.1 = some line) :
    ∃ k, b.look.2 = b.skipNewlines.cut k := by
  unfold AtBuffer.look at h ⊢
  dsimp only at h ⊢
  cases hf : findNextEOL b.skipNewlines.rest with
  | none => simp [hf] at h
  | some k => exact ⟨k, rfl⟩

theorem look_none_skip {b : AtBuffer} (h : b.look.1 = none) : b.look.2 = b.skipNewlines := by
  unfold AtBuffer.look at h ⊢
  dsimp only at h ⊢
  cases hf : findNextEOL b.skipNewlines.rest with
  | none => rfl
  | some k => simp [hf] at h

theorem cur_le_of_here {b : AtBuffer} (hhere : (b.here == 0) = false) :
    b.cur ≤ maxAtResponse := by
  by_contra hgt
  have hlen := b.cells_length
  rw [AtBuffer.here, AtBuffer.rest, List.drop_eq_nil_of_le (by omega)] at hhere
  simp at hhere

theorem Kept.skipNewlines {b : AtBuffer} (hb : Kept b) (hhere : (b.here == 0) = false) :
    Kept b.skipNewlines ∧ b.skipNewlines.cur ≤ maxAtResponse := by
  have hcur := cur_le_of_here hhere
  have hle : (b.rest.takeWhile isNewline).length ≤ maxAtResponse - b.cur := by
    apply length_takeWhile_le isNewline_zero
    rw [AtBuffer.rest, List.getElem?_drop, Nat.add_sub_cancel' hcur]
    exact hb.last
  have hcur' : b.skipNewlines.cur ≤ maxAtResponse := by
    rw [AtBuffer.skipNewlines_cur]
    omega
  refine ⟨⟨hb.last, ?_⟩, hcur'⟩
  obtain hpos | h0 := Nat.eq_zero_or_pos b.skipNewlines.cur |>.symm
  · exact (Kept.of_cur_pos (b := b.skipNewlines) hb.last hpos).short
  · have hsame : b.skipNewlines.rest = b.rest := by
      rw [AtBuffer.rest, AtBuffer.rest, h0]
      rw [AtBuffer.skipNewlines_cur] at h0
      simp [show b.cur = 0 by omega]
    rw [hsame]
    exact hb.short

/-- Every call of `readline` keeps the facts, whatever the descriptor delivers. -/
theorem readline_kept {b : AtBuffer} (hb : Kept b) (rs : List ReadResult) :
    Kept (readline b rs).2.1 := by
  cases hhere : b.here == 0 with
  | true =>
    rw [readline, if_pos hhere]
    exact readLoop_kept _ (.reset hb.last) le_rfl
  | false =>
    cases hl : b.look.1 with
    | some line =>
      rw [readline_found rs hhere hl]
      rcases look_some hl with ⟨k, hk⟩
      rw [hk]
      exact Kept.cut (b := b.skipNewlines) hb.last k
    | none =>
      rw [readline_continue rs hhere hl, look_none_skip hl]
      rcases hb.skipNewlines hhere with ⟨hs, hcur⟩
      exact readLoop_kept _ (.compact hs hcur) le_rfl

end Fw100.Channel
