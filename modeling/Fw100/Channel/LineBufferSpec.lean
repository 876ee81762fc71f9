import Fw100.Channel.LineBuffer
import Fw100.Library.Segments

/-!
# What one call of `readline` does

`Holding b a u t` reads the array as consumed cells, unread data, terminator and
stale cells. A call of `readline` on such a buffer has three outcomes: the end of
the input, a complete line cut out of the unread data, or the SMS prompt, which
leaves the cursor one cell behind the terminator.
-/
namespace Fw100.Channel
open Library Text

def smsPrompt : CString := [62, 32]

theorem smsPrompt_no_newline : ∀ x ∈ smsPrompt, isNewline x = false := by
  simp [smsPrompt, isNewline]

/-- The array is `a`, then the unread data `u`, its terminator and the cells `t`. -/
structure Unread (b : AtBuffer) (a u t : List UInt8) : Prop where
  cells : b.cells = a ++ u ++ 0 :: t
  cur : b.cur = a.length
  nulFree : ∀ x ∈ u, x ≠ 0

structure Holding (b : AtBuffer) (a u t : List UInt8) : Prop extends Unread b a u t where
  fill : b.fill = a.length + u.length

theorem isNewline_zero : isNewline 0 = false := rfl

namespace Unread

variable {b : AtBuffer} {a u t : List UInt8}

theorem rest (h : Unread b a u t) : b.rest = u ++ 0 :: t := by
  rw [AtBuffer.rest, h.cells, h.cur, List.append_assoc, List.drop_left]

theorem cstr_rest (h : Unread b a u t) : cstr b.rest = u := by
  rw [h.rest, cstr_append_nul h.nulFree]

theorem here_eq_zero (h : Unread b a u t) : (b.here == 0) = u.isEmpty := by
  rw [AtBuffer.here, h.rest]
  cases u with
  | nil => rfl
  | cons x u => simpa using h.nulFree x (by simp)

theorem room (h : Unread b a u t) : a.length + u.length + t.length = maxAtResponse := by
  have hl := b.cells_length
  simp only [h.cells, List.length_append, List.length_cons] at hl
  omega

theorem skipNewlines (h : Unread b a u t) :
    Unread b.skipNewlines (a ++ u.takeWhile isNewline) (u.dropWhile isNewline) t := by
  have hu := List.takeWhile_append_dropWhile (p := isNewline) (l := u)
  have hw : (u ++ 0 :: t).takeWhile isNewline = u.takeWhile isNewline := by
    conv_lhs => rw [← hu, List.append_assoc]
    rw [List.takeWhile_append_of_pos (fun x hx => List.mem_takeWhile_imp hx)]
    cases hd : u.dropWhile isNewline with
    | nil => simp [isNewline_zero]
    | cons e r =>
      have he := List.head_dropWhile_not isNewline (l := u) (by simp [hd])
      simp only [hd, List.head_cons] at he
      simp [he]
  refine ⟨?_, ?_, ?_⟩
  · rw [AtBuffer.skipNewlines_cells, h.cells, List.append_assoc a (u.takeWhile isNewline), hu]
  · simp [h.rest, h.cur, hw]
  · exact fun x hx => h.nulFree x ((List.dropWhile_sublist _).subset hx)

theorem compact (h : Unread b a u t) : ∃ t', Holding b.compact [] u t' := by
  have hlen : (cstr b.rest).length = u.length := by rw [h.cstr_rest]
  have htake : b.rest.take (u.length + 1) = u ++ [0] := by simp [h.rest, List.take_append]
  have hroom := h.room
  have hc := b.cells_length
  refine ⟨b.cells.drop (u.length + 1), ⟨?_, rfl, h.nulFree⟩, by simp [hlen]⟩
  rw [AtBuffer.compact_cells, hlen, htake, overwrite_zero_of_le (by simp; omega)]
  simp

end Unread

namespace Holding

variable {b : AtBuffer} {a u t : List UInt8}

theorem fill_le (h : Holding b a u t) : b.fill ≤ maxAtResponse := by
  have := h.room
  have := h.fill
  omega

theorem initial : ∃ t, Holding .initial [] [] t :=
  ⟨List.replicate maxAtResponse 0,
    ⟨by simp [AtBuffer.initial, List.replicate_succ], rfl, by simp⟩, rfl⟩

theorem reset (b : AtBuffer) : ∃ t, Holding b.reset [] [] t := by
  have hl := b.cells_length
  cases hc : b.cells with
  | nil => simp [hc] at hl
  | cons c t => exact ⟨t, ⟨by simp [AtBuffer.reset, hc], rfl, by simp⟩, rfl⟩

theorem store (h : Holding b a u t) {c : List UInt8} (hc : ∀ x ∈ c, x ≠ 0)
    (hfit : b.fill + c.length ≤ maxAtResponse) :
    Holding (b.store c) a (u ++ c) (t.drop c.length) := by
  have hroom := h.room
  have hfill := h.fill
  refine ⟨⟨?_, h.cur, ?_⟩, ?_⟩
  · have hp : b.fill = (a ++ u).length := by simp [h.fill]
    rw [AtBuffer.store_cells, hp, h.cells, overwrite_append (by simp; omega)]
    simp
  · intro x hx
    rcases List.mem_append.mp hx with hx | hx
    · exact h.nulFree x hx
    · exact hc x hx
  · simp [h.fill, Nat.add_assoc]

end Holding

/-- On NUL-free data the prompt test asks for exactly the prompt. -/
theorem atPrompt_append_nul {u : CString} (hu : ∀ x ∈ u, x ≠ 0) (t : List UInt8) :
    atPrompt (u ++ 0 :: t) = true ↔ u = smsPrompt := by
  rcases u with _ | ⟨x, _ | ⟨y, _ | ⟨z, u⟩⟩⟩
  · simp [atPrompt, smsPrompt]
  · simp [atPrompt, smsPrompt]
  · simp [atPrompt, smsPrompt]
  · have hz : z ≠ 0 := hu z (by simp)
    simp [atPrompt, smsPrompt, hz]

theorem takeWhile_text {s : CString} (hs : ∀ x ∈ s, x ≠ 0 ∧ isNewline x = false) (e : UInt8)
    (he : e = 0 ∨ isNewline e = true) (r : List UInt8) :
    (s ++ e :: r).takeWhile (fun c => c != 0 && !isNewline c) = s := by
  rw [List.takeWhile_append_of_pos (fun x hx => by simp [hs x hx])]
  rcases he with rfl | he <;> simp_all

theorem findNextEOL_none {u : CString} (hu : ∀ x ∈ u, x ≠ 0) (hp : u ≠ smsPrompt)
    (hn : ∀ x ∈ u, isNewline x = false) (t : List UInt8) : findNextEOL (u ++ 0 :: t) = none := by
  have hprompt : atPrompt (u ++ 0 :: t) = false := by
    rw [Bool.eq_false_iff, ne_eq, atPrompt_append_nul hu]
    exact hp
  simp [findNextEOL, hprompt, takeWhile_text (fun x hx => ⟨hu x hx, hn x hx⟩) 0 (.inl rfl)]

theorem findNextEOL_some {s r : CString} {e : UInt8} (hu : ∀ x ∈ s ++ e :: r, x ≠ 0)
    (hp : s ++ e :: r ≠ smsPrompt) (hs : ∀ x ∈ s, isNewline x = false) (he : isNewline e = true)
    (t : List UInt8) : findNextEOL (s ++ e :: r ++ 0 :: t) = some s.length := by
  have hprompt : atPrompt (s ++ e :: r ++ 0 :: t) = false := by
    rw [Bool.eq_false_iff, ne_eq, atPrompt_append_nul hu]
    exact hp
  have he0 : e ≠ 0 := hu e (by simp)
  have hw := takeWhile_text (fun x hx => ⟨hu x (by simp [hx]), hs x hx⟩) e (.inr he) (r ++ 0 :: t)
  rw [findNextEOL, hprompt, List.append_assoc, List.cons_append, hw]
  simp [he0]

/-- No byte is received while the driver looks. -/
theorem look_fill (b : AtBuffer) : b.look.2.fill = b.fill := by
  unfold AtBuffer.look
  dsimp only
  cases findNextEOL b.skipNewlines.rest <;> rfl

namespace Unread

variable {b : AtBuffer} {a u t : List UInt8}

/-- Looking at the bare prompt returns it and leaves the cursor behind the terminator. -/
theorem look_prompt (h : Unread b a u t) (hp : u.dropWhile isNewline = smsPrompt) :
    b.look.1 = some smsPrompt ∧ b.look.2.cells = b.cells ∧
      b.look.2.cur = a.length + u.length + 1 := by
  have hs := h.skipNewlines
  rw [hp] at hs
  have heol : findNextEOL b.skipNewlines.rest = some 2 := by
    rw [hs.rest, findNextEOL, (atPrompt_append_nul hs.nulFree t).mpr rfl]
    rfl
  have hset : b.skipNewlines.cells.set (b.skipNewlines.cur + 2) 0 = b.skipNewlines.cells := by
    rw [hs.cells, hs.cur, List.append_assoc, List.set_append_right _ _ (by omega)]
    simp [smsPrompt]
  have hlen := congrArg List.length (List.takeWhile_append_dropWhile (p := isNewline) (l := u))
  rw [hp] at hlen
  simp only [List.length_append, smsPrompt, List.length_cons, List.length_nil] at hlen
  rw [AtBuffer.look]
  simp only [heol]
  refine ⟨?_, ?_, ?_⟩
  · rw [AtBuffer.cut_cells, hset, ← AtBuffer.rest, hs.cstr_rest]
  · rw [AtBuffer.cut_cells, hset, AtBuffer.skipNewlines_cells]
  · rw [AtBuffer.cut_cur, hs.cur, List.length_append]
    omega

theorem look_none (h : Unread b a u t) (hp : u.dropWhile isNewline ≠ smsPrompt)
    (hl : firstLine isNewline u = none) : b.look = (none, b.skipNewlines) := by
  have hs := h.skipNewlines
  have heol : findNextEOL b.skipNewlines.rest = none := by
    rw [hs.rest]
    exact findNextEOL_none hs.nulFree hp ((firstLine_eq_none_iff _).mp hl) t
  rw [AtBuffer.look]
  simp only [heol]

/-- Looking at a complete line returns it and keeps what follows its end. -/
theorem look_line (h : Unread b a u t) (hp : u.dropWhile isNewline ≠ smsPrompt) {s r : CString}
    (hl : firstLine isNewline u = some (s, r)) :
    b.look.1 = some s ∧ Unread b.look.2 (a ++ u.takeWhile isNewline ++ s ++ [0]) r t := by
  rcases firstLine_eq_some _ hl with ⟨e, hu, he, hs, hne⟩
  have hk := h.skipNewlines
  have hv : u.dropWhile isNewline = s ++ e :: r := by
    have hcat := List.takeWhile_append_dropWhile (p := isNewline) (l := u)
    rw [List.append_assoc] at hu
    exact List.append_cancel_left (hcat.trans hu)
  rw [hv] at hk hp
  have heol : findNextEOL b.skipNewlines.rest = some s.length := by
    rw [hk.rest]
    exact findNextEOL_some hk.nulFree hp hs he t
  have hset : b.skipNewlines.cells.set (b.skipNewlines.cur + s.length) 0 =
      (a ++ u.takeWhile isNewline) ++ (s ++ 0 :: (r ++ 0 :: t)) := by
    rw [hk.cells, hk.cur, List.append_assoc, List.set_append_right _ _ (by omega)]
    simp
  have hsnul : ∀ x ∈ s, x ≠ 0 := fun x hx => hk.nulFree x (by simp [hx])
  rw [AtBuffer.look]
  simp only [heol]
  refine ⟨?_, ?_, ?_, ?_⟩
  · rw [AtBuffer.cut_cells, hset, hk.cur, List.drop_left, cstr_append_nul hsnul]
  · rw [AtBuffer.cut_cells, hset]
    simp
  · rw [AtBuffer.cut_cur, hk.cur]
    simp [Nat.add_assoc]
  · exact fun x hx => hk.nulFree x (by simp [hx])

end Unread

namespace Holding

variable {b : AtBuffer} {a u t : List UInt8}

theorem skip (h : Holding b a u t) :
    Holding b.skipNewlines (a ++ u.takeWhile isNewline) (u.dropWhile isNewline) t := by
  have hlen := congrArg List.length (List.takeWhile_append_dropWhile (p := isNewline) (l := u))
  rw [List.length_append] at hlen
  refine ⟨h.skipNewlines, ?_⟩
  rw [AtBuffer.skipNewlines_fill, h.fill, List.length_append]
  omega

theorem line (h : Holding b a u t) (hp : u.dropWhile isNewline ≠ smsPrompt) {s r : CString}
    (hl : firstLine isNewline u = some (s, r)) :
    b.look.1 = some s ∧ Holding b.look.2 (a ++ u.takeWhile isNewline ++ s ++ [0]) r t := by
  rcases firstLine_eq_some _ hl with ⟨e, hu, he, hs, hne⟩
  have hlen := congrArg List.length hu
  simp only [List.length_append, List.length_cons] at hlen
  rcases h.look_line hp hl with ⟨hline, hunread⟩
  refine ⟨hline, hunread, ?_⟩
  rw [look_fill, h.fill]
  simp only [List.length_append, List.length_cons, List.length_nil]
  omega

end Holding

def ReadResult.Live : ReadResult → Prop
  | .data c => c ≠ [] ∧ ∀ x ∈ c, x ≠ 0
  | .eintr => True
  | .error => False

instance ReadResult.decidableLive : (r : ReadResult) → Decidable r.Live
  | .data c =>
    have : Decidable (∀ x ∈ c, x ≠ 0) := List.decidableBAll _ c
    inferInstanceAs (Decidable (c ≠ [] ∧ ∀ x ∈ c, x ≠ 0))
  | .eintr => inferInstanceAs (Decidable True)
  | .error => inferInstanceAs (Decidable False)

theorem streamBytes_cons (r : ReadResult) (rs : List ReadResult) :
    streamBytes (r :: rs) = r.bytes ++ streamBytes rs := rfl

theorem readFuel_cons (r : ReadResult) (rs : List ReadResult) :
    readFuel (r :: rs) = r.bytes.length + 1 + readFuel rs := by
  simp only [readFuel, List.map_cons, List.sum_cons]
  omega

/-- A `read` on a live channel delivers the next bytes of the stream, at most as many as asked for. -/
theorem sysRead_live {n : ℕ} (hn : 0 < n) {r : ReadResult} {rs : List ReadResult}
    (h : ∀ q ∈ r :: rs, q.Live) :
    (sysRead n (r :: rs)).1.Live ∧ (∀ q ∈ (sysRead n (r :: rs)).2, q.Live) ∧
      streamBytes (r :: rs) = (sysRead n (r :: rs)).1.bytes ++ streamBytes (sysRead n (r :: rs)).2 ∧
      (sysRead n (r :: rs)).1.bytes.length ≤ n ∧
      readFuel (sysRead n (r :: rs)).2 < readFuel (r :: rs) := by
  have hr : r.Live := h r (by simp)
  have hrs : ∀ q ∈ rs, q.Live := fun q hq => h q (by simp [hq])
  cases r with
  | error => exact hr.elim
  | eintr => exact ⟨trivial, hrs, rfl, by simp [sysRead, ReadResult.bytes], by simp [sysRead, readFuel_cons]⟩
  | data c =>
    rcases hr with ⟨hne, hnul⟩
    by_cases hc : c.length ≤ n
    · simp only [sysRead, hc, if_true]
      exact ⟨⟨hne, hnul⟩, hrs, rfl, hc, by simp [readFuel_cons]⟩
    · have hcn : n < c.length := by omega
      have htake : c.take n ≠ [] := by
        have : (c.take n).length = n := by simp; omega
        intro h0
        simp only [h0, List.length_nil] at this
        omega
      have hdrop : c.drop n ≠ [] := by
        intro h0
        have := congrArg List.length h0
        simp only [List.length_drop, List.length_nil] at this
        omega
      simp only [sysRead, hc, if_false]
      refine ⟨⟨htake, fun x hx => hnul x (List.mem_of_mem_take hx)⟩, ?_, ?_, ?_, ?_⟩
      · intro q hq
        rcases List.mem_cons.mp hq with rfl | hq
        · exact ⟨hdrop, fun x hx => hnul x (List.mem_of_mem_drop hx)⟩
        · exact hrs q hq
      · simp only [streamBytes_cons, ReadResult.bytes]
        rw [← List.append_assoc, List.take_append_drop]
      · simp [ReadResult.bytes]
      · simp only [readFuel_cons, ReadResult.bytes, List.length_drop]
        omega

/-- Every run of newlines together with the piece of text after it fits the buffer. -/
def ShortLines (l : List UInt8) : Prop :=
  ∀ pre run seg post, l = pre ++ run ++ seg ++ post → (∀ x ∈ run, isNewline x = true) →
    (∀ x ∈ seg, isNewline x = false) → run.length + seg.length < maxAtResponse

theorem ShortLines.suffix {l m : List UInt8} (h : ShortLines (l ++ m)) : ShortLines m := by
  intro pre run seg post hm hrun hseg
  exact h (l ++ pre) run seg post (by simp [hm]) hrun hseg

def ShortFirst (l : List UInt8) : Prop :=
  ∀ run seg post, l = run ++ seg ++ post → (∀ x ∈ run, isNewline x = true) →
    (∀ x ∈ seg, isNewline x = false) → run.length + seg.length < maxAtResponse

theorem ShortLines.first {l : List UInt8} (h : ShortLines l) : ShortFirst l := by
  intro run seg post hl hrun hseg
  exact h [] run seg post (by simpa using hl) hrun hseg

theorem ShortFirst.drop_newlines {g l : List UInt8} (h : ShortFirst (g ++ l))
    (hg : ∀ x ∈ g, isNewline x = true) : ShortFirst l := by
  intro run seg post hl hrun hseg
  have hlt := h (g ++ run) seg post (by simp [hl]) (by simpa [or_imp, forall_and] using ⟨hg, hrun⟩) hseg
  rw [List.length_append] at hlt
  omega

/-- The three ways in which a call hands out the data `d` in front of it. Only newlines are lost
unless a line overflows the buffer. -/
inductive Outcome (short : Prop) (d : List UInt8) :
    Option CString → AtBuffer → List ReadResult → Prop where
  | closed {b : AtBuffer} {a g r t : List UInt8} (hold : Holding b a r t) (split : d = g ++ r)
      (lost : short → ∀ x ∈ g, isNewline x = true) (text : ∀ x ∈ r, isNewline x = false) :
      Outcome short d none b []
  | line {b : AtBuffer} {rs : List ReadResult} {a g s r t : List UInt8} {e : UInt8}
      (hold : Holding b a r t) (split : d = g ++ s ++ e :: r) (eol : isNewline e = true)
      (text : ∀ x ∈ s, isNewline x = false) (nonempty : s ≠ [])
      (lost : short → ∀ x ∈ g, isNewline x = true) : Outcome short d (some s) b rs
  | prompt {b : AtBuffer} {rs : List ReadResult} {g : List UInt8}
      (cur : b.cur = b.fill + 1) (split : d = g ++ smsPrompt)
      (lost : short → ∀ x ∈ g, isNewline x = true) : Outcome short d (some smsPrompt) b rs

/-- Data that an earlier part of the call skipped stand in front of the outcome's data. -/
theorem Outcome.prepend {short short' : Prop} {d skipped : List UInt8} {line : Option CString}
    {b : AtBuffer} {rs : List ReadResult} (h : Outcome short' d line b rs)
    (hshort : short → short') (hskip : short → ∀ x ∈ skipped, isNewline x = true) :
    Outcome short (skipped ++ d) line b rs := by
  have hlost {g : List UInt8} (hg : short' → ∀ x ∈ g, isNewline x = true) :
      short → ∀ x ∈ skipped ++ g, isNewline x = true := by
    intro hs x hx
    rcases List.mem_append.mp hx with hx | hx
    · exact hskip hs x hx
    · exact hg (hshort hs) x hx
  cases h with
  | closed hold split lost text =>
    exact .closed hold (by rw [split, List.append_assoc]) (hlost lost) text
  | line hold split eol text nonempty lost =>
    exact .line hold (by rw [split]; simp) eol text nonempty (hlost lost)
  | prompt cur split lost =>
    exact .prompt cur (by rw [split, List.append_assoc]) (hlost lost)

/-- One look either ends the call or only skips leading newlines. -/
theorem Holding.look_outcome {b : AtBuffer} {a d t : List UInt8} (h : Holding b a d t)
    (short : Prop) (rs : List ReadResult) :
    (∃ s, b.look.1 = some s ∧ Outcome short d (some s) b.look.2 rs) ∨
      (b.look.1 = none ∧ Holding b.look.2 (a ++ d.takeWhile isNewline) (d.dropWhile isNewline) t ∧
        ∀ x ∈ d.dropWhile isNewline, isNewline x = false) := by
  have hcat := List.takeWhile_append_dropWhile (p := isNewline) (l := d)
  have htake : ∀ x ∈ d.takeWhile isNewline, isNewline x = true :=
    fun x hx => List.mem_takeWhile_imp hx
  by_cases hp : d.dropWhile isNewline = smsPrompt
  · rcases h.look_prompt hp with ⟨hl, -, hcur⟩
    rw [hp] at hcat
    exact .inl ⟨smsPrompt, hl,
      .prompt (by rw [hcur, look_fill, h.fill]) hcat.symm (fun _ => htake)⟩
  · cases hf : firstLine isNewline d with
    | none =>
      rw [h.look_none hp hf]
      exact .inr ⟨rfl, h.skip, (firstLine_eq_none_iff _).mp hf⟩
    | some p =>
      rcases p with ⟨s, r⟩
      rcases h.line hp hf with ⟨hl, hold⟩
      rcases firstLine_eq_some _ hf with ⟨e, hd, he, hs, hne⟩
      exact .inl ⟨s, hl, .line hold hd he hs hne (fun _ => htake)⟩

/-- What the loop owes its caller: it hands out the unread data followed by what it receives. -/
def LoopSpec (fuel : ℕ) (b : AtBuffer) (a u : List UInt8) (rs : List ReadResult) : Prop :=
  ∃ w, streamBytes rs = w ++ streamBytes (readLoop fuel b rs).2.2 ∧
    (∀ q ∈ (readLoop fuel b rs).2.2, q.Live) ∧
    Outcome (ShortFirst (a ++ u ++ streamBytes rs)) (u ++ w)
      (readLoop fuel b rs).1 (readLoop fuel b rs).2.1 (readLoop fuel b rs).2.2

theorem reset_fill_ne (b : AtBuffer) : b.reset.fill ≠ maxAtResponse := by
  simp [AtBuffer.reset, maxAtResponse]

theorem readLoop_full {b : AtBuffer} (h : b.fill = maxAtResponse) (fuel : ℕ) (rs : List ReadResult) :
    readLoop (fuel + 1) b rs = readLoop (fuel + 1) b.reset rs := by
  rw [readLoop, readLoop, if_pos h, if_neg (reset_fill_ne b)]

section Iteration

variable (fuel : ℕ) {b : AtBuffer} {rs rs' : List ReadResult} {x : UInt8} {c : List UInt8}
  (hroom : b.fill ≠ maxAtResponse)
  (hres : sysRead (maxAtResponse - b.fill) rs = (.data (x :: c), rs'))
include hroom hres

theorem readLoop_found {line : CString} (hl : (b.store (x :: c)).look.1 = some line) :
    readLoop (fuel + 1) b rs = (some line, (b.store (x :: c)).look.2, rs') := by
  have hlook : (b.store (x :: c)).look = (some line, (b.store (x :: c)).look.2) := Prod.ext hl rfl
  rw [readLoop, if_neg hroom, hres]
  dsimp only
  rw [hlook]

theorem readLoop_continue (hl : (b.store (x :: c)).look.1 = none) :
    readLoop (fuel + 1) b rs = readLoop fuel (b.store (x :: c)).look.2 rs' := by
  have hlook : (b.store (x :: c)).look = (none, (b.store (x :: c)).look.2) := Prod.ext hl rfl
  rw [readLoop, if_neg hroom, hres]
  dsimp only
  rw [hlook]

end Iteration

theorem loopSpec_data {fuel : ℕ} {b : AtBuffer} {a u t c : List UInt8} {x : UInt8}
    {rs rs' : List ReadResult} (hb : Holding b a u t) (ha : ∀ x ∈ a, isNewline x = true)
    (hnul : ∀ y ∈ x :: c, y ≠ 0) (hrs' : ∀ q ∈ rs', q.Live) (hroom : b.fill ≠ maxAtResponse)
    (hlen : (x :: c).length ≤ maxAtResponse - b.fill)
    (hres : sysRead (maxAtResponse - b.fill) rs = (.data (x :: c), rs'))
    (hbytes : streamBytes rs = x :: c ++ streamBytes rs')
    (ih : ∀ {b : AtBuffer} {a u t : List UInt8}, Holding b a u t →
      (∀ x ∈ a, isNewline x = true) → (∀ x ∈ u, isNewline x = false) → LoopSpec fuel b a u rs') :
    LoopSpec (fuel + 1) b a u rs := by
  have hle := hb.fill_le
  have hs := hb.store hnul (by omega)
  rcases hs.look_outcome (ShortFirst (a ++ u ++ streamBytes rs)) rs' with
    ⟨line, hl, hout⟩ | ⟨hl, hold, htext⟩
  · refine ⟨x :: c, ?_⟩
    rw [readLoop_found fuel hroom hres hl]
    exact ⟨hbytes, hrs', hout⟩
  · have hnl : ∀ y ∈ a ++ (u ++ x :: c).takeWhile isNewline, isNewline y = true := by
      intro y hy
      rcases List.mem_append.mp hy with hy | hy
      · exact ha y hy
      · exact List.mem_takeWhile_imp hy
    rcases ih hold hnl htext with ⟨w, hw, hl', hout⟩
    have hcat := List.takeWhile_append_dropWhile (p := isNewline) (l := u ++ x :: c)
    refine ⟨x :: c ++ w, ?_⟩
    rw [readLoop_continue fuel hroom hres hl]
    refine ⟨by rw [hbytes, hw, List.append_assoc], hl', ?_⟩
    have hd : u ++ (x :: c ++ w) =
        (u ++ x :: c).takeWhile isNewline ++ ((u ++ x :: c).dropWhile isNewline ++ w) := by
      rw [← List.append_assoc, ← List.append_assoc, hcat]
    rw [hd]
    refine hout.prepend ?_ (fun _ y hy => List.mem_takeWhile_imp hy)
    intro hshort
    rw [hbytes, ← List.append_assoc (a ++ u), List.append_assoc a u, ← hcat] at hshort
    simpa using hshort

theorem loopSpec_step {fuel : ℕ} {b : AtBuffer} {a u t : List UInt8} {rs : List ReadResult}
    (hb : Holding b a u t) (ha : ∀ x ∈ a, isNewline x = true) (hu : ∀ x ∈ u, isNewline x = false)
    (hrs : ∀ q ∈ rs, q.Live) (hf : readFuel rs ≤ fuel + 1) (hroom : b.fill ≠ maxAtResponse)
    (ih : ∀ {b : AtBuffer} {a u t : List UInt8} {rs : List ReadResult},
      Holding b a u t → (∀ x ∈ a, isNewline x = true) → (∀ x ∈ u, isNewline x = false) →
      (∀ q ∈ rs, q.Live) → readFuel rs ≤ fuel → LoopSpec fuel b a u rs) :
    LoopSpec (fuel + 1) b a u rs := by
  have hn : 0 < maxAtResponse - b.fill := by
    have := hb.fill_le
    omega
  cases rs with
  | nil =>
    refine ⟨[], by simp [readLoop, hroom, sysRead, streamBytes],
      by simp [readLoop, hroom, sysRead], ?_⟩
    simp only [readLoop, hroom, sysRead, if_false, List.append_nil]
    exact .closed hb (g := []) rfl (by simp) hu
  | cons r rs =>
    rcases sysRead_live hn hrs with ⟨hlive, hlive', hbytes, hlen, hfuel⟩
    cases hres : sysRead (maxAtResponse - b.fill) (r :: rs) with
    | mk q rs' =>
      rw [hres] at hlive hlive' hbytes hlen hfuel
      simp only at hlive hlive' hbytes hlen hfuel
      have hf' : readFuel rs' ≤ fuel := by omega
      cases q with
      | error => exact hlive.elim
      | eintr =>
        rcases ih hb ha hu hlive' hf' with ⟨w, hw, hl, hout⟩
        rw [ReadResult.bytes, List.nil_append] at hbytes
        unfold LoopSpec
        simp only [readLoop, hroom, hres, if_false, hbytes]
        exact ⟨w, hw, hl, hout⟩
      | data c =>
        rcases hlive with ⟨hne, hnul⟩
        rcases List.exists_cons_of_ne_nil hne with ⟨x, c, rfl⟩
        simp only [ReadResult.bytes] at hbytes hlen
        exact loopSpec_data hb ha hnul hlive' hroom (by omega) hres hbytes
          (fun hb ha hu => ih hb ha hu hlive' hf')

theorem readLoop_outcome (fuel : ℕ) {b : AtBuffer} {a u t : List UInt8} {rs : List ReadResult}
    (hb : Holding b a u t) (ha : ∀ x ∈ a, isNewline x = true) (hu : ∀ x ∈ u, isNewline x = false)
    (hrs : ∀ q ∈ rs, q.Live) (hf : readFuel rs ≤ fuel) : LoopSpec fuel b a u rs := by
  induction fuel generalizing b a u t rs with
  | zero => simp [readFuel] at hf
  | succ fuel ih =>
    by_cases hfull : b.fill = maxAtResponse
    · rcases Holding.reset b with ⟨t', hreset⟩
      obtain ⟨w, hw, hl, hout⟩ :=
        loopSpec_step hreset (by simp) (by simp) hrs hf (reset_fill_ne b) ih
      refine ⟨w, ?_⟩
      rw [readLoop_full hfull fuel rs]
      refine ⟨hw, hl, ?_⟩
      have hover : ¬ ShortFirst (a ++ u ++ streamBytes rs) := by
        intro hshort
        have hlt := hshort a u (streamBytes rs) rfl ha hu
        have hfill := hb.fill
        omega
      have hlost : ShortFirst (a ++ u ++ streamBytes rs) → ∀ x ∈ u, isNewline x = true :=
        fun h => absurd h hover
      simpa using hout.prepend (fun h => absurd h hover) hlost
    · exact loopSpec_step hb ha hu hrs hf hfull ih

section Call

variable {b : AtBuffer} (rs : List ReadResult) (hhere : (b.here == 0) = false)
include hhere

theorem readline_found {line : CString} (hl : b.look.1 = some line) :
    readline b rs = (some line, b.look.2, rs) := by
  have hlook : b.look = (some line, b.look.2) := Prod.ext hl rfl
  simp only [readline, hhere, Bool.false_eq_true, if_false]
  rw [hlook]

/-- A partial line is moved to the start of the buffer before reading on. -/
theorem readline_continue (hl : b.look.1 = none) :
    readline b rs = readLoop (readFuel rs) b.look.2.compact rs := by
  have hlook : b.look = (none, b.look.2) := Prod.ext hl rfl
  simp only [readline, hhere, Bool.false_eq_true, if_false]
  rw [hlook]

end Call

/-- What a call owes that has the data `u` in front of it: it hands out `u` followed by the
bytes `w` it receives, in one of the three outcomes. -/
def CallSpec (b : AtBuffer) (u : List UInt8) (rs : List ReadResult) : Prop :=
  ∃ w, streamBytes rs = w ++ streamBytes (readline b rs).2.2 ∧
    (∀ q ∈ (readline b rs).2.2, q.Live) ∧
    Outcome (ShortFirst (u ++ streamBytes rs)) (u ++ w)
      (readline b rs).1 (readline b rs).2.1 (readline b rs).2.2

/-- A cursor at a NUL starts the buffer over, whatever the cells hold. -/
theorem readline_outcome_of_here {b : AtBuffer} {rs : List ReadResult}
    (hhere : (b.here == 0) = true) (hrs : ∀ q ∈ rs, q.Live) : CallSpec b [] rs := by
  rcases Holding.reset b with ⟨t, hreset⟩
  have h := readLoop_outcome (readFuel rs) hreset (by simp) (by simp) hrs le_rfl
  simpa only [CallSpec, readline, hhere, if_true, LoopSpec, List.nil_append] using h

/-- **One call of `readline`** on a buffer that holds the unread data `u`. -/
theorem readline_outcome {b : AtBuffer} {a u t : List UInt8} {rs : List ReadResult}
    (hb : Holding b a u t) (hrs : ∀ q ∈ rs, q.Live) : CallSpec b u rs := by
  by_cases hu : u = []
  · subst hu
    exact readline_outcome_of_here hb.here_eq_zero hrs
  · have hhere : (b.here == 0) = false := by
      rw [hb.here_eq_zero]
      cases u <;> simp_all
    rcases hb.look_outcome (ShortFirst (u ++ streamBytes rs)) rs with
      ⟨line, hl, hout⟩ | ⟨hl, hold, htext⟩
    · refine ⟨[], ?_⟩
      rw [readline_found rs hhere hl, List.append_nil]
      exact ⟨rfl, hrs, hout⟩
    · rcases hold.compact with ⟨t', hc⟩
      rcases readLoop_outcome (readFuel rs) hc (by simp) htext hrs le_rfl with ⟨w, hw, hl', hout⟩
      have hcat := List.takeWhile_append_dropWhile (p := isNewline) (l := u)
      refine ⟨w, ?_⟩
      rw [readline_continue rs hhere hl]
      refine ⟨hw, hl', ?_⟩
      have hd : u ++ w = u.takeWhile isNewline ++ (u.dropWhile isNewline ++ w) := by
        rw [← List.append_assoc, hcat]
      rw [hd]
      refine hout.prepend ?_ (fun _ x hx => List.mem_takeWhile_imp hx)
      intro hshort
      rw [← hcat, List.append_assoc] at hshort
      simpa using hshort.drop_newlines (fun x hx => List.mem_takeWhile_imp hx)

end Fw100.Channel
