import Fw100.Library.Machine
import Mathlib.Data.List.ReduceOption
import Mathlib.Tactic

/-!
# Machines that work line by line

The lines of a sequence are the pieces that a separator follows, the empty ones included. A
machine that takes one element at a time and acts on the separators only is followed by a
machine that takes a line at a time.
-/
namespace Fw100.Library

variable {α β σ τ : Type*} (sep : α → Bool)

def lines (l : List α) : List (List α) := (l.splitOnP sep).dropLast

def unfinished (l : List α) : List α := (l.splitOnP sep).getLast (List.splitOnP_ne_nil _ _)

variable {sep}

theorem lines_of_forall {l : List α} (h : ∀ a ∈ l, sep a = false) : lines sep l = [] := by
  simp [lines, List.splitOnP_eq_singleton h]

theorem unfinished_of_forall {l : List α} (h : ∀ a ∈ l, sep a = false) : unfinished sep l = l := by
  simp [unfinished, List.splitOnP_eq_singleton h]

theorem lines_append_cons {s : List α} (h : ∀ a ∈ s, sep a = false) {e : α} (he : sep e = true)
    (l : List α) : lines sep (s ++ e :: l) = s :: lines sep l := by
  rw [lines, List.splitOnP_append_cons_of_forall_mem h e he,
    List.dropLast_cons_of_ne_nil (List.splitOnP_ne_nil _ _), lines]

theorem unfinished_append_cons {s : List α} (h : ∀ a ∈ s, sep a = false) {e : α}
    (he : sep e = true) (l : List α) : unfinished sep (s ++ e :: l) = unfinished sep l := by
  simp only [unfinished, List.splitOnP_append_cons_of_forall_mem h e he]
  exact List.getLast_cons (List.splitOnP_ne_nil _ _)

/-- The state `reading t p` is that of a line of which `p` has been read. Elements extend the
line and a separator ends it. -/
structure WorksByLine (sep : α → Bool) (step : σ → α → σ × Option β)
    (lineStep : τ → List α → τ × Option β) (reading : τ → List α → σ) : Prop where
  inside : ∀ t p a, sep a = false → step (reading t p) a = (reading t (p ++ [a]), none)
  atEnd : ∀ t p e, sep e = true →
    step (reading t p) e = (reading (lineStep t p).1 [], (lineStep t p).2)

namespace WorksByLine
variable {step : σ → α → σ × Option β} {lineStep : τ → List α → τ × Option β}
  {reading : τ → List α → σ}

theorem run_reading (h : WorksByLine sep step lineStep reading) (t : τ) {p : List α}
    (hp : ∀ a ∈ p, sep a = false) (l : List α) :
    (run step (reading t p) l).1 =
        reading (run lineStep t (lines sep (p ++ l))).1 (unfinished sep (p ++ l)) ∧
      (run step (reading t p) l).2.reduceOption =
        (run lineStep t (lines sep (p ++ l))).2.reduceOption := by
  induction l generalizing t p with
  | nil => simp [lines_of_forall hp, unfinished_of_forall hp]
  | cons a l ih =>
    cases ha : sep a with
    | false =>
      have hpa : ∀ b ∈ p ++ [a], sep b = false := by
        intro b hb
        rcases List.mem_append.mp hb with hb | hb
        · exact hp b hb
        · rwa [List.mem_singleton.mp hb]
      have hrest := ih t hpa
      rw [List.append_assoc, List.singleton_append] at hrest
      rw [run_cons, h.inside t p a ha, List.reduceOption_cons_of_none]
      exact hrest
    | true =>
      have hrest := ih (lineStep t p).1 (by simp : ∀ b ∈ ([] : List α), sep b = false)
      rw [List.nil_append] at hrest
      rw [lines_append_cons hp ha, unfinished_append_cons hp ha, run_cons, run_cons,
        h.atEnd t p a ha]
      refine ⟨hrest.1, ?_⟩
      cases (lineStep t p).2 <;> simp [hrest.2]

/-- The outputs of the two machines, from a line start on. -/
theorem outputs (h : WorksByLine sep step lineStep reading) (t : τ) (l : List α) :
    (run step (reading t []) l).2.reduceOption =
      (run lineStep t (lines sep l)).2.reduceOption :=
  (h.run_reading t (by simp) l).2

theorem state (h : WorksByLine sep step lineStep reading) (t : τ) (l : List α) :
    (run step (reading t []) l).1 =
      reading (run lineStep t (lines sep l)).1 (unfinished sep l) :=
  (h.run_reading t (by simp) l).1

end WorksByLine

end Fw100.Library
