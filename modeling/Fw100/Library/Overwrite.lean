import Mathlib.Data.List.Basic
import Mathlib.Tactic

/-!
# Storing a block into a fixed-size array

The array is a list whose length never changes: a block that does not fit is
clipped at the end. Every store is a splice, which is how the proofs use it.
-/
namespace Fw100.Library

variable {α : Type*}

def overwrite : ℕ → List α → List α → List α
  | _, _, [] => []
  | 0, [], l => l
  | 0, a :: c, _ :: l => a :: overwrite 0 c l
  | p + 1, c, b :: l => b :: overwrite p c l

@[simp] theorem length_overwrite (p : ℕ) (c l : List α) : (overwrite p c l).length = l.length := by
  induction l generalizing p c with
  | nil => cases p <;> cases c <;> rfl
  | cons b l ih =>
    cases p with
    | zero => cases c <;> simp [overwrite, ih]
    | succ p => simp [overwrite, ih]

theorem overwrite_zero_of_le {c l : List α} (h : c.length ≤ l.length) :
    overwrite 0 c l = c ++ l.drop c.length := by
  induction c generalizing l with
  | nil => cases l <;> rfl
  | cons a c ih =>
    cases l with
    | nil => simp at h
    | cons b l => simp [overwrite, ih (by simpa using h)]

/-- A block that fits replaces exactly the cells it covers. -/
theorem overwrite_append {a c l : List α} (h : c.length ≤ l.length) :
    overwrite a.length c (a ++ l) = a ++ c ++ l.drop c.length := by
  induction a with
  | nil => simpa using overwrite_zero_of_le h
  | cons b a ih => simp [overwrite, ih]

/-- Cell by cell: the block where it covers the array, the array elsewhere. -/
theorem getElem?_overwrite (p : ℕ) (c l : List α) (i : ℕ) :
    (overwrite p c l)[i]? = if p ≤ i ∧ i < p + c.length ∧ i < l.length then (c)[i - p]? else l[i]? := by
  induction l generalizing p c i with
  | nil => cases p <;> cases c <;> simp [overwrite]
  | cons b l ih =>
    cases p with
    | zero =>
      cases c with
      | nil => simp [overwrite]
      | cons a c =>
        cases i with
        | zero => simp [overwrite]
        | succ i => simp [overwrite, ih]
    | succ p =>
      cases i with
      | zero => simp [overwrite]
      | succ i => simp [overwrite, ih, Nat.add_right_comm]

theorem overwrite_singleton (p : ℕ) (a : α) (l : List α) : overwrite p [a] l = l.set p a := by
  induction l generalizing p with
  | nil => cases p <;> rfl
  | cons b l ih =>
    cases p with
    | zero => cases l <;> rfl
    | succ p => simp [overwrite, ih]

theorem overwrite_nil (p : ℕ) (l : List α) : overwrite p [] l = l := by
  induction l generalizing p with
  | nil => cases p <;> rfl
  | cons b l ih => cases p <;> simp [overwrite, ih]

/-- The first cell of a block may be stored before the others. -/
theorem overwrite_cons (p : ℕ) (a : α) (c l : List α) :
    overwrite p (a :: c) l = overwrite (p + 1) c (l.set p a) := by
  induction l generalizing p with
  | nil => cases p <;> cases c <;> rfl
  | cons b l ih =>
    cases p with
    | zero => simp [overwrite]
    | succ p => simp [overwrite, ih]

theorem set_overwrite (p : ℕ) (a : α) (c l : List α) :
    (overwrite (p + 1) c l).set p a = overwrite (p + 1) c (l.set p a) := by
  induction l generalizing p with
  | nil => cases c <;> rfl
  | cons b l ih =>
    cases p with
    | zero => simp [overwrite]
    | succ p => simp [overwrite, ih]

theorem overwrite_same {a c l : List α} : overwrite a.length c (a ++ c ++ l) = a ++ c ++ l := by
  rw [List.append_assoc, overwrite_append (by simp)]
  simp

/-- What stands behind the start of a block that fits. -/
theorem drop_overwrite {p : ℕ} {c l : List α} (h : p + c.length ≤ l.length) :
    (overwrite p c l).drop p = c ++ l.drop (p + c.length) := by
  have hlen : (l.take p).length = p := by
    rw [List.length_take]
    omega
  have hwrite := overwrite_append (a := l.take p) (c := c) (l := l.drop p) (by simp; omega)
  rw [List.take_append_drop, hlen] at hwrite
  rw [hwrite, List.append_assoc, List.drop_left' hlen, List.drop_drop]

/-- A block behind the first cells leaves these alone. -/
theorem overwrite_append_right {a l : List α} {p : ℕ} (h : a.length ≤ p) (c : List α) :
    a ++ overwrite (p - a.length) c l = overwrite p c (a ++ l) := by
  induction a generalizing p with
  | nil => rfl
  | cons x a ih =>
    obtain ⟨p, rfl⟩ := Nat.exists_eq_add_of_le' (show 1 ≤ p from (Nat.succ_pos _).trans_le h)
    rw [List.length_cons] at h
    rw [List.cons_append, List.cons_append, overwrite, ← ih (by omega), List.length_cons,
      Nat.add_sub_add_right]

end Fw100.Library
