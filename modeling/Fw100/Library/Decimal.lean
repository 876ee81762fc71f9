import Mathlib.Tactic

/-!
# Decimal digits as bytes

A number is written with a fixed number of digits, zeros in front, and a list of digits has a
value. Behind a decimal point the digits are the numerator of a decimal fraction.
-/
namespace Fw100.Library

def IsDigit (c : UInt8) : Prop := 48 ≤ c.toNat ∧ c.toNat ≤ 57

instance (c : UInt8) : Decidable (IsDigit c) := inferInstanceAs (Decidable (_ ∧ _))

instance (s : List UInt8) : Decidable (∀ c ∈ s, IsDigit c) := List.decidableBAll IsDigit s

def decimalValue (s : List UInt8) : ℕ := s.foldl (fun v c => v * 10 + (c.toNat - 48)) 0

def padded : ℕ → ℕ → List UInt8
  | 0, _ => []
  | k + 1, n => padded k (n / 10) ++ [UInt8.ofNat (48 + n % 10)]

@[simp] theorem decimalValue_nil : decimalValue [] = 0 := rfl

theorem decimalValue_concat (s : List UInt8) (c : UInt8) :
    decimalValue (s ++ [c]) = decimalValue s * 10 + (c.toNat - 48) := by
  simp [decimalValue]

theorem toNat_digit (n : ℕ) : (UInt8.ofNat (48 + n % 10)).toNat = 48 + n % 10 := by
  rw [UInt8.toNat_ofNat']
  omega

@[simp] theorem length_padded (k n : ℕ) : (padded k n).length = k := by
  induction k generalizing n with
  | zero => rfl
  | succ k ih => simp [padded, ih]

theorem padded_digits {k n : ℕ} {c : UInt8} (h : c ∈ padded k n) : IsDigit c := by
  induction k generalizing n with
  | zero => cases h
  | succ k ih =>
    rw [padded, List.mem_append, List.mem_singleton] at h
    rcases h with h | rfl
    · exact ih h
    · rw [IsDigit, toNat_digit]
      omega

theorem decimalValue_padded {k n : ℕ} (h : n < 10 ^ k) : decimalValue (padded k n) = n := by
  induction k generalizing n with
  | zero =>
    have hzero : n = 0 := by simpa using h
    rw [hzero]
    rfl
  | succ k ih =>
    have hq : n / 10 < 10 ^ k := by
      rw [pow_succ'] at h
      omega
    rw [padded, decimalValue_concat, ih hq, toNat_digit]
    omega

theorem decimalValue_lt {s : List UInt8} (h : ∀ c ∈ s, IsDigit c) :
    decimalValue s < 10 ^ s.length := by
  induction s using List.reverseRecOn with
  | nil => simp
  | append_singleton s c ih =>
    have hs := ih (fun b hb => h b (List.mem_append_left _ hb))
    have hc : IsDigit c := h c (by simp)
    simp only [IsDigit] at hc
    rw [decimalValue_concat, List.length_append, List.length_singleton, pow_succ]
    omega

theorem decimalValue_append (s t : List UInt8) :
    decimalValue (s ++ t) = decimalValue s * 10 ^ t.length + decimalValue t := by
  induction t using List.reverseRecOn with
  | nil => simp
  | append_singleton t c ih =>
    rw [← List.append_assoc, decimalValue_concat, decimalValue_concat, ih, List.length_append,
      List.length_singleton, pow_succ]
    ring

/-- The first `k` digits behind the point say how many units of `10 ^ -k` there are. -/
theorem decimalValue_take {s : List UInt8} (h : ∀ c ∈ s, IsDigit c) {k : ℕ} (hk : k ≤ s.length) :
    decimalValue (s.take k) = 10 ^ k * decimalValue s / 10 ^ s.length := by
  have hrest := decimalValue_lt (fun c hc => h c (List.mem_of_mem_drop hc) : ∀ c ∈ s.drop k, _)
  have hlen : (s.drop k).length = s.length - k := List.length_drop
  have hsplit : decimalValue s =
      decimalValue (s.take k) * 10 ^ (s.length - k) + decimalValue (s.drop k) := by
    rw [← hlen, ← decimalValue_append, List.take_append_drop]
  have hpow : 10 ^ s.length = 10 ^ k * 10 ^ (s.length - k) := by
    rw [← pow_add, Nat.add_sub_cancel' hk]
  have hpos : 0 < 10 ^ (s.length - k) := by positivity
  rw [hlen] at hrest
  rw [hpow, Nat.mul_div_mul_left _ _ (by positivity), hsplit, add_comm,
    Nat.add_mul_div_right _ _ hpos, Nat.div_eq_of_lt hrest, zero_add]

example : padded 4 704 = [48, 55, 48, 52] := by decide

end Fw100.Library
