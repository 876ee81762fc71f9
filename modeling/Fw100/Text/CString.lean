import Mathlib.Data.List.TakeWhile
import Mathlib.Tactic

/-!
# C strings and the helpers of `misc.c`

A C string is the list of its bytes before the terminating NUL. Literals of the
source are written as `ascii "..."`.
-/
namespace Fw100.Text

abbrev CString := List UInt8

/-- The bytes of a source literal. -/
def ascii (s : String) : CString := s.toList.map (fun c => c.toNat.toUInt8)

def isNewline (b : UInt8) : Bool := b == 13 || b == 10

def isDigit (b : UInt8) : Bool := 48 ≤ b && b ≤ 57

def isSpace (b : UInt8) : Bool := b == 32 || (9 ≤ b && b ≤ 13)

def toUpper (b : UInt8) : UInt8 := if 97 ≤ b && b ≤ 122 then b - 32 else b

/-- `strStartsWith` compares byte by byte until either string ends. -/
def strStartsWith : CString → CString → Bool
  | _, [] => true
  | [], _ :: _ => false
  | a :: line, b :: pre => if a != b then false else strStartsWith line pre

theorem strStartsWith_iff (line pre : CString) :
    strStartsWith line pre = true ↔ pre <+: line := by
  induction pre generalizing line with
  | nil => simp [strStartsWith]
  | cons b pre ih =>
    cases line with
    | nil => simp [strStartsWith]
    | cons a line =>
      by_cases h : a = b
      · subst h
        simp [strStartsWith, ih, List.cons_prefix_cons]
      · have h' : b ≠ a := fun e => h e.symm
        simp [strStartsWith, h, h', List.cons_prefix_cons]

/-- `strstr` as a test: some suffix starts with the needle. -/
def strstr : CString → CString → Bool
  | [], needle => needle.isEmpty
  | a :: s, needle => strStartsWith (a :: s) needle || strstr s needle

theorem strstr_iff (s needle : CString) : strstr s needle = true ↔ needle <:+: s := by
  induction s with
  | nil => simp [strstr]
  | cons a s ih => simp [strstr, strStartsWith_iff, ih, List.infix_cons_iff]

/-- `strncpy` into an array of `n` bytes: the copy is clipped or padded with NULs. -/
def strncpy (n : ℕ) (src : CString) : List UInt8 :=
  src.take n ++ List.replicate (n - src.length) 0

/-- The C string stored in an array: the bytes before the first NUL. -/
def cstr (cells : List UInt8) : CString := cells.takeWhile (· != 0)

theorem cstr_append {u : CString} (hu : ∀ b ∈ u, b ≠ 0) (l : List UInt8) :
    cstr (u ++ l) = u ++ cstr l := by
  rw [cstr, List.takeWhile_append_of_pos (fun b hb => by simpa using hu b hb)]
  rfl

theorem cstr_append_nul {u : CString} (hu : ∀ b ∈ u, b ≠ 0) (t : List UInt8) :
    cstr (u ++ 0 :: t) = u := by
  rw [cstr_append hu]
  simp [cstr]

/-- What stands behind a NUL does not count. -/
theorem cstr_append_zero (l t : List UInt8) : cstr (l ++ 0 :: t) = cstr l := by
  induction l with
  | nil => simp [cstr]
  | cons x l ih =>
    by_cases hx : x = 0
    · simp [cstr, hx]
    · simpa [cstr, hx] using ih

end Fw100.Text
