import Fw100.Text.CString
import Mathlib.Data.List.GetD

/-!
# The tokenizer of NMEA sentences

`nmea_tokenizer_init` and `nmea_tokenizer_get` of the GPS driver. A token is a pointer into
the sentence and a length, because the parser also looks at the byte that an empty token
points at.
-/
namespace Fw100.Gps
open Text (ascii isDigit)

/-- The bytes from `p` on, of which the first `len` belong to the token. -/
structure Token where
  p : List UInt8
  len : ℕ
deriving DecidableEq, Repr

def Token.slice (tok : Token) (i j : ℕ) : List UInt8 := (tok.p.drop i).take (j - i)

def Token.text (tok : Token) : List UInt8 := tok.slice 0 tok.len

def Token.first (tok : Token) : UInt8 := tok.p.headD 0

/-- The loop over the `n` bytes from `p` on, which are cut at the commas. -/
def tokensFrom : ℕ → List UInt8 → ℕ → List Token
  | 0, _, _ => []
  | fuel + 1, p, n =>
    if n = 0 then []
    else
      let len := ((p.take n).takeWhile (· != 44)).length
      ⟨p, len⟩ :: tokensFrom fuel (p.drop (len + 1)) (n - (len + 1))

def beforeNewline (p : List UInt8) : ℕ :=
  let n := p.length
  if 0 < n ∧ p.getD (n - 1) 0 = 10 then
    if 0 < n - 1 ∧ p.getD (n - 2) 0 = 13 then n - 2 else n - 1
  else n

def beforeChecksum (p : List UInt8) (n : ℕ) : ℕ :=
  if 3 ≤ n ∧ p.getD (n - 3) 0 = 42 then n - 3 else n

def maxNmeaTokens : ℕ := 32

/-- `nmea_tokenizer_init`. Every round takes a byte at least, so the length is enough fuel. -/
def nmeaTokenizerInit (sentence : List UInt8) : List Token :=
  let p := if sentence.head? = some 36 then sentence.tail else sentence
  let n := beforeChecksum p (beforeNewline p)
  (tokensFrom n p n).take maxNmeaTokens

/-- `nmea_tokenizer_get`, with an empty string behind the last token. -/
def nmeaTokenizerGet (tzer : List Token) (index : ℕ) : Token := tzer.getD index ⟨[], 0⟩

/-- The digits of a number with the wrap-around of an `int`. -/
def digitsValue (s : List UInt8) : ℤ :=
  s.foldl (fun result c => (result * 10 + (c.toNat - 48 : ℕ)).bmod (2 ^ 32)) 0

/-- `str2int`: -1 for the empty string and for anything but digits. -/
def str2int (s : List UInt8) : ℤ :=
  if s = [] ∨ s.all isDigit = false then -1 else digitsValue s

/-- More fuel than bytes changes nothing. -/
theorem tokensFrom_fuel {fuel fuel' n : ℕ} (h : n ≤ fuel) (h' : n ≤ fuel') (p : List UInt8) :
    tokensFrom fuel p n = tokensFrom fuel' p n := by
  induction fuel generalizing fuel' n p with
  | zero =>
    obtain rfl : n = 0 := by omega
    cases fuel' <;> simp [tokensFrom]
  | succ fuel ih =>
    cases fuel' with
    | zero =>
      obtain rfl : n = 0 := by omega
      simp [tokensFrom]
    | succ fuel' =>
      rw [tokensFrom, tokensFrom]
      split_ifs with hn
      · rfl
      · exact congrArg (List.cons _) (ih (by omega) (by omega) _)

/-- The loop as the source has it. -/
theorem tokensFrom_eq {n : ℕ} (hn : n ≠ 0) (p : List UInt8) :
    let len := ((p.take n).takeWhile (· != 44)).length
    tokensFrom n p n =
      ⟨p, len⟩ :: tokensFrom (n - (len + 1)) (p.drop (len + 1)) (n - (len + 1)) := by
  obtain ⟨k, rfl⟩ := Nat.exists_eq_add_one_of_ne_zero hn
  rw [tokensFrom, if_neg hn]
  exact congrArg (List.cons _) (tokensFrom_fuel (by omega) le_rfl _)

theorem len_le_of_mem_tokensFrom {fuel n : ℕ} {p : List UInt8} (hn : n ≤ p.length) {tok : Token}
    (h : tok ∈ tokensFrom fuel p n) : tok.len ≤ tok.p.length := by
  induction fuel generalizing n p with
  | zero => cases h
  | succ fuel ih =>
    rw [tokensFrom] at h
    split_ifs at h with hzero
    · cases h
    · rcases List.mem_cons.mp h with rfl | htail
      · have htake := (List.takeWhile_sublist (· != 44) (l := p.take n)).length_le
        rw [List.length_take] at htake
        exact htake.trans (Nat.min_le_right _ _)
      · refine ih ?_ htail
        rw [List.length_drop]
        omega

theorem nmeaTokenizerGet_len_le (sentence : List UInt8) (index : ℕ) :
    (nmeaTokenizerGet (nmeaTokenizerInit sentence) index).len ≤
      (nmeaTokenizerGet (nmeaTokenizerInit sentence) index).p.length := by
  rcases Nat.lt_or_ge index (nmeaTokenizerInit sentence).length with hlt | hge
  · have hbound : ∀ p : List UInt8, beforeChecksum p (beforeNewline p) ≤ p.length := by
      intro p
      simp only [beforeChecksum, beforeNewline]
      split_ifs <;> omega
    have hmem : nmeaTokenizerGet (nmeaTokenizerInit sentence) index ∈ nmeaTokenizerInit sentence := by
      rw [nmeaTokenizerGet, List.getD_eq_getElem _ _ hlt]
      exact List.getElem_mem hlt
    exact len_le_of_mem_tokensFrom (hbound _) (List.mem_of_mem_take hmem)
  · rw [nmeaTokenizerGet, List.getD_eq_default _ _ hge]
    exact le_rfl

theorem slice_take (tok : Token) {i j k : ℕ} (h : i + k ≤ j) :
    (tok.slice i j).take k = tok.slice i (i + k) := by
  rw [Token.slice, Token.slice, List.take_take, Nat.add_sub_cancel_left,
    Nat.min_eq_left (by omega)]

theorem length_slice_le (tok : Token) (i j : ℕ) : (tok.slice i j).length ≤ j - i :=
  List.length_take_le _ _

example : (nmeaTokenizerInit (ascii "$GPZDA,160012.71,,03,*7D\r\n")).map Token.text =
    [ascii "GPZDA", ascii "160012.71", [], ascii "03"] := by decide +kernel

end Fw100.Gps
