import Fw100.Text.CString

/-!
# The tokenizer of AT response lines

`at_tok.c`. A cursor is the string that a `char *` still points at, or `none` for
`NULL`. The functions return what the source returns and what it stores through
its out parameter, also when it reports an error.
-/
namespace Fw100.Text

abbrev Cursor := Option CString

/-- The error code, what was stored in `*p_out` and the cursor afterwards. -/
structure Token (α : Type*) where
  err : ℤ
  out : Option α
  cur : Cursor
deriving DecidableEq, Repr

def Token.ok {α : Type*} (tok : Token α) : Option (α × Cursor) :=
  if tok.err < 0 then none else tok.out.map (fun a => (a, tok.cur))

def atTokStart : Cursor → ℤ × Cursor
  | none => (-1, none)
  | some s =>
    match s.dropWhile (· != 58) with
    | [] => (-1, none)
    | _ :: rest => (0, some rest)

def skipWhiteSpace (cur : Cursor) : Cursor := cur.map (List.dropWhile isSpace)

def skipNextComma (cur : Cursor) : Cursor :=
  cur.map (fun s => (s.dropWhile (· != 44)).drop 1)

def strsep (delimiter : UInt8) : Cursor → Option CString × Cursor
  | none => (none, none)
  | some s =>
    (some (s.takeWhile (· != delimiter)),
      match s.dropWhile (· != delimiter) with
      | [] => none
      | _ :: rest => some rest)

def nextTok (cur : Cursor) : Option CString × Cursor :=
  match skipWhiteSpace cur with
  | none => (none, none)
  | some s =>
    if s.head? = some 34 then
      let (ret, cur) := strsep 34 (some s.tail)
      (ret, skipNextComma cur)
    else strsep 44 (some s)

/-- The value of a digit or letter in `strtol`, and a large number for other bytes. -/
def digitValue (b : UInt8) : ℕ :=
  if isDigit b then b.toNat - 48
  else if 97 ≤ b ∧ b ≤ 122 then b.toNat - 87
  else if 65 ≤ b ∧ b ≤ 90 then b.toNat - 55
  else 255

/-- The sign and magnitude that `strtol` and `strtoul` convert, if there is a digit. -/
def parseNumber (base : ℕ) (s : CString) : Option (Bool × ℕ) :=
  let s := s.dropWhile isSpace
  let negative := s.head? = some 45
  let s := if s.head? = some 45 ∨ s.head? = some 43 then s.tail else s
  let isHex := base = 16 ∧ s.head? = some 48 ∧ (s[1]? = some 120 ∨ s[1]? = some 88) ∧
    (s[2]?.map digitValue).any (· < 16)
  let s := if isHex then s.drop 2 else s
  match s.takeWhile (fun b => digitValue b < base) with
  | [] => none
  | digits => some (negative, digits.foldl (fun n b => n * base + digitValue b) 0)

/-- The 32-bit `long` of `strtol`, clipped to its range. -/
def strtol (negative : Bool) (n : ℕ) : ℤ :=
  if negative then max (-(n : ℤ)) (-2 ^ 31) else min (n : ℤ) (2 ^ 31 - 1)

/-- The 32-bit `unsigned long` of `strtoul`, seen as an `int`. -/
def strtoul (negative : Bool) (n : ℕ) : ℤ :=
  let u := if 2 ^ 32 ≤ n then 2 ^ 32 - 1 else if negative then (2 ^ 32 - n) % 2 ^ 32 else n
  if u < 2 ^ 31 then (u : ℤ) else (u : ℤ) - 2 ^ 32

/-- `at_tok_nextint_base`: the value is stored even if there was no digit. -/
def atTokNextintBase (base : ℕ) (convert : Bool → ℕ → ℤ) (cur : Cursor) : Token ℤ :=
  match cur with
  | none => ⟨-1, none, none⟩
  | some s =>
    match nextTok (some s) with
    | (none, cur) => ⟨-1, none, cur⟩
    | (some ret, cur) =>
      match parseNumber base ret with
      | none => ⟨-1, some 0, cur⟩
      | some (negative, n) => ⟨0, some (convert negative n), cur⟩

def atTokNextint : Cursor → Token ℤ := atTokNextintBase 10 strtol

def atTokNexthexint : Cursor → Token ℤ := atTokNextintBase 16 strtoul

def atTokNextbool (cur : Cursor) : Token Bool :=
  let tok := atTokNextint cur
  if tok.err < 0 then ⟨-1, none, tok.cur⟩
  else if tok.out = some 0 then ⟨tok.err, some false, tok.cur⟩
  else if tok.out = some 1 then ⟨tok.err, some true, tok.cur⟩
  else ⟨-1, none, tok.cur⟩

/-- `at_tok_nextstr` stores the pointer that `nextTok` returns. -/
def atTokNextstr (cur : Cursor) : Token (Option CString) :=
  match cur with
  | none => ⟨-1, none, none⟩
  | some s =>
    let (ret, cur) := nextTok (some s)
    ⟨0, some ret, cur⟩

def atTokHasmore (cur : Cursor) : Bool := cur.any (fun s => !s.isEmpty)

/-- A cursor that points at something yields a token, even if it is an empty one. -/
theorem nextTok_some (s : CString) : ∃ tok cur, nextTok (some s) = (some tok, cur) := by
  simp only [nextTok, skipWhiteSpace, Option.map_some]
  split
  · exact ⟨_, _, rfl⟩
  · exact ⟨_, _, rfl⟩

theorem atTokStart_of_prefix {pre s : CString} (h : pre ++ [58] <+: s) :
    ∃ rest, atTokStart (some s) = (0, some rest) := by
  rcases h with ⟨t, rfl⟩
  have hne : (pre ++ [58] ++ t).dropWhile (· != 58) ≠ [] := by
    simp [List.dropWhile_eq_nil_iff]
  cases hd : (pre ++ [58] ++ t).dropWhile (· != 58) with
  | nil => exact absurd hd hne
  | cons x rest => exact ⟨rest, by simp only [atTokStart, hd]⟩

example : atTokNextint (some (ascii " 13,99")) = ⟨0, some 13, some (ascii "99")⟩ := by decide

end Fw100.Text
