import Fw100.Request.Contract
import Fw100.Text.FieldList

/-!
# The fields of a response line

A line that answers a query starts with the prefix of the query, so the tokenizer finds its
colon. What the handlers read from there on is determined by the first tokens of the line.
-/
namespace Fw100.Request
open Library Text Channel Session

def firstTokens : ℕ → Cursor → List CString
  | 0, _ => []
  | n + 1, cur =>
    match nextTok cur with
    | (none, _) => []
    | (some tok, cur) => tok :: firstTokens n cur

theorem firstTokens_zero (cur : Cursor) : firstTokens 0 cur = [] := rfl

theorem firstTokens_none (n : ℕ) : firstTokens n none = [] := by
  cases n <;> rfl

theorem firstTokens_succ {n : ℕ} {s tok : CString} {cur : Cursor}
    (h : nextTok (some s) = (some tok, cur)) :
    firstTokens (n + 1) (some s) = tok :: firstTokens n cur := by
  simp only [firstTokens, h]

theorem tokStr_none : tokStr none = none := rfl

theorem tokInt_some {s tok : CString} {cur : Cursor} (h : nextTok (some s) = (some tok, cur)) :
    tokInt (some s) = (parseNumber 10 tok).map (fun n => (strtol n.1 n.2, cur)) := by
  simp only [tokInt, atTokNextint, atTokNextintBase, h]
  cases parseNumber 10 tok <;> rfl

theorem tokStr_some {s tok : CString} {cur : Cursor} (h : nextTok (some s) = (some tok, cur)) :
    tokStr (some s) = some (tok, cur) := by
  simp only [tokStr, atTokNextstr, h]
  rfl

/-- The line of a query starts with the prefix that was asked for. -/
theorem prefix_of_replyLine {command responsePrefix line : CString} {reply : Reply}
    (h : replyLine command responsePrefix reply = some line) : responsePrefix <+: line := by
  cases reply with
  | failed e => cases h
  | closed lines => cases h
  | answered lines hfinal =>
    simp only [replyLine] at h
    split at h
    · have hfind : ((Call.singleline command responsePrefix true).routed (nonFinal lines)).find?
          (Call.singleline command responsePrefix true).wants = some line := by
        simpa [Call.assemble, Call.intermediates, Call.singleline] using h
      have hwants : (Call.singleline command responsePrefix true).wants line = true :=
        List.find?_some hfind
      exact (strStartsWith_iff _ _).mp hwants
    · cases h

/-- So the tokenizer finds the colon of a prefix that ends with one. -/
theorem tokStart_of_replyLine {command pre line : CString} {reply : Reply}
    (h : replyLine command (pre ++ [58]) reply = some line) :
    ∃ rest, tokStart line = some (some rest) := by
  obtain ⟨rest, hrest⟩ := atTokStart_of_prefix (prefix_of_replyLine h)
  exact ⟨rest, by simp [tokStart, hrest]⟩

/-! ### Numbers in decimal -/

theorem isDigit_toNat {b : UInt8} (h : isDigit b = true) : 48 ≤ b.toNat ∧ b.toNat ≤ 57 := by
  simpa [isDigit, UInt8.le_iff_toNat_le] using h

/-- The characters of a number mean nothing to the tokenizer. -/
theorem plain_of_digit_or_minus {b : UInt8} (h : isDigit b = true ∨ b = 45) :
    b ≠ 44 ∧ b ≠ 34 ∧ isSpace b = false := by
  have hrange : 45 ≤ b.toNat ∧ b.toNat ≤ 57 := by
    rcases h with h | rfl
    · have := isDigit_toNat h
      omega
    · decide
  simp only [isSpace, ne_eq, ← UInt8.toNat_inj, UInt8.le_iff_toNat_le, Bool.or_eq_false_iff,
    Bool.and_eq_false_iff, beq_eq_false_iff_ne, decide_eq_false_iff_not]
  simp
  omega

/-- A digit of a decimal number as a byte. -/
theorem isDigit_of_isDigit {c : Char} (h : c.isDigit = true) : isDigit c.toNat.toUInt8 = true := by
  obtain ⟨hlo, hhi⟩ : 48 ≤ c.toNat ∧ c.toNat ≤ 57 := Char.isDigit_iff_toNat.mp h
  have hbyte : c.toNat.toUInt8.toNat = c.toNat := by
    simp only [Nat.toUInt8_eq, UInt8.toNat_ofNat']
    omega
  simp only [isDigit, Bool.and_eq_true, decide_eq_true_eq, UInt8.le_iff_toNat_le, hbyte]
  exact ⟨hlo, hhi⟩

/-- The text of a number: an optional sign and at least one digit. -/
theorem decimal_digits (v : ℤ) : ∃ sign digits : CString, decimal v = sign ++ digits ∧
    (sign = [] ∨ sign = [45]) ∧ digits ≠ [] ∧ ∀ b ∈ digits, isDigit b = true := by
  have hnat : ∀ n : ℕ, ascii (toString n) ≠ [] ∧ ∀ b ∈ ascii (toString n), isDigit b = true := by
    intro n
    have htext : ascii (toString n) = (Nat.toDigits 10 n).map (fun c => c.toNat.toUInt8) := by
      simp [ascii]
    rw [htext]
    refine ⟨by simp, ?_⟩
    simp only [List.mem_map]
    rintro _ ⟨c, hc, rfl⟩
    exact isDigit_of_isDigit (Nat.isDigit_of_mem_toDigits (by decide) (by decide) hc)
  cases v with
  | ofNat n => exact ⟨[], ascii (toString n), rfl, .inl rfl, hnat n⟩
  | negSucc n =>
    refine ⟨[45], ascii (toString (n + 1)), ?_, .inr rfl, hnat (n + 1)⟩
    have htext : toString (Int.negSucc n) = "-" ++ toString (n + 1) := rfl
    simp [decimal, htext, ascii]

theorem decimal_plain {v : ℤ} {b : UInt8} (h : b ∈ decimal v) :
    b ≠ 44 ∧ b ≠ 34 ∧ isSpace b = false := by
  obtain ⟨sign, digits, heq, hsign, -, hdigits⟩ := decimal_digits v
  apply plain_of_digit_or_minus
  rw [heq, List.mem_append] at h
  rcases h with h | h
  · right
    rcases hsign with rfl | rfl
    · cases h
    · exact List.mem_singleton.mp h
  · exact .inl (hdigits b h)

theorem parseNumber_decimal (v : ℤ) : ∃ n, parseNumber 10 (decimal v) = some n := by
  obtain ⟨sign, digits, heq, hsign, hne, hdigits⟩ := decimal_digits v
  obtain ⟨d, ds, rfl⟩ := List.exists_cons_of_ne_nil hne
  have hdigit : isDigit d = true := hdigits d (.head _)
  have hrange := isDigit_toNat hdigit
  have hspace : isSpace d = false := (plain_of_digit_or_minus (.inl hdigit)).2.2
  have hminus : d ≠ 45 := by
    rintro rfl
    exact absurd hrange (by decide)
  have hplus : d ≠ 43 := by
    rintro rfl
    exact absurd hrange (by decide)
  have hvalue : digitValue d < 10 := by
    rw [digitValue, if_pos hdigit]
    omega
  have h45 : isSpace 45 = false := rfl
  rcases hsign with rfl | rfl
  · simp [parseNumber, heq, hspace, hminus, hplus, hvalue]
  · simp [parseNumber, heq, h45, hvalue]

/-- A number in a line, with blanks in front of it. -/
structure NumberField where
  blanks : ℕ
  value : ℤ
deriving DecidableEq, Repr

def NumberField.text (f : NumberField) : CString := List.replicate f.blanks 32 ++ decimal f.value

/-- The cursor in front of fields that are separated by commas. -/
def fieldsCursor : List NumberField → Cursor
  | [] => none
  | f :: fs =>
    match fieldsCursor fs with
    | none => some f.text
    | some rest => some (f.text ++ 44 :: rest)

def NumberField.toField (f : NumberField) : Field where
  space := List.replicate f.blanks 32
  quoted := false
  content := decimal f.value
  space_isSpace := by
    intro b hb
    rw [List.eq_of_mem_replicate hb]
    rfl
  content_quoted := fun h => absurd h Bool.false_ne_true
  content_unquoted := fun _ _ hb => (decimal_plain hb).1
  head_unquoted := fun _ _ hb => (decimal_plain (List.mem_of_mem_head? hb)).2

/-- The next token is the number in front of `rest`, which is empty or starts with a comma. -/
theorem nextTok_number (f : NumberField) (rest : CString) (hrest : ∀ b ∈ rest.head?, b = 44) :
    nextTok (some (f.text ++ rest)) =
      (some (decimal f.value), if rest = [] then none else some rest.tail) := by
  have htoken := nextTok_field f.toField hrest
  have hlast : rest = [] ∧ f.toField.quoted = false ↔ rest = [] := and_iff_left rfl
  simp only [hlast] at htoken
  exact htoken

theorem nextTok_fieldsCursor (f : NumberField) (fs : List NumberField) :
    nextTok (fieldsCursor (f :: fs)) = (some (decimal f.value), fieldsCursor fs) := by
  rw [fieldsCursor]
  cases fieldsCursor fs with
  | none =>
    have hlast := nextTok_number f [] (by simp)
    simpa using hlast
  | some rest =>
    have hcomma := nextTok_number f (44 :: rest) (by simp)
    simpa using hcomma

theorem fieldsCursor_cons (f : NumberField) (fs : List NumberField) :
    ∃ text, fieldsCursor (f :: fs) = some text := by
  rw [fieldsCursor]
  split
  · exact ⟨_, rfl⟩
  · exact ⟨_, rfl⟩

theorem tokInt_fieldsCursor (f : NumberField) (fs : List NumberField) :
    ∃ n, tokInt (fieldsCursor (f :: fs)) = some (n, fieldsCursor fs) := by
  obtain ⟨text, htext⟩ := fieldsCursor_cons f fs
  obtain ⟨n, hn⟩ := parseNumber_decimal f.value
  have htoken := nextTok_fieldsCursor f fs
  rw [htext] at htoken ⊢
  exact ⟨strtol n.1 n.2, by rw [tokInt_some htoken, hn]; rfl⟩

theorem tokStr_fieldsCursor (f : NumberField) (fs : List NumberField) :
    tokStr (fieldsCursor (f :: fs)) = some (decimal f.value, fieldsCursor fs) := by
  obtain ⟨text, htext⟩ := fieldsCursor_cons f fs
  have htoken := nextTok_fieldsCursor f fs
  rw [htext] at htoken ⊢
  exact tokStr_some htoken

end Fw100.Request
