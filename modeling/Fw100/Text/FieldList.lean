import Fw100.Text.Tokenizer

/-!
# Lists of fields

What the tokenizer makes of a line that was written as a list of fields. A field is quoted or
not and may have white space in front of it; the fields are separated by commas. Reading the
line gives the fields back one by one. Where the last field leaves the cursor depends on its
kind: `NULL` behind an unquoted field, the empty string behind a quoted one.
-/
namespace Fw100.Text

/-- A field that can be written into a line. -/
structure Field where
  space : CString
  quoted : Bool
  content : CString
  space_isSpace : ∀ b ∈ space, isSpace b = true
  content_quoted : quoted = true → ∀ b ∈ content, b ≠ 34
  content_unquoted : quoted = false → ∀ b ∈ content, b ≠ 44
  head_unquoted : quoted = false → ∀ b ∈ content.head?, b ≠ 34 ∧ isSpace b = false

def Field.token (f : Field) : CString :=
  if f.quoted then 34 :: (f.content ++ [34]) else f.content

def Field.text (f : Field) : CString := f.space ++ f.token

def fieldsText (fields : List Field) : CString := [44].intercalate (fields.map Field.text)

theorem fieldsText_singleton (f : Field) : fieldsText [f] = f.text := by
  simp [fieldsText]

theorem fieldsText_cons_cons (f g : Field) (fields : List Field) :
    fieldsText (f :: g :: fields) = f.text ++ 44 :: fieldsText (g :: fields) := by
  simp [fieldsText, List.intercalate_cons_cons]

/-! ### One field -/

theorem strsep_append_cons {delimiter : UInt8} {tok : CString} (h : ∀ b ∈ tok, b ≠ delimiter)
    (rest : CString) : strsep delimiter (some (tok ++ delimiter :: rest)) = (some tok, some rest) := by
  have htok : ∀ b ∈ tok, (b != delimiter) = true := fun b hb => bne_iff_ne.mpr (h b hb)
  simp [strsep, List.takeWhile_append_of_pos htok, List.dropWhile_append_of_pos htok]

theorem strsep_of_forall_ne {delimiter : UInt8} {tok : CString} (h : ∀ b ∈ tok, b ≠ delimiter) :
    strsep delimiter (some tok) = (some tok, none) := by
  have htok : ∀ b ∈ tok, (b != delimiter) = true := fun b hb => bne_iff_ne.mpr (h b hb)
  simp only [strsep, List.takeWhile_eq_self_iff.mpr htok, List.dropWhile_eq_nil_iff.mpr htok]

theorem skipWhiteSpace_append {space s : CString} (hspace : ∀ b ∈ space, isSpace b = true)
    (hs : ∀ b ∈ s.head?, isSpace b = false) :
    skipWhiteSpace (some (space ++ s)) = some s := by
  rw [skipWhiteSpace, Option.map_some, List.dropWhile_append_of_pos hspace]
  cases s with
  | nil => rfl
  | cons b s => rw [List.dropWhile_cons_of_neg (by simp [hs b rfl])]

theorem nextTok_quoted {s tok rest : CString} (h : skipWhiteSpace (some s) = some (34 :: (tok ++ 34 :: rest)))
    (htok : ∀ b ∈ tok, b ≠ 34) : nextTok (some s) = (some tok, skipNextComma (some rest)) := by
  simp only [nextTok, h, List.head?_cons, if_true, List.tail_cons, strsep_append_cons htok]

theorem nextTok_unquoted {s s' : CString} (h : skipWhiteSpace (some s) = some s')
    (hs : s'.head? ≠ some 34) : nextTok (some s) = strsep 44 (some s') := by
  simp only [nextTok, h, if_neg hs]

/-- The next token is the field in front of `rest`, which is empty or starts with a comma. -/
theorem nextTok_field (f : Field) {rest : CString} (hrest : ∀ b ∈ rest.head?, b = 44) :
    nextTok (some (f.text ++ rest)) =
      (some f.content, if rest = [] ∧ f.quoted = false then none else some rest.tail) := by
  cases hq : f.quoted with
  | true =>
    have htext : f.text ++ rest = f.space ++ 34 :: (f.content ++ 34 :: rest) := by
      simp [Field.text, Field.token, hq]
    have hskip : skipWhiteSpace (some (f.text ++ rest)) = some (34 :: (f.content ++ 34 :: rest)) := by
      rw [htext]
      apply skipWhiteSpace_append f.space_isSpace
      intro b hb
      obtain rfl : 34 = b := Option.some.inj hb
      rfl
    rw [nextTok_quoted hskip (f.content_quoted hq)]
    cases rest with
    | nil => simp [skipNextComma]
    | cons b rest =>
      obtain rfl : b = 44 := hrest b rfl
      simp [skipNextComma]
  | false =>
    have htext : f.text ++ rest = f.space ++ (f.content ++ rest) := by
      simp [Field.text, Field.token, hq]
    have hhead : ∀ b ∈ (f.content ++ rest).head?, b ≠ 34 ∧ isSpace b = false := by
      intro b hb
      cases hc : f.content with
      | nil =>
        rw [hc, List.nil_append] at hb
        obtain rfl : b = 44 := hrest b hb
        exact ⟨by decide, rfl⟩
      | cons c content =>
        apply f.head_unquoted hq b
        simpa [hc] using hb
    have hskip : skipWhiteSpace (some (f.text ++ rest)) = some (f.content ++ rest) := by
      rw [htext]
      exact skipWhiteSpace_append f.space_isSpace (fun b hb => (hhead b hb).2)
    rw [nextTok_unquoted hskip (fun h => (hhead 34 h).1 rfl)]
    cases rest with
    | nil => simp [strsep_of_forall_ne (f.content_unquoted hq)]
    | cons b rest =>
      obtain rfl : b = 44 := hrest b rfl
      simp [strsep_append_cons (f.content_unquoted hq)]

/-! ### The whole line -/

/-- What one call of `at_tok_nextstr` shows, and `at_tok_hasmore` in front of it. -/
structure FieldRead where
  hasmore : Bool
  err : ℤ
  out : Option (Option CString)
deriving DecidableEq, Repr

def readFields : ℕ → Cursor → List FieldRead × Cursor
  | 0, cur => ([], cur)
  | n + 1, cur =>
    let tok := atTokNextstr cur
    let later := readFields n tok.cur
    (⟨atTokHasmore cur, tok.err, tok.out⟩ :: later.1, later.2)

/-- Nothing is left but one empty unquoted field, without white space in front of it. -/
def Blank (fields : List Field) : Prop :=
  ∃ f, fields = [f] ∧ f.space = [] ∧ f.quoted = false ∧ f.content = []

theorem blank_singleton {f : Field} : Blank [f] ↔ f.text = [] := by
  cases hq : f.quoted <;> simp [Blank, Field.text, Field.token, hq]

/-- The cursor in front of the fields that are still to come, behind a field of the given kind. -/
def cursorBefore (quoted : Bool) : List Field → Cursor
  | [] => if quoted then some [] else none
  | f :: fields => some (fieldsText (f :: fields))

theorem atTokNextstr_fields (f : Field) (fields : List Field) :
    atTokNextstr (some (fieldsText (f :: fields))) =
      ⟨0, some (some f.content), cursorBefore f.quoted fields⟩ := by
  cases fields with
  | nil =>
    have hlast := nextTok_field f (by simp : ∀ b ∈ ([] : CString).head?, b = 44)
    rw [List.append_nil] at hlast
    rw [fieldsText_singleton]
    cases hq : f.quoted <;> simp [atTokNextstr, hlast, hq, cursorBefore]
  | cons g fields =>
    have hnext := nextTok_field f (by simp : ∀ b ∈ (44 :: fieldsText (g :: fields)).head?, b = 44)
    rw [fieldsText_cons_cons]
    simp [atTokNextstr, hnext, cursorBefore]

/-- `at_tok_hasmore` overlooks exactly a blank last field. -/
theorem atTokHasmore_fields (f : Field) (fields : List Field) :
    atTokHasmore (some (fieldsText (f :: fields))) = true ↔ ¬ Blank (f :: fields) := by
  cases fields with
  | nil =>
    rw [blank_singleton, fieldsText_singleton]
    simp [atTokHasmore]
  | cons g fields => simp [atTokHasmore, fieldsText_cons_cons, Blank]

theorem atTokHasmore_cursorBefore_nil (quoted : Bool) :
    atTokHasmore (cursorBefore quoted []) = false := by
  cases quoted <;> rfl

/-- The reads give the fields back. -/
structure ReadBack (fields : List Field) (reads : List FieldRead) : Prop where
  contents : reads.map FieldRead.out = fields.map (fun f => some (some f.content))
  succeeds : ∀ read ∈ reads, read.err = 0
  hasmore : ∀ i read, reads[i]? = some read →
    (read.hasmore = true ↔ ¬ Blank (fields.drop i))

theorem ReadBack.cons {f : Field} {fields : List Field} {reads : List FieldRead} {hasmore : Bool}
    (hmore : hasmore = true ↔ ¬ Blank (f :: fields)) (h : ReadBack fields reads) :
    ReadBack (f :: fields) (⟨hasmore, 0, some (some f.content)⟩ :: reads) where
  contents := by simp [h.contents]
  succeeds := by
    intro read hread
    rcases List.mem_cons.mp hread with rfl | hread
    · rfl
    · exact h.succeeds read hread
  hasmore := by
    intro i read hread
    cases i with
    | zero =>
      obtain rfl : _ = read := Option.some.inj hread
      exact hmore
    | succ i => exact h.hasmore i read hread

theorem readFields_cursorBefore (quoted : Bool) (fields : List Field) :
    ReadBack fields (readFields fields.length (cursorBefore quoted fields)).1 ∧
      atTokHasmore (readFields fields.length (cursorBefore quoted fields)).2 = false := by
  induction fields generalizing quoted with
  | nil =>
    refine ⟨⟨rfl, by simp [readFields], by simp [readFields]⟩, ?_⟩
    exact atTokHasmore_cursorBefore_nil quoted
  | cons f fields ih =>
    obtain ⟨hback, hdone⟩ := ih f.quoted
    simp only [List.length_cons, readFields, cursorBefore, atTokNextstr_fields]
    exact ⟨hback.cons (atTokHasmore_fields f fields), hdone⟩

theorem atTokStart_colon {pre rest : CString} (h : ∀ b ∈ pre, b ≠ 58) :
    atTokStart (some (pre ++ 58 :: rest)) = (0, some rest) := by
  have hpre : ∀ b ∈ pre, (b != 58) = true := fun b hb => bne_iff_ne.mpr (h b hb)
  simp [atTokStart, List.dropWhile_append_of_pos hpre]

/-- A line that was written as a list of fields is read as that list. -/
theorem fields_read_back {pre : CString} (hpre : ∀ b ∈ pre, b ≠ 58) {fields : List Field}
    (hfields : fields ≠ []) :
    let start := atTokStart (some (pre ++ 58 :: fieldsText fields))
    let reads := readFields fields.length start.2
    start.1 = 0 ∧ ReadBack fields reads.1 ∧ atTokHasmore reads.2 = false := by
  obtain ⟨f, fields, rfl⟩ := List.exists_cons_of_ne_nil hfields
  rw [atTokStart_colon hpre]
  exact ⟨rfl, readFields_cursorBefore true (f :: fields)⟩

/-- A number, a quoted field with a comma behind white space, and an empty field. -/
theorem fields_read_back_mixed :
    let number : Field := ⟨[], false, ascii "13", by decide +kernel, by decide +kernel,
      by decide +kernel, by decide +kernel⟩
    let name : Field := ⟨[32], true, ascii "a,b", by decide +kernel, by decide +kernel,
      by decide +kernel, by decide +kernel⟩
    let blank : Field := ⟨[], false, [], by decide +kernel, by decide +kernel, by decide +kernel,
      by decide +kernel⟩
    let line := ascii "+COPS" ++ 58 :: fieldsText [number, name, blank]
    let reads := readFields 3 (atTokStart (some line)).2
    line = ascii "+COPS:13, \"a,b\"," ∧ (atTokStart (some line)).1 = 0 ∧
      ReadBack [number, name, blank] reads.1 ∧ atTokHasmore reads.2 = false :=
  ⟨by decide +kernel, fields_read_back (by decide +kernel) (List.cons_ne_nil _ _)⟩

end Fw100.Text
