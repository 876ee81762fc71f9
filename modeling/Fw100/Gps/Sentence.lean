import Fw100.Gps.Parser
import Mathlib.Data.List.GetD

/-!
# Well-formed NMEA sentences

A sentence is written from its fields, with the `$`, the checksum and the line end that may
stand around them. The tokenizer gives the fields back, but for an empty one at the end, and
up to the number that it has room for.
-/
namespace Fw100.Gps
open Text (ascii)

/-- The bytes that have no meaning of their own: no comma, `*`, `$` or line end. -/
def Plain (c : UInt8) : Prop := c ≠ 44 ∧ c ≠ 42 ∧ c ≠ 36 ∧ c ≠ 13 ∧ c ≠ 10

instance (c : UInt8) : Decidable (Plain c) := inferInstanceAs (Decidable (_ ∧ _))

instance (text : List UInt8) : Decidable (∀ c ∈ text, Plain c) := List.decidableBAll Plain text

inductive LineEnd where
  | none
  | newline
  | crNewline
deriving DecidableEq, Repr

def LineEnd.bytes : LineEnd → List UInt8
  | .none => []
  | .newline => [10]
  | .crNewline => [13, 10]

structure Frame where
  dollar : Bool
  checksum : Option (UInt8 × UInt8)
  lineEnd : LineEnd
deriving DecidableEq, Repr

def Frame.checksumBytes (f : Frame) : List UInt8 :=
  match f.checksum with
  | none => []
  | some (a, b) => [42, a, b]

/-- The two digits of the checksum are plain bytes. -/
def Frame.WellFormed (f : Frame) : Prop := ∀ a b, f.checksum = some (a, b) → Plain a ∧ Plain b

def joined (fields : List (List UInt8)) : List UInt8 := List.intercalate [44] fields

def Frame.sentence (f : Frame) (fields : List (List UInt8)) : List UInt8 :=
  (if f.dollar then [36] else []) ++ (joined fields ++ f.checksumBytes ++ f.lineEnd.bytes)

def kept : List (List UInt8) → List (List UInt8)
  | [] => []
  | [field] => if field = [] then [] else [field]
  | field :: next :: fields => field :: kept (next :: fields)

def Reads (tok : Token) (field : List UInt8) : Prop := ∃ rest, tok = ⟨field ++ rest, field.length⟩

theorem Reads.text {tok : Token} {field : List UInt8} (h : Reads tok field) : tok.text = field := by
  obtain ⟨rest, rfl⟩ := h
  simp [Token.text, Token.slice]

theorem Reads.len {tok : Token} {field : List UInt8} (h : Reads tok field) :
    tok.len = field.length := by
  obtain ⟨rest, rfl⟩ := h
  rfl

theorem Reads.first {tok : Token} {c : UInt8} {field : List UInt8} (h : Reads tok (c :: field)) :
    tok.first = c := by
  obtain ⟨rest, rfl⟩ := h
  rfl

theorem Reads.slice {tok : Token} {field a s b : List UInt8} {i j : ℕ} (h : Reads tok field)
    (heq : field = a ++ s ++ b) (hi : a.length = i) (hj : i + s.length = j) :
    tok.slice i j = s := by
  obtain ⟨rest, rfl⟩ := h
  subst heq hi hj
  simp [Token.slice]

/-! ### The loop -/

@[simp] theorem joined_singleton (field : List UInt8) : joined [field] = field := by
  simp [joined]

theorem joined_cons_cons (field next : List UInt8) (fields : List (List UInt8)) :
    joined (field :: next :: fields) = field ++ 44 :: joined (next :: fields) := by
  simp [joined, List.intercalate]

theorem length_le_joined (fields : List (List UInt8)) :
    fields.length ≤ (joined fields).length + 1 := by
  induction fields with
  | nil => exact Nat.zero_le _
  | cons field fields ih =>
    cases fields with
    | nil => exact Nat.le_add_left 1 _
    | cons next fields =>
      simp only [joined_cons_cons, List.length_append, List.length_cons] at ih ⊢
      omega

theorem takeWhile_field {field : List UInt8} (h : ∀ c ∈ field, c ≠ 44) (t : List UInt8) :
    (field ++ 44 :: t).takeWhile (· != 44) = field := by
  rw [List.takeWhile_append_of_pos (by simpa using h)]
  simp

theorem tokensFrom_last {field : List UInt8} (h : ∀ c ∈ field, c ≠ 44) (t : List UInt8) :
    List.Forall₂ Reads (tokensFrom field.length (field ++ t) field.length) (kept [field]) := by
  cases field with
  | nil => exact .nil
  | cons c field =>
    have hall : ((c :: field ++ t).take (c :: field).length).takeWhile (· != 44) = c :: field := by
      rw [List.take_left', List.takeWhile_eq_self_iff]
      · simpa using h
      · rfl
    have hrest : (c :: field).length - ((c :: field).length + 1) = 0 := by omega
    rw [tokensFrom_eq (by simp), hall, hrest, tokensFrom]
    exact .cons ⟨t, rfl⟩ .nil

theorem tokensFrom_joined {fields : List (List UInt8)} (h : ∀ field ∈ fields, ∀ c ∈ field, c ≠ 44)
    (t : List UInt8) :
    List.Forall₂ Reads (tokensFrom (joined fields).length (joined fields ++ t)
      (joined fields).length) (kept fields) := by
  induction fields with
  | nil => exact .nil
  | cons field fields ih =>
    have hfield : ∀ c ∈ field, c ≠ 44 := h field (.head _)
    have hrest := ih (fun f hf => h f (.tail _ hf))
    cases fields with
    | nil =>
      rw [joined_singleton]
      exact tokensFrom_last hfield t
    | cons next fields =>
      have hne : (joined (field :: next :: fields)).length ≠ 0 := by simp [joined_cons_cons]
      have hword : ((joined (field :: next :: fields) ++ t).take
          (joined (field :: next :: fields)).length).takeWhile (· != 44) = field := by
        rw [List.take_left' rfl, joined_cons_cons, takeWhile_field hfield]
      have hdrop : (joined (field :: next :: fields) ++ t).drop (field.length + 1) =
          joined (next :: fields) ++ t := by
        rw [joined_cons_cons, List.append_assoc, ← List.drop_drop, List.drop_left' rfl]
        rfl
      have hlen : (joined (field :: next :: fields)).length - (field.length + 1) =
          (joined (next :: fields)).length := by
        rw [joined_cons_cons, List.length_append, List.length_cons]
        omega
      rw [tokensFrom_eq hne, hword, hdrop, hlen]
      refine .cons ⟨44 :: (joined (next :: fields) ++ t), ?_⟩ hrest
      rw [joined_cons_cons, List.append_assoc, List.cons_append]

/-! ### What is cut off -/

theorem mem_joined {fields : List (List UInt8)} {c : UInt8} (h : c ∈ joined fields) :
    c = 44 ∨ ∃ field ∈ fields, c ∈ field := by
  induction fields with
  | nil => cases h
  | cons field fields ih =>
    cases fields with
    | nil => exact .inr ⟨field, .head _, by simpa using h⟩
    | cons next fields =>
      rw [joined_cons_cons, List.mem_append, List.mem_cons] at h
      rcases h with hin | rfl | hin
      · exact .inr ⟨field, .head _, hin⟩
      · exact .inl rfl
      · exact (ih hin).imp_right (fun ⟨f, hf, hc⟩ => ⟨f, .tail _ hf, hc⟩)

def Body (body : List UInt8) : Prop := ∀ c ∈ body, c = 44 ∨ Plain c

theorem body_joined {fields : List (List UInt8)} (h : ∀ field ∈ fields, ∀ c ∈ field, Plain c) :
    Body (joined fields) := by
  intro c hc
  rcases mem_joined hc with rfl | ⟨field, hfield, hin⟩
  · exact .inl rfl
  · exact .inr (h field hfield c hin)

theorem Body.ne {body : List UInt8} (h : Body body) {c : UInt8}
    (hc : c ≠ 44 ∧ ¬ Plain c) : c ∉ body := fun hin => (h c hin).elim hc.1 hc.2

theorem getD_ne {l : List UInt8} {c : UInt8} (h : c ∉ l) (hc : c ≠ 0) (i : ℕ) :
    l.getD i 0 ≠ c := by
  intro heq
  rw [List.getD_eq_getElem?_getD] at heq
  cases hget : l[i]? with
  | none =>
    rw [hget] at heq
    exact hc heq.symm
  | some b =>
    rw [hget] at heq
    obtain rfl : b = c := heq
    exact h (List.mem_of_getElem? hget)

theorem beforeNewline_append {p : List UInt8} (h13 : (13 : UInt8) ∉ p) (h10 : (10 : UInt8) ∉ p)
    (e : LineEnd) : beforeNewline (p ++ e.bytes) = p.length := by
  cases e with
  | none =>
    simp only [LineEnd.bytes, List.append_nil, beforeNewline]
    rw [if_neg]
    exact fun hand => getD_ne h10 (by decide) _ hand.2
  | newline =>
    have hlast : (p ++ [10]).getD (p.length + 1 - 1) 0 = 10 := by simp
    have hprev : 0 < p.length → (p ++ [10]).getD (p.length + 1 - 2) 0 ≠ 13 := by
      intro hpos
      rw [List.getD_append _ _ _ _ (by omega)]
      exact getD_ne h13 (by decide) _
    simp only [LineEnd.bytes, beforeNewline, List.length_append, List.length_singleton]
    rw [if_pos ⟨by omega, hlast⟩, if_neg]
    · omega
    · exact fun hand => hprev (by omega) hand.2
  | crNewline =>
    have hlast : (p ++ [13, 10]).getD (p.length + 2 - 1) 0 = 10 := by
      rw [List.getD_append_right _ _ _ _ (by omega)]
      simp
    have hprev : (p ++ [13, 10]).getD (p.length + 2 - 2) 0 = 13 := by simp
    simp only [LineEnd.bytes, beforeNewline, List.length_append, List.length_cons, List.length_nil,
      zero_add, Nat.reduceAdd]
    rw [if_pos ⟨by omega, hlast⟩, if_pos ⟨by omega, hprev⟩]
    omega

theorem beforeChecksum_append {body : List UInt8} (h : (42 : UInt8) ∉ body) (f : Frame)
    (t : List UInt8) :
    beforeChecksum (body ++ f.checksumBytes ++ t) (body ++ f.checksumBytes).length =
      body.length := by
  rcases hsum : f.checksum with _ | ⟨a, b⟩
  · have hbytes : f.checksumBytes = [] := by simp [Frame.checksumBytes, hsum]
    rw [hbytes, List.append_nil, beforeChecksum, if_neg]
    rintro ⟨hlen, hstar⟩
    rw [List.getD_append _ _ _ _ (by omega)] at hstar
    exact getD_ne h (by decide) _ hstar
  · have hbytes : f.checksumBytes = [42, a, b] := by simp [Frame.checksumBytes, hsum]
    have hstar : (body ++ [42, a, b] ++ t).getD body.length 0 = 42 := by simp
    have hlen : (body ++ [42, a, b]).length = body.length + 3 := by simp
    rw [hbytes, hlen, beforeChecksum, Nat.add_sub_cancel, if_pos ⟨by omega, hstar⟩]

/-! ### The whole sentence -/

/-- Behind the optional `$`, the tokenizer sees the body alone. -/
theorem nmeaTokenizerInit_sentence {f : Frame} (hf : f.WellFormed) {fields : List (List UInt8)}
    (h : ∀ field ∈ fields, ∀ c ∈ field, Plain c) :
    nmeaTokenizerInit (f.sentence fields) =
      (tokensFrom (joined fields).length
        (joined fields ++ (f.checksumBytes ++ f.lineEnd.bytes)) (joined fields).length).take
          maxNmeaTokens := by
  have hbody := body_joined h
  have hsum : ∀ c ∈ f.checksumBytes, c = 42 ∨ Plain c := by
    intro c hc
    rcases hsome : f.checksum with _ | ⟨a, b⟩
    · simp [Frame.checksumBytes, hsome] at hc
    · obtain ⟨ha, hb⟩ := hf a b hsome
      simp only [Frame.checksumBytes, hsome, List.mem_cons, List.not_mem_nil, or_false] at hc
      rcases hc with rfl | rfl | rfl
      · exact .inl rfl
      · exact .inr ha
      · exact .inr hb
  have hfree : ∀ c : UInt8, c = 13 ∨ c = 10 ∨ c = 36 → c ∉ joined fields ++ f.checksumBytes := by
    rintro c hc hin
    rcases List.mem_append.mp hin with hin | hin
    · rcases hbody c hin with rfl | hplain
      · revert hc; decide
      · rcases hc with rfl | rfl | rfl <;> revert hplain <;> decide
    · rcases hsum c hin with rfl | hplain
      · revert hc; decide
      · rcases hc with rfl | rfl | rfl <;> revert hplain <;> decide
  have hstrip : (if (f.sentence fields).head? = some 36 then (f.sentence fields).tail
      else f.sentence fields) = joined fields ++ f.checksumBytes ++ f.lineEnd.bytes := by
    cases hdollar : f.dollar with
    | true => simp [Frame.sentence, hdollar]
    | false =>
      rw [if_neg]
      · simp [Frame.sentence, hdollar]
      · intro hhead
        have hin := List.mem_of_mem_head? (Option.mem_def.mpr hhead)
        simp only [Frame.sentence, hdollar, Bool.false_eq_true, if_false, List.nil_append] at hin
        rcases List.mem_append.mp hin with hin | hin
        · exact hfree 36 (.inr (.inr rfl)) hin
        · revert hin
          cases f.lineEnd <;> decide
  simp only [nmeaTokenizerInit, hstrip]
  rw [beforeNewline_append (hfree 13 (.inl rfl)) (hfree 10 (.inr (.inl rfl))),
    beforeChecksum_append (hbody.ne (by decide)), List.append_assoc]

theorem tokens_sentence {f : Frame} (hf : f.WellFormed) {fields : List (List UInt8)}
    (h : ∀ field ∈ fields, ∀ c ∈ field, Plain c) :
    List.Forall₂ Reads (nmeaTokenizerInit (f.sentence fields)) ((kept fields).take maxNmeaTokens) := by
  rw [nmeaTokenizerInit_sentence hf h]
  apply List.forall₂_take
  exact tokensFrom_joined (fun field hfield c hc => (h field hfield c hc).1) _

theorem kept_eq (fields : List (List UInt8)) :
    kept fields = if fields.getLast? = some [] then fields.dropLast else fields := by
  induction fields with
  | nil => rfl
  | cons field fields ih =>
    cases fields with
    | nil => simp [kept]
    | cons next fields =>
      rw [kept, ih, List.getLast?_cons_cons, List.dropLast_cons_cons]
      split_ifs <;> rfl

/-- The tokenizer undoes the writing of a sentence. An empty last field is lost, and so are the
fields behind the 32nd. -/
theorem nmeaTokenizer_fields (f : Frame) (hf : f.WellFormed) (fields : List (List UInt8))
    (h : ∀ field ∈ fields, ∀ c ∈ field, Plain c) :
    (nmeaTokenizerInit (f.sentence fields)).map Token.text =
      (if fields.getLast? = some [] then fields.dropLast else fields).take maxNmeaTokens := by
  have htokens := tokens_sentence hf h
  rw [kept_eq] at htokens
  have htexts := htokens.imp (fun _ _ => Reads.text)
  rwa [← List.forall₂_map_left_iff, List.forall₂_eq_eq_eq] at htexts

theorem nmeaTokenizer_fields_zda :
    let f : Frame := ⟨true, some (55, 68), .crNewline⟩
    let fields := [ascii "GPZDA", ascii "160012.71", [], ascii "03", []]
    f.sentence fields = ascii "$GPZDA,160012.71,,03,*7D\r\n" ∧
      (nmeaTokenizerInit (f.sentence fields)).map Token.text =
        (if fields.getLast? = some [] then fields.dropLast else fields).take maxNmeaTokens := by
  intro f fields
  refine ⟨by decide, nmeaTokenizer_fields f ?_ fields (by decide)⟩
  intro a b hab
  obtain ⟨rfl, rfl⟩ := Prod.mk.inj (Option.some.inj hab)
  decide

/-- The token of a field that is neither the last one nor behind the 32nd. -/
theorem nmeaTokenizerGet_sentence {f : Frame} (hf : f.WellFormed) {fields : List (List UInt8)}
    (h : ∀ field ∈ fields, ∀ c ∈ field, Plain c) {i : ℕ} {field : List UInt8}
    (hi : fields[i]? = some field) (hmax : i < maxNmeaTokens)
    (hkept : i + 1 < fields.length ∨ field ≠ []) :
    Reads (nmeaTokenizerGet (nmeaTokenizerInit (f.sentence fields)) i) field := by
  have htokens := tokens_sentence hf h
  have hget : ((kept fields).take maxNmeaTokens)[i]? = some field := by
    rw [List.getElem?_take_of_lt hmax, kept_eq]
    split_ifs with hlast
    · rw [List.getElem?_dropLast, if_pos]
      · exact hi
      · rcases hkept with hlt | hne
        · omega
        · by_contra hge
          obtain ⟨hlt, hval⟩ := List.getElem?_eq_some_iff.mp hi
          have heq : i = fields.length - 1 := by omega
          rw [List.getLast?_eq_getElem?, ← heq, hi] at hlast
          exact hne (Option.some.inj hlast)
    · exact hi
  obtain ⟨hlt, hval⟩ := List.getElem?_eq_some_iff.mp hget
  have hlen := htokens.length_eq
  have hat := htokens.get (i := i) (by omega) hlt
  rw [nmeaTokenizerGet, List.getD_eq_getElem _ _ (by omega)]
  simpa [hval] using hat

end Fw100.Gps
