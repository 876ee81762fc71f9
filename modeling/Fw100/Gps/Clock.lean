import Fw100.Gps.Parser
import Fw100.Library.Decimal
import Fw100.Library.Machine

/-!
# The date and the time of RMC and ZDA sentences

The parser keeps the date of the last sentence and computes the timestamp from it. `str2int`
reports an error as -1, and a date that is rejected is reported by a return code; neither
reaches every place where the value is used.
-/
namespace Fw100.Gps
open Library
open Text (ascii isDigit)

/-! ### Numbers -/

theorem isDigit_iff (c : UInt8) : isDigit c = true ↔ IsDigit c := by
  simp [isDigit, IsDigit, UInt8.le_iff_toNat_le]

theorem bmod_of_lt {n : ℕ} (h : n < 2 ^ 31) : (n : ℤ).bmod (2 ^ 32) = n :=
  Int.bmod_eq_of_le (by omega) (by omega)

theorem digitsValue_eq {s : List UInt8} (h : decimalValue s < 2 ^ 31) :
    digitsValue s = decimalValue s := by
  induction s using List.reverseRecOn with
  | nil => rfl
  | append_singleton s c ih =>
    have hs := ih (lt_of_le_of_lt (by rw [decimalValue_concat]; omega) h)
    rw [← bmod_of_lt h, decimalValue_concat, Nat.cast_add, Nat.cast_mul, ← hs]
    simp only [digitsValue, List.foldl_append, List.foldl_cons, List.foldl_nil]
    rfl

theorem str2int_eq {s : List UInt8} (hne : s ≠ []) (hdigits : ∀ c ∈ s, IsDigit c)
    (h : decimalValue s < 2 ^ 31) : str2int s = decimalValue s := by
  rw [str2int, if_neg, digitsValue_eq h]
  rintro (hnil | hall)
  · exact hne hnil
  · have htrue : s.all isDigit = true := by
      rw [List.all_eq_true]
      exact fun c hc => (isDigit_iff c).mpr (hdigits c hc)
    rw [htrue] at hall
    cases hall

theorem str2int_short {s : List UInt8} (hne : s ≠ []) (hdigits : ∀ c ∈ s, IsDigit c)
    (hlen : s.length ≤ 9) : str2int s = decimalValue s := by
  apply str2int_eq hne hdigits
  have hlt := decimalValue_lt hdigits
  have hpow : 10 ^ s.length ≤ 10 ^ 9 := Nat.pow_le_pow_right (by norm_num) hlen
  omega

def fractionMillis (fraction : List UInt8) : ℕ :=
  1000 * decimalValue fraction / 10 ^ fraction.length

/-- Up to three digits behind the point are read. -/
theorem milliseconds_eq {tok : Token} {fraction : List UInt8} (hslice : tok.slice 7 tok.len = fraction)
    (hlen : fraction.length = tok.len - 7) (hdigits : ∀ c ∈ fraction, IsDigit c) :
    milliseconds tok = fractionMillis fraction := by
  have hread : ∀ k, k ≠ 0 → k ≤ 3 → 7 + k ≤ tok.len → str2int (tok.slice 7 (7 + k)) =
      (10 ^ k * decimalValue fraction / 10 ^ fraction.length : ℕ) := by
    intro k hk hthree hle
    have hcount := List.length_take_of_le (show k ≤ fraction.length by omega)
    rw [← slice_take tok hle, hslice, ← decimalValue_take hdigits (by omega)]
    apply str2int_short
    · intro hnil
      rw [hnil] at hcount
      exact hk hcount.symm
    · exact fun c hc => hdigits c (List.mem_of_mem_take hc)
    · omega
  rw [milliseconds, fractionMillis]
  split_ifs with hnine height hten
  · rw [hread 2 two_ne_zero (by norm_num) hnine.ge, hlen, hnine]
    omega
  · rw [hread 1 one_ne_zero (by norm_num) height.ge, hlen, height]
    omega
  · exact hread 3 three_ne_zero le_rfl hten
  · have hnil : fraction = [] := List.length_eq_zero_iff.mp (by omega)
    rw [hnil]
    rfl

/-! ### Dates and times in digits -/

def DigitGroup (s : List UInt8) : Prop := s ≠ [] ∧ s.all isDigit = true

instance (s : List UInt8) : Decidable (DigitGroup s) := inferInstanceAs (Decidable (_ ∧ _))

theorem str2int_of_not_digitGroup {s : List UInt8} (h : ¬ DigitGroup s) : str2int s = -1 := by
  rw [str2int, if_pos]
  by_contra hnot
  rw [not_or, Bool.not_eq_false] at hnot
  exact h hnot

def Decimals (s : List UInt8) : Prop := s = [] ∨ s.head? = some 46 ∧ DigitGroup s.tail

instance (s : List UInt8) : Decidable (Decimals s) := inferInstanceAs (Decidable (_ ∨ _))

/-- `hhmmss`, with decimals or without. -/
def TimeOfDay (time : Token) : Prop :=
  6 ≤ time.len ∧ DigitGroup (time.slice 0 2) ∧ DigitGroup (time.slice 2 4) ∧
    DigitGroup (time.slice 4 6) ∧ Decimals (time.slice 6 time.len)

def RmcDate (date : Token) : Prop :=
  date.len = 6 ∧ DigitGroup (date.slice 0 2) ∧ DigitGroup (date.slice 2 4) ∧
    DigitGroup (date.slice 4 6)

/-- The three tokens of a date are long enough. -/
def LongDate (tokD tokM tokY : Token) : Prop := 2 ≤ tokD.len ∧ 2 ≤ tokM.len ∧ 4 ≤ tokY.len

def ZdaDate (tokD tokM tokY : Token) : Prop :=
  (tokD.len = 2 ∧ tokM.len = 2 ∧ tokY.len = 4) ∧ DigitGroup (tokD.slice 0 2) ∧
    DigitGroup (tokM.slice 0 2) ∧ DigitGroup (tokY.slice 0 4)

instance (time : Token) : Decidable (TimeOfDay time) := inferInstanceAs (Decidable (_ ∧ _))
instance (date : Token) : Decidable (RmcDate date) := inferInstanceAs (Decidable (_ ∧ _))
instance (tokD tokM tokY : Token) : Decidable (LongDate tokD tokM tokY) :=
  inferInstanceAs (Decidable (_ ∧ _))
instance (tokD tokM tokY : Token) : Decidable (ZdaDate tokD tokM tokY) :=
  inferInstanceAs (Decidable (_ ∧ _))

structure Dated where
  wellFormed : Bool
  /-- The timestamp that the date and the time of the sentence give. -/
  timestamp : ℤ
deriving DecidableEq, Repr

def reportedTime (year mon day : ℕ) (time : Token) : ℤ :=
  mkgmtime ⟨year - 1900, mon - 1, day, decimalValue (time.slice 0 2),
      decimalValue (time.slice 2 4), decimalValue (time.slice 4 6)⟩ * 1000 +
    fractionMillis (time.slice 7 time.len)

def rmcDated (tzer : List Token) : Dated :=
  let date := nmeaTokenizerGet tzer 9
  let time := nmeaTokenizerGet tzer 1
  ⟨decide (RmcDate date ∧ TimeOfDay time),
    reportedTime (decimalValue (date.slice 4 6) + 2000) (decimalValue (date.slice 2 4))
      (decimalValue (date.slice 0 2)) time⟩

def zdaDated (tzer : List Token) : Dated :=
  let tokD := nmeaTokenizerGet tzer 2
  let tokM := nmeaTokenizerGet tzer 3
  let tokY := nmeaTokenizerGet tzer 4
  let time := nmeaTokenizerGet tzer 1
  ⟨decide (ZdaDate tokD tokM tokY ∧ TimeOfDay time),
    reportedTime (decimalValue (tokY.slice 0 4)) (decimalValue (tokM.slice 0 2))
      (decimalValue (tokD.slice 0 2)) time⟩

def dated (sentence : List UInt8) : Option Dated :=
  (sentenceTokens sentence).bind (fun found =>
    if found.2 = ascii "RMC" then some (rmcDated found.1)
    else if found.2 = ascii "ZDA" then some (zdaDated found.1)
    else none)

theorem DigitGroup.digits {s : List UInt8} (h : DigitGroup s) : ∀ c ∈ s, IsDigit c :=
  fun c hc => (isDigit_iff c).mp (List.all_eq_true.mp h.2 c hc)

theorem str2int_slice {tok : Token} {i j : ℕ} (h : DigitGroup (tok.slice i j)) (hshort : j - i ≤ 9) :
    str2int (tok.slice i j) = decimalValue (tok.slice i j) :=
  str2int_short h.1 h.digits ((length_slice_le tok i j).trans hshort)

/-- The code reads a well-formed time as it is written. -/
theorem TimeOfDay.timestampOf_eq {time : Token} (h : TimeOfDay time)
    (hinside : time.len ≤ time.p.length) (year mon day : ℕ) :
    timestampOf year mon day time = reportedTime year mon day time := by
  obtain ⟨hsix, hhour, hmin, hsec, hdecimals⟩ := h
  have hlen : (time.slice 7 time.len).length = time.len - 7 := by
    rw [Token.slice, List.length_take, List.length_drop]
    omega
  have htail : (time.slice 6 time.len).tail = time.slice 7 time.len := by
    rw [Token.slice, ← List.drop_one, List.drop_take, List.drop_drop]
    rfl
  have hdigits : ∀ c ∈ time.slice 7 time.len, IsDigit c := by
    rw [← htail]
    rcases hdecimals with hnone | ⟨-, hdigits⟩
    · simp [hnone]
    · exact hdigits.digits
  rw [timestampOf, reportedTime, str2int_slice hhour (by norm_num), str2int_slice hmin (by norm_num),
    str2int_slice hsec (by norm_num), milliseconds_eq rfl hlen hdigits]

def NmeaData.clock (r : NmeaData) : ℤ × ℤ × ℤ × ℤ := (r.utcYear, r.utcMon, r.utcDay, r.timestamp)

/-- A sentence with the given date and time takes the data from `r` to `r'`. -/
structure NoMadeUpTime (found : Option Dated) (r r' : NmeaData) : Prop where
  changed : r'.timestamp ≠ r.timestamp →
    ∃ d, found = some d ∧ d.wellFormed = true ∧ r'.timestamp = d.timestamp
  malformed : ∀ d, found = some d → d.wellFormed = false → r'.clock = r.clock

theorem noMadeUpTime_of_clock {found : Option Dated} {r r' : NmeaData} (h : r'.clock = r.clock) :
    NoMadeUpTime found r r' :=
  ⟨fun hne => absurd (congrArg (fun c => c.2.2.2) h) hne, fun _ _ _ => h⟩

theorem noMadeUpTime_of_wellFormed {d : Dated} {r r' : NmeaData} (hd : d.wellFormed = true)
    (h : r'.timestamp ≠ r.timestamp → r'.timestamp = d.timestamp) :
    NoMadeUpTime (some d) r r' := by
  refine ⟨fun hne => ⟨d, rfl, hd, h hne⟩, ?_⟩
  intro d' hd' hmalformed
  obtain rfl := Option.some.inj hd'
  exact absurd hd (by simp [hmalformed])

/-! ### One sentence -/

theorem markUsed_clock (tzer : List Token) (is : List ℕ) (r : NmeaData) :
    (markUsed tzer is r).1.clock = r.clock := by
  obtain ⟨mask, changed, h⟩ := markUsed_frame tzer is r
  rw [h]
  rfl

theorem storeSatellites_clock (tzer : List Token) (n : ℤ) (rounds i curr : ℕ) (r : NmeaData) :
    (storeSatellites tzer n rounds i curr r).1.clock = r.clock := by
  obtain ⟨count, h⟩ := storeSatellites_frame tzer n rounds i curr r
  rw [h]
  rfl

theorem parseGsa_clock (r : NmeaData) (tzer : List Token) : (parseGsa r tzer).1.clock = r.clock := by
  simp only [parseGsa]
  split_ifs with hfix
  · exact markUsed_clock _ _ _
  · rfl

theorem parseGsv_clock (r : NmeaData) (tzer : List Token) : (parseGsv r tzer).1.clock = r.clock := by
  simp only [parseGsv]
  split_ifs with hsome hlast hfirst hfirst
  · exact storeSatellites_clock _ _ _ _ _ _
  · exact storeSatellites_clock _ _ _ _ _ _
  · exact storeSatellites_clock _ _ _ _ _ _
  · exact storeSatellites_clock _ _ _ _ _ _
  · rfl

/-- An RMC sentence does not lead to a made-up time: it has no valid position, its date is
rejected in time, or its date and its time are well formed. -/
def RmcReliable (tzer : List Token) : Prop :=
  (nmeaTokenizerGet tzer 2).first = 65 →
    (nmeaTokenizerGet tzer 9).len ≠ 6 ∨
      ¬ DigitGroup ((nmeaTokenizerGet tzer 9).slice 0 2) ∨
      ¬ DigitGroup ((nmeaTokenizerGet tzer 9).slice 2 4) ∨
      RmcDate (nmeaTokenizerGet tzer 9) ∧ TimeOfDay (nmeaTokenizerGet tzer 1)

/-- A ZDA sentence does not: its year or its time is missing, or too short a date meets too
short a time or an unknown date, or its date and its time are well formed. -/
def ZdaReliable (r : NmeaData) (tzer : List Token) : Prop :=
  (nmeaTokenizerGet tzer 4).first ≠ 0 ∧ (nmeaTokenizerGet tzer 1).first ≠ 0 →
    ¬ LongDate (nmeaTokenizerGet tzer 2) (nmeaTokenizerGet tzer 3) (nmeaTokenizerGet tzer 4) ∧
        ((nmeaTokenizerGet tzer 1).len < 6 ∨ r.utcYear < 0) ∨
      ZdaDate (nmeaTokenizerGet tzer 2) (nmeaTokenizerGet tzer 3) (nmeaTokenizerGet tzer 4) ∧
        TimeOfDay (nmeaTokenizerGet tzer 1)

instance (tzer : List Token) : Decidable (RmcReliable tzer) :=
  inferInstanceAs (Decidable (_ → _))
instance (r : NmeaData) (tzer : List Token) : Decidable (ZdaReliable r tzer) :=
  inferInstanceAs (Decidable (_ → _))

theorem updateTime_timestamp (r : NmeaData) (tok : Token) :
    (nmeaReaderUpdateTime r tok).2.timestamp = r.timestamp ∨
      (nmeaReaderUpdateTime r tok).2.timestamp =
        timestampOf r.utcYear r.utcMon r.utcDay tok := by
  rw [nmeaReaderUpdateTime]
  split_ifs
  · exact .inl rfl
  · exact .inl rfl
  · exact .inr rfl

/-- A date that is not `ddmmyy` in length, day and month is rejected. -/
theorem updateDate_rejected (r : NmeaData) {date : Token} (time : Token)
    (h : date.len ≠ 6 ∨ ¬ DigitGroup (date.slice 0 2) ∨ ¬ DigitGroup (date.slice 2 4)) :
    (nmeaReaderUpdateDate r date time).2 = r := by
  simp only [nmeaReaderUpdateDate]
  split_ifs with hlen hneg
  · rfl
  · rfl
  · rcases h with hlen' | hday | hmon
    · exact absurd hlen' hlen
    · simp [str2int_of_not_digitGroup hday] at hneg
    · simp [str2int_of_not_digitGroup hmon] at hneg

theorem updateDate_timestamp (r : NmeaData) (date time : Token) :
    (nmeaReaderUpdateDate r date time).2.timestamp = r.timestamp ∨
      (nmeaReaderUpdateDate r date time).2.timestamp =
        timestampOf (str2int (date.slice 4 6) + 2000) (str2int (date.slice 2 4))
          (str2int (date.slice 0 2)) time := by
  simp only [nmeaReaderUpdateDate]
  split_ifs with hlen hneg
  · exact .inl rfl
  · exact .inl rfl
  · exact updateTime_timestamp _ time

theorem parseRmc_reliable (r : NmeaData) {tzer : List Token}
    (hinside : ∀ i, (nmeaTokenizerGet tzer i).len ≤ (nmeaTokenizerGet tzer i).p.length)
    (h : RmcReliable tzer) : NoMadeUpTime (some (rmcDated tzer)) r (parseRmc r tzer) := by
  rw [parseRmc]
  split_ifs with hvalid
  · by_cases hgood : RmcDate (nmeaTokenizerGet tzer 9) ∧ TimeOfDay (nmeaTokenizerGet tzer 1)
    · apply noMadeUpTime_of_wellFormed (decide_eq_true hgood)
      obtain ⟨⟨-, hday, hmon, hyear⟩, htime⟩ := hgood
      intro hne
      rw [(updateDate_timestamp r _ _).resolve_left hne, rmcDated, ← htime.timestampOf_eq (hinside 1),
        str2int_slice hday (by norm_num), str2int_slice hmon (by norm_num),
        str2int_slice hyear (by norm_num), Nat.cast_add, Nat.cast_ofNat]
    · have hrejected : (nmeaTokenizerGet tzer 9).len ≠ 6 ∨
          ¬ DigitGroup ((nmeaTokenizerGet tzer 9).slice 0 2) ∨
          ¬ DigitGroup ((nmeaTokenizerGet tzer 9).slice 2 4) := by
        rcases h hvalid with hlen | hday | hmon | hgood'
        · exact .inl hlen
        · exact .inr (.inl hday)
        · exact .inr (.inr hmon)
        · exact absurd hgood' hgood
      rw [updateDate_rejected r _ hrejected]
      exact noMadeUpTime_of_clock rfl
  · exact noMadeUpTime_of_clock rfl

theorem updateCdate_short (r : NmeaData) {tokD tokM tokY : Token}
    (h : ¬ LongDate tokD tokM tokY) : (nmeaReaderUpdateCdate r tokD tokM tokY).2 = r := by
  have hshort : tokD.len < 2 ∨ tokM.len < 2 ∨ tokY.len < 4 := by
    simp only [LongDate, not_and_or, not_le] at h
    exact h
  rw [nmeaReaderUpdateCdate, if_pos hshort]

theorem updateCdate_long (r : NmeaData) {tokD tokM tokY : Token} (h : LongDate tokD tokM tokY) :
    (nmeaReaderUpdateCdate r tokD tokM tokY).2 =
      { r with utcDay := str2int (tokD.slice 0 2), utcMon := str2int (tokM.slice 0 2),
               utcYear := str2int (tokY.slice 0 4) } := by
  have hlong : ¬ (tokD.len < 2 ∨ tokM.len < 2 ∨ tokY.len < 4) := by
    simp only [not_or, not_lt]
    exact h
  rw [nmeaReaderUpdateCdate, if_neg hlong]

theorem updateTime_refused {r : NmeaData} {tok : Token} (h : tok.len < 6 ∨ r.utcYear < 0) :
    (nmeaReaderUpdateTime r tok).2 = r := by
  rw [nmeaReaderUpdateTime]
  split_ifs with hlen hyear
  · rfl
  · rfl
  · rcases h with hlen' | hyear'
    · exact absurd hlen' hlen
    · exact absurd hyear' hyear

theorem parseZda_reliable {r : NmeaData} {tzer : List Token}
    (hinside : ∀ i, (nmeaTokenizerGet tzer i).len ≤ (nmeaTokenizerGet tzer i).p.length)
    (h : ZdaReliable r tzer) : NoMadeUpTime (some (zdaDated tzer)) r (parseZda r tzer) := by
  simp only [parseZda]
  split_ifs with hpresent
  · rcases h hpresent with ⟨hshort, htime⟩ | hgood
    · rw [updateCdate_short r hshort, updateTime_refused htime]
      exact noMadeUpTime_of_clock rfl
    · apply noMadeUpTime_of_wellFormed (decide_eq_true hgood)
      obtain ⟨⟨⟨hd, hm, hy⟩, hday, hmon, hyear⟩, htime⟩ := hgood
      rw [updateCdate_long r ⟨hd.ge, hm.ge, hy.ge⟩]
      intro hne
      rw [(updateTime_timestamp _ _).resolve_left hne, zdaDated, ← htime.timestampOf_eq (hinside 1),
        str2int_slice hday (by norm_num), str2int_slice hmon (by norm_num),
        str2int_slice hyear (by norm_num)]
  · exact noMadeUpTime_of_clock rfl

/-! ### Sequences of sentences -/

/-- The sentence does not lead to a made-up time in the state `r`. -/
def Reliable (r : NmeaData) (sentence : List UInt8) : Prop :=
  ∀ found ∈ sentenceTokens sentence,
    (found.2 = ascii "RMC" → RmcReliable found.1) ∧
      (found.2 = ascii "ZDA" → ZdaReliable r found.1)

instance (r : NmeaData) (sentence : List UInt8) : Decidable (Reliable r sentence) :=
  inferInstanceAs (Decidable (∀ found ∈ sentenceTokens sentence, _))

theorem found_inside {sentence : List UInt8} {found : List Token × List UInt8}
    (h : sentenceTokens sentence = some found) (i : ℕ) :
    (nmeaTokenizerGet found.1 i).len ≤ (nmeaTokenizerGet found.1 i).p.length := by
  simp only [sentenceTokens] at h
  split_ifs at h
  obtain rfl := Option.some.inj h
  exact nmeaTokenizerGet_len_le sentence i

theorem nmeaReaderParse_reliable {r : NmeaData} {sentence : List UInt8}
    (h : Reliable r sentence) :
    NoMadeUpTime (dated sentence) r (nmeaReaderParse r sentence).1 := by
  rw [nmeaReaderParse]
  cases htokens : sentenceTokens sentence with
  | none => exact noMadeUpTime_of_clock rfl
  | some found =>
    obtain ⟨hrmc, hzda⟩ := h found htokens
    have hinside := fun i => found_inside htokens i
    simp only
    split_ifs with hgsa hgsv hid hid'
    · exact noMadeUpTime_of_clock (parseGsa_clock _ _)
    · exact noMadeUpTime_of_clock (parseGsv_clock _ _)
    · have hdated : dated sentence = some (rmcDated found.1) := by simp [dated, htokens, hid]
      rw [hdated]
      exact parseRmc_reliable r hinside (hrmc hid)
    · have hdated : dated sentence = some (zdaDated found.1) := by
        simp [dated, htokens, hid', ascii]
      rw [hdated]
      exact parseZda_reliable hinside (hzda hid')
    · exact noMadeUpTime_of_clock rfl

theorem no_made_up_time_along (sentences : List (List UInt8))
    (h : Along nmeaReaderParse Reliable nmeaReaderInit sentences) :
    Along nmeaReaderParse
      (fun r sentence => NoMadeUpTime (dated sentence) r (nmeaReaderParse r sentence).1)
      nmeaReaderInit sentences :=
  h.mono (fun _ _ => nmeaReaderParse_reliable)

/-- Good sentences, and ones with an empty or malformed field that is noticed. -/
theorem no_made_up_time_along_fix :
    let sentences := [ascii "$GPRMC,123519,A,4807.038,N,01131.000,E,022.4,084.4,230312,,*6A\n",
      ascii "$GPRMC,123520,A,4807.038,N,01131.000,E,022.4,084.4,2x0312,,*6A\n",
      ascii "$GPZDA,123521.50,23,03,2012,00,00*7D\n", ascii "$GPZDA,,,,,00,00*48\n"]
    (run nmeaReaderParse nmeaReaderInit sentences).1.timestamp = 1332506121500 ∧
      Along nmeaReaderParse
        (fun r sentence => NoMadeUpTime (dated sentence) r (nmeaReaderParse r sentence).1)
        nmeaReaderInit sentences :=
  ⟨by decide +kernel, no_made_up_time_along _ (by decide +kernel)⟩

/-- A ZDA sentence without a day is given the date of the last sentence. -/
theorem no_made_up_time_along_stale :
    ¬ Along nmeaReaderParse
      (fun r sentence => NoMadeUpTime (dated sentence) r (nmeaReaderParse r sentence).1)
      nmeaReaderInit
      [ascii "$GPRMC,235959,A,4807.038,N,01131.000,E,022.4,084.4,230312,,*6A\n",
        ascii "$GPZDA,000001,,03,2012,00,00*7D\n"] := by
  intro h
  obtain ⟨d, hd, hwell, -⟩ := h.2.1.changed (by decide +kernel)
  have hmalformed : (dated (ascii "$GPZDA,000001,,03,2012,00,00*7D\n")).map Dated.wellFormed =
      some false := by decide +kernel
  rw [hd, Option.map_some, hwell] at hmalformed
  cases hmalformed

end Fw100.Gps
