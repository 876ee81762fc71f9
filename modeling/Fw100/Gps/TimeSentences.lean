import Fw100.Gps.Clock
import Fw100.Gps.Sentence
import Fw100.Gps.UnixTime

/-!
# RMC and ZDA sentences and the moments that they report

A receiver writes a moment into a sentence as decimal fields. The parser gives the date and the
milliseconds since 1970 back, whatever the reader held before.
-/
namespace Fw100.Gps
open Library
open Text (ascii isDigit)

/-! ### Numbers -/

theorem str2int_padded {k n : ℕ} (hk : k ≠ 0) (h : n < 10 ^ k) (hn : n < 2 ^ 31) :
    str2int (padded k n) = n := by
  have hvalue := decimalValue_padded h
  have hne : padded k n ≠ [] := fun hnil => hk (by simpa using congrArg List.length hnil)
  rw [str2int_eq hne (fun c hc => padded_digits hc) (by omega), hvalue]

theorem padded_ne_nil {k n : ℕ} (hk : k ≠ 0) : padded k n ≠ [] := by
  intro hnil
  have hlen := congrArg List.length hnil
  rw [length_padded] at hlen
  exact hk hlen

theorem Reads.number {tok : Token} {field a b : List UInt8} {k n i j : ℕ} (h : Reads tok field)
    (heq : field = a ++ padded k n ++ b) (hi : a.length = i) (hj : i + k = j) (hk : k ≠ 0)
    (hn : n < 10 ^ k) (hmax : n < 2 ^ 31) : str2int (tok.slice i j) = n := by
  rw [h.slice heq hi (by rw [length_padded, hj])]
  exact str2int_padded hk hn hmax

theorem Reads.number_whole {tok : Token} {k n : ℕ} (h : Reads tok (padded k n)) (hk : k ≠ 0)
    (hn : n < 10 ^ k) (hmax : n < 2 ^ 31) : str2int (tok.slice 0 k) = n :=
  h.number (a := []) (List.append_nil _).symm rfl (Nat.zero_add k) hk hn hmax

theorem Reads.first_ne {tok : Token} {field b : List UInt8} {k n : ℕ} (h : Reads tok field)
    (heq : field = padded k n ++ b) (hk : k ≠ 0) : tok.first ≠ 0 := by
  obtain ⟨rest, rfl⟩ := h
  have hdigits : ∀ c ∈ padded k n, IsDigit c := fun c hc => padded_digits hc
  have hne := padded_ne_nil (n := n) hk
  subst heq
  cases hpadded : padded k n with
  | nil => exact absurd hpadded hne
  | cons c digits =>
    rw [hpadded] at hdigits
    intro hzero
    obtain rfl : c = 0 := hzero
    exact absurd (hdigits 0 (.head _)) (by decide)

theorem plain_of_digit {c : UInt8} (h : IsDigit c) : Plain c := by
  refine ⟨?_, ?_, ?_, ?_, ?_⟩ <;> rintro rfl <;> exact absurd h (by decide)

theorem plain_padded {k n : ℕ} {c : UInt8} (h : c ∈ padded k n) : Plain c :=
  plain_of_digit (padded_digits h)

/-! ### Moments -/

/-- A second of a day, counted from 1970 on, with the digits of its fraction. -/
structure Moment where
  day : ℕ
  second : ℕ
  fraction : List UInt8
  second_lt : second < 86400
  digits : ∀ c ∈ fraction, IsDigit c

namespace Moment

def date (m : Moment) : Date := unixEpoch.after m.day

def unixSeconds (m : Moment) : ℤ := m.day * 86400 + m.second

def millis (m : Moment) : ℕ := 1000 * decimalValue m.fraction / 10 ^ m.fraction.length

def unixMillis (m : Moment) : ℤ := m.unixSeconds * 1000 + m.millis

def decimals (m : Moment) : List UInt8 := if m.fraction = [] then [] else 46 :: m.fraction

def timeField (m : Moment) : List UInt8 :=
  padded 2 (m.second / 3600) ++ padded 2 (m.second / 60 % 60) ++ padded 2 (m.second % 60) ++
    m.decimals

theorem plain_timeField (m : Moment) : ∀ c ∈ m.timeField, Plain c := by
  intro c hc
  simp only [timeField, List.mem_append] at hc
  rcases hc with ((hc | hc) | hc) | hc
  · exact plain_padded hc
  · exact plain_padded hc
  · exact plain_padded hc
  · rw [decimals] at hc
    split_ifs at hc with hnil
    · cases hc
    · rcases List.mem_cons.mp hc with rfl | hc
      · decide
      · exact plain_of_digit (m.digits c hc)

theorem timeField_eq (m : Moment) : m.timeField = padded 2 (m.second / 3600) ++
    (padded 2 (m.second / 60 % 60) ++ (padded 2 (m.second % 60) ++ m.decimals)) := by
  rw [timeField, List.append_assoc, List.append_assoc]

theorem timeField_ne_nil (m : Moment) : m.timeField ≠ [] := by
  rw [timeField_eq]
  exact List.append_ne_nil_of_left_ne_nil (padded_ne_nil two_ne_zero) _

theorem length_timeField (m : Moment) :
    m.timeField.length = 6 + if m.fraction = [] then 0 else m.fraction.length + 1 := by
  simp only [timeField, decimals, List.length_append, length_padded]
  split_ifs <;> rfl

theorem milliseconds_eq (m : Moment) {tok : Token} (h : Reads tok m.timeField) :
    milliseconds tok = m.millis := by
  have hlen := m.length_timeField
  rw [← h.len] at hlen
  refine Gps.milliseconds_eq ?_ ?_ m.digits
  · by_cases hnil : m.fraction = []
    · rw [if_pos hnil] at hlen
      rw [hlen, hnil]
      rfl
    · have hfield : m.timeField = (padded 2 (m.second / 3600) ++ padded 2 (m.second / 60 % 60) ++
          padded 2 (m.second % 60) ++ [46]) ++ m.fraction ++ [] := by
        simp [timeField, decimals, hnil]
      rw [if_neg hnil] at hlen
      exact h.slice hfield (by simp) (by omega)
  · split_ifs at hlen with hnil
    · rw [hlen, hnil]
      rfl
    · omega

/-- The timestamp as a `time_t` of 32 bits lets it be. -/
def timestamp (m : Moment) : ℤ := m.unixSeconds.bmod (2 ^ 32) * 1000 + m.millis

theorem timestamp_eq_iff (m : Moment) :
    m.timestamp = m.unixMillis ↔ m.unixSeconds < 2 ^ 31 := by
  have hpos : 0 ≤ m.unixSeconds := by
    rw [unixSeconds]
    omega
  rw [timestamp, unixMillis]
  constructor
  · intro heq
    have hlt : m.unixSeconds.bmod (2 ^ 32) < 2 ^ 31 := Int.bmod_lt (by norm_num)
    omega
  · intro hlt
    rw [Int.bmod_eq_of_le (by omega) (by omega)]

theorem year_pos (m : Moment) : 1970 ≤ m.date.year := Date.year_le_after unixEpoch m.day

theorem timestampOf_eq (m : Moment) (hyear : m.date.year < 2 ^ 15) {tok : Token}
    (h : Reads tok m.timeField) :
    timestampOf m.date.year m.date.month m.date.day tok = m.timestamp := by
  have hsecond := m.second_lt
  have hhour : str2int (tok.slice 0 2) = (m.second / 3600 : ℕ) :=
    h.number (a := []) m.timeField_eq rfl rfl
      two_ne_zero (by omega) (by omega)
  have hmin : str2int (tok.slice 2 4) = (m.second / 60 % 60 : ℕ) :=
    h.number (a := padded 2 (m.second / 3600)) (by rw [timeField, List.append_assoc]) (by simp) rfl
      two_ne_zero (by omega) (by omega)
  have hsec : str2int (tok.slice 4 6) = (m.second % 60 : ℕ) :=
    h.number rfl (by simp) rfl two_ne_zero (by omega) (by omega)
  rw [timestampOf, hhour, hmin, hsec, m.milliseconds_eq h, timestamp, unixSeconds]
  have hsum := mkgmtime_eq m.year_pos hyear m.second
  rw [date, Date.ordinal_after, add_sub_cancel_left, secondOfDay_eq] at hsum
  rw [← hsum]
  rfl

end Moment

/-! ### The two sentences -/

/-- The id of a sentence is three letters behind the two of the talker. -/
theorem sentenceTokens_sentence {f : Frame} (hf : f.WellFormed) {talker id : List UInt8}
    {fields : List (List UInt8)} (htalker : talker.length = 2) (hid : id.length = 3)
    (h : ∀ field ∈ (talker ++ id) :: fields, ∀ c ∈ field, Plain c)
    (hlong : 9 ≤ (joined ((talker ++ id) :: fields)).length) :
    sentenceTokens (f.sentence ((talker ++ id) :: fields)) =
      some (nmeaTokenizerInit (f.sentence ((talker ++ id) :: fields)), id) := by
  have hfive : (talker ++ id).length = 5 := by rw [List.length_append, htalker, hid]
  have hread : Reads (nmeaTokenizerGet (nmeaTokenizerInit (f.sentence ((talker ++ id) :: fields))) 0)
      (talker ++ id) :=
    nmeaTokenizerGet_sentence hf h rfl (by decide) (.inr (List.ne_nil_of_length_eq_add_one hfive))
  have hsize : ¬ (f.sentence ((talker ++ id) :: fields)).length < 9 := by
    simp only [Frame.sentence, List.length_append]
    omega
  have hslice := hread.slice (a := talker) (s := id) (b := []) (by simp) htalker (by rw [hid])
  rw [sentenceTokens, if_neg hsize, if_neg (by rw [hread.len, hfive]; norm_num), hslice]

/-- A sentence is sent with its talker, what stands around it and the fields behind those that
are read. -/
structure Envelope where
  frame : Frame
  talker : List UInt8
  trailing : List (List UInt8)
  wellFormed : frame.WellFormed
  talker_length : talker.length = 2
  talker_plain : ∀ c ∈ talker, Plain c
  trailing_plain : ∀ field ∈ trailing, ∀ c ∈ field, Plain c

theorem frame_7d_wellFormed :
    Frame.WellFormed ⟨true, some (55, 68), .crNewline⟩ := by
  intro a b hab
  obtain ⟨rfl, rfl⟩ := Prod.mk.inj (Option.some.inj hab)
  decide

def gpEnvelope : Envelope :=
  ⟨⟨true, some (55, 68), .crNewline⟩, ascii "GP", [ascii "00", ascii "00"], frame_7d_wellFormed,
    by decide, by decide, by decide⟩

def zdaFields (e : Envelope) (m : Moment) : List (List UInt8) :=
  (e.talker ++ ascii "ZDA") :: m.timeField :: padded 2 m.date.day :: padded 2 m.date.month ::
    padded 4 m.date.year :: e.trailing

theorem plain_zda : ∀ c ∈ ascii "ZDA", Plain c := by decide

def zdaSentence (e : Envelope) (m : Moment) : List UInt8 := e.frame.sentence (zdaFields e m)

theorem plain_zdaFields (e : Envelope) (m : Moment) :
    ∀ field ∈ zdaFields e m, ∀ c ∈ field, Plain c := by
  intro field hfield c hc
  simp only [zdaFields, List.mem_cons] at hfield
  rcases hfield with rfl | rfl | rfl | rfl | rfl | hfield
  · rcases List.mem_append.mp hc with hc | hc
    · exact e.talker_plain c hc
    · exact plain_zda c hc
  · exact m.plain_timeField c hc
  · exact plain_padded hc
  · exact plain_padded hc
  · exact plain_padded hc
  · exact e.trailing_plain field hfield c hc

def NmeaData.withMoment (r : NmeaData) (m : Moment) : NmeaData :=
  { r with utcYear := m.date.year, utcMon := m.date.month, utcDay := m.date.day,
           timestamp := m.timestamp }

theorem updateTime_eq (r : NmeaData) (m : Moment) (hyear : m.date.year < 2 ^ 15) {tok : Token}
    (h : Reads tok m.timeField) :
    nmeaReaderUpdateTime { r with utcYear := m.date.year, utcMon := m.date.month,
                                  utcDay := m.date.day } tok = (0, r.withMoment m) := by
  have hlen := h.len
  rw [Moment.length_timeField] at hlen
  rw [nmeaReaderUpdateTime, if_neg (by omega), if_neg (by simp), m.timestampOf_eq hyear h]
  rfl

theorem nmeaReaderParse_zda {r : NmeaData} {sentence : List UInt8} {tzer : List Token}
    (h : sentenceTokens sentence = some (tzer, ascii "ZDA")) :
    nmeaReaderParse r sentence = (parseZda r tzer, []) := by
  rw [nmeaReaderParse, h]
  rfl

theorem sentenceTokens_zda (e : Envelope) (m : Moment) :
    sentenceTokens (zdaSentence e m) =
      some (nmeaTokenizerInit (zdaSentence e m), ascii "ZDA") := by
  apply sentenceTokens_sentence e.wellFormed e.talker_length rfl (plain_zdaFields e m)
  simp only [joined_cons_cons, List.length_append, List.length_cons, Moment.length_timeField]
  omega

/-- A ZDA sentence sets the clock to the moment that it reports. -/
theorem parse_zda (e : Envelope) (m : Moment) (hyear : m.date.year < 10000) (r : NmeaData) :
    nmeaReaderParse r (zdaSentence e m) = (r.withMoment m, []) := by
  have hday := m.date.day_le.trans (daysIn_le _ _)
  have hmonth := m.date.month_le
  have hget : ∀ i field, (zdaFields e m)[i]? = some field → i < 5 → field ≠ [] →
      Reads (nmeaTokenizerGet (nmeaTokenizerInit (zdaSentence e m)) i) field :=
    fun i field hi hlt hne => nmeaTokenizerGet_sentence e.wellFormed (plain_zdaFields e m) hi
      (hlt.trans (by decide)) (.inr hne)
  have htime := hget 1 _ rfl (by norm_num) m.timeField_ne_nil
  have hd := hget 2 _ rfl (by norm_num) (padded_ne_nil two_ne_zero)
  have hm := hget 3 _ rfl (by norm_num) (padded_ne_nil two_ne_zero)
  have hy := hget 4 _ rfl (by norm_num) (padded_ne_nil four_ne_zero)
  have hcdate : nmeaReaderUpdateCdate r
      (nmeaTokenizerGet (nmeaTokenizerInit (zdaSentence e m)) 2)
      (nmeaTokenizerGet (nmeaTokenizerInit (zdaSentence e m)) 3)
      (nmeaTokenizerGet (nmeaTokenizerInit (zdaSentence e m)) 4) =
      (0, { r with utcYear := m.date.year, utcMon := m.date.month, utcDay := m.date.day }) := by
    rw [nmeaReaderUpdateCdate, hd.len, hm.len, hy.len, length_padded, length_padded, length_padded,
      if_neg (by norm_num),
      hd.number_whole two_ne_zero (by omega) (by omega),
      hm.number_whole two_ne_zero (by omega) (by omega),
      hy.number_whole four_ne_zero (by omega) (by omega)]
  have hclock : parseZda r (nmeaTokenizerInit (zdaSentence e m)) = r.withMoment m := by
    have hyearFirst := hy.first_ne (List.append_nil _).symm four_ne_zero
    have htimeFirst := htime.first_ne m.timeField_eq two_ne_zero
    rw [parseZda, if_pos ⟨hyearFirst, htimeFirst⟩, hcdate]
    exact congrArg Prod.snd (updateTime_eq r m (by omega) htime)
  rw [nmeaReaderParse_zda (sentenceTokens_zda e m), hclock]

structure Fix where
  fields : List (List UInt8)
  length : fields.length = 6
  plain : ∀ field ∈ fields, ∀ c ∈ field, Plain c

def Moment.dateField (m : Moment) : List UInt8 :=
  padded 2 m.date.day ++ padded 2 m.date.month ++ padded 2 (m.date.year % 100)

def rmcFields (e : Envelope) (x : Fix) (m : Moment) : List (List UInt8) :=
  (e.talker ++ ascii "RMC") :: m.timeField :: [65] :: (x.fields ++ m.dateField :: e.trailing)

def rmcSentence (e : Envelope) (x : Fix) (m : Moment) : List UInt8 :=
  e.frame.sentence (rmcFields e x m)

theorem plain_rmc : ∀ c ∈ ascii "RMC", Plain c := by decide

theorem Moment.plain_dateField (m : Moment) : ∀ c ∈ m.dateField, Plain c := by
  intro c hc
  simp only [Moment.dateField, List.mem_append] at hc
  rcases hc with (hc | hc) | hc
  · exact plain_padded hc
  · exact plain_padded hc
  · exact plain_padded hc

theorem Moment.length_dateField (m : Moment) : m.dateField.length = 6 := by
  simp [Moment.dateField]

theorem plain_rmcFields (e : Envelope) (x : Fix) (m : Moment) :
    ∀ field ∈ rmcFields e x m, ∀ c ∈ field, Plain c := by
  intro field hfield c hc
  simp only [rmcFields, List.mem_cons, List.mem_append] at hfield
  rcases hfield with rfl | rfl | rfl | hfield | rfl | hfield
  · rcases List.mem_append.mp hc with hc | hc
    · exact e.talker_plain c hc
    · exact plain_rmc c hc
  · exact m.plain_timeField c hc
  · obtain rfl := List.mem_singleton.mp hc
    decide
  · exact x.plain field hfield c hc
  · exact m.plain_dateField c hc
  · exact e.trailing_plain field hfield c hc

theorem nmeaReaderParse_rmc {r : NmeaData} {sentence : List UInt8} {tzer : List Token}
    (h : sentenceTokens sentence = some (tzer, ascii "RMC")) :
    nmeaReaderParse r sentence = (parseRmc r tzer, []) := by
  rw [nmeaReaderParse, h]
  rfl

theorem sentenceTokens_rmc (e : Envelope) (x : Fix) (m : Moment) :
    sentenceTokens (rmcSentence e x m) =
      some (nmeaTokenizerInit (rmcSentence e x m), ascii "RMC") := by
  apply sentenceTokens_sentence e.wellFormed e.talker_length rfl (plain_rmcFields e x m)
  have hid : (ascii "RMC").length = 3 := rfl
  simp only [joined_cons_cons, List.length_append, List.length_cons, Moment.length_timeField]
  omega

/-- An RMC sentence with a valid fix does the same, for the years that its two digits can tell. -/
theorem parse_rmc (e : Envelope) (x : Fix) (m : Moment)
    (hlow : 2000 ≤ m.date.year) (hhigh : m.date.year < 2100) (r : NmeaData) :
    nmeaReaderParse r (rmcSentence e x m) = (r.withMoment m, []) := by
  have hday := m.date.day_le.trans (daysIn_le _ _)
  have hmonth := m.date.month_le
  have hget : ∀ i field, (rmcFields e x m)[i]? = some field → i < 32 → field ≠ [] →
      Reads (nmeaTokenizerGet (nmeaTokenizerInit (rmcSentence e x m)) i) field :=
    fun i field hi hlt hne => nmeaTokenizerGet_sentence e.wellFormed (plain_rmcFields e x m) hi
      hlt (.inr hne)
  have hninth : (rmcFields e x m)[9]? = some m.dateField := by
    have hsix : (x.fields ++ m.dateField :: e.trailing)[6]? = some m.dateField := by
      rw [List.getElem?_append_right x.length.le, x.length]
      rfl
    exact hsix
  have htime := hget 1 _ rfl (by norm_num) m.timeField_ne_nil
  have hstatus := hget 2 [65] rfl (by norm_num) (List.cons_ne_nil _ _)
  have hdate := hget 9 _ hninth (by norm_num) (List.ne_nil_of_length_eq_add_one m.length_dateField)
  have hd : str2int ((nmeaTokenizerGet (nmeaTokenizerInit (rmcSentence e x m)) 9).slice 0 2) =
      m.date.day :=
    hdate.number (a := []) (List.append_assoc _ _ _) rfl rfl two_ne_zero (by omega) (by omega)
  have hm : str2int ((nmeaTokenizerGet (nmeaTokenizerInit (rmcSentence e x m)) 9).slice 2 4) =
      m.date.month :=
    hdate.number rfl (length_padded 2 _) rfl two_ne_zero (by omega) (by omega)
  have hy : str2int ((nmeaTokenizerGet (nmeaTokenizerInit (rmcSentence e x m)) 9).slice 4 6) =
      (m.date.year % 100 : ℕ) :=
    hdate.number (List.append_nil _).symm (by simp) rfl two_ne_zero (by omega) (by omega)
  have hcentury : ((m.date.year % 100 : ℕ) : ℤ) + 2000 = m.date.year := by omega
  have hclock : nmeaReaderUpdateDate r (nmeaTokenizerGet (nmeaTokenizerInit (rmcSentence e x m)) 9)
      (nmeaTokenizerGet (nmeaTokenizerInit (rmcSentence e x m)) 1) = (0, r.withMoment m) := by
    rw [nmeaReaderUpdateDate, hdate.len, m.length_dateField, if_neg (not_not.mpr rfl), hd, hm, hy,
      hcentury, if_neg (by omega)]
    exact updateTime_eq r m (by omega) htime
  rw [nmeaReaderParse_rmc (sentenceTokens_rmc e x m), parseRmc, if_pos hstatus.first, hclock]

end Fw100.Gps
