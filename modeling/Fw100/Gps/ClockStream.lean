import Fw100.Gps.Clock
import Fw100.Gps.NmeaReader
import Fw100.Gps.TimeSentences

/-!
# The clock of the reader

A receiver sends one sentence after the other, and the reader is given the bytes. The clock of
the reader is the last moment that was reported.
-/
namespace Fw100.Gps
open Library
open Text (ascii)

/-- A sentence that says nothing about the time: it is no ZDA sentence, and an RMC sentence only
without a valid fix. -/
def Undated (sentence : List UInt8) : Prop :=
  ∀ found ∈ sentenceTokens sentence, found.2 ≠ ascii "ZDA" ∧
    (found.2 = ascii "RMC" → (nmeaTokenizerGet found.1 2).first ≠ 65)

instance (sentence : List UInt8) : Decidable (Undated sentence) :=
  inferInstanceAs (Decidable (∀ found ∈ sentenceTokens sentence, _))

inductive Report where
  | zda (e : Envelope) (m : Moment) (h : m.date.year < 10000)
  | rmc (e : Envelope) (x : Fix) (m : Moment) (low : 2000 ≤ m.date.year)
      (high : m.date.year < 2100)
  | other (sentence : List UInt8) (h : Undated sentence)

namespace Report

def sentence : Report → List UInt8
  | zda e m _ => zdaSentence e m
  | rmc e x m _ _ => rmcSentence e x m
  | other sentence _ => sentence

def moment : Report → Option Moment
  | zda _ m _ => some m
  | rmc _ _ m _ _ => some m
  | other _ _ => none

end Report

def Moment.clock (m : Moment) : ℤ × ℤ × ℤ × ℤ :=
  (m.date.year, m.date.month, m.date.day, m.timestamp)

theorem parse_undated {sentence : List UInt8} (h : Undated sentence) (r : NmeaData) :
    (nmeaReaderParse r sentence).1.clock = r.clock := by
  rw [nmeaReaderParse]
  cases htokens : sentenceTokens sentence with
  | none => rfl
  | some found =>
    obtain ⟨hzda, hrmc⟩ := h found htokens
    simp only
    split_ifs with hgsa hgsv hid
    · exact parseGsa_clock _ _
    · exact parseGsv_clock _ _
    · rw [parseRmc, if_neg (hrmc hid)]
    · rfl

theorem parse_report (report : Report) (r : NmeaData) :
    (nmeaReaderParse r report.sentence).1.clock =
      (report.moment.map Moment.clock).getD r.clock := by
  cases report with
  | zda e m h =>
    rw [Report.sentence, parse_zda e m h]
    rfl
  | rmc e x m low high =>
    rw [Report.sentence, parse_rmc e x m low high]
    rfl
  | other sentence h => exact parse_undated h r

def lastMoment (reports : List Report) : Option Moment := (reports.filterMap Report.moment).getLast?

theorem lastMoment_concat (reports : List Report) (report : Report) :
    lastMoment (reports ++ [report]) = report.moment.or (lastMoment reports) := by
  cases hmoment : report.moment <;> simp [lastMoment, hmoment]

theorem run_reports (r : NmeaData) (reports : List Report) :
    (run nmeaReaderParse r (reports.map Report.sentence)).1.clock =
      ((lastMoment reports).map Moment.clock).getD r.clock := by
  induction reports using List.reverseRecOn with
  | nil => rfl
  | append_singleton reports report ih =>
    rw [List.map_append, run_append, lastMoment_concat]
    simp only [List.map_cons, List.map_nil, run_cons, run_nil]
    rw [parse_report, ih]
    cases report.moment <;> rfl

/-! ### The bytes of the sentences -/

def IsLine (text : List UInt8) : Prop :=
  ∃ line, text = line ++ [10] ∧ (∀ c ∈ line, c ≠ 10) ∧ line.length < nmeaMaxSize

theorem isLine_iff (text : List UInt8) :
    IsLine text ↔ text.getLast? = some 10 ∧ (∀ c ∈ text.dropLast, c ≠ 10) ∧
      text.dropLast.length < nmeaMaxSize := by
  constructor
  · rintro ⟨line, rfl, hline, hfits⟩
    rw [List.getLast?_concat, List.dropLast_concat]
    exact ⟨rfl, hline, hfits⟩
  · rintro ⟨hlast, hline, hfits⟩
    have hne : text ≠ [] := by
      rintro rfl
      cases hlast
    rw [List.getLast?_eq_some_getLast hne] at hlast
    have hparts := List.dropLast_append_getLast hne
    rw [Option.some.inj hlast] at hparts
    exact ⟨text.dropLast, hparts.symm, hline, hfits⟩

instance (text : List UInt8) : Decidable (IsLine text) :=
  have : Decidable (∀ c ∈ text.dropLast, c ≠ 10) := List.decidableBAll (· ≠ 10) text.dropLast
  decidable_of_iff _ (isLine_iff text).symm

/-- Lines that fit are handed over one by one, whatever part of a line follows them. -/
theorem handed_texts {texts : List (List UInt8)} (h : ∀ text ∈ texts, IsLine text)
    {tail : List UInt8} (htail : ∀ c ∈ tail, c ≠ 10) : handed (texts.flatten ++ tail) = texts := by
  have hlines : ∃ ls : List (List UInt8), texts = ls.map (· ++ [10]) ∧
      lines (· == 10) (texts.flatten ++ tail) = ls ∧ ∀ line ∈ ls, line.length < nmeaMaxSize := by
    induction texts with
    | nil => exact ⟨[], rfl, lines_of_forall (by simpa using htail), by simp⟩
    | cons text texts ih =>
      obtain ⟨line, rfl, hline, hfits⟩ := h text (.head _)
      obtain ⟨ls, rfl, hls, hall⟩ := ih (fun text ht => h text (.tail _ ht))
      refine ⟨line :: ls, rfl, ?_, ?_⟩
      · rw [List.flatten_cons, List.append_assoc, List.append_assoc, List.singleton_append,
          lines_append_cons (by simpa using hline) rfl, hls]
      · exact List.forall_mem_cons.mpr ⟨hfits, hall⟩
  obtain ⟨ls, heq, hls, hall⟩ := hlines
  rw [handed_of_short (by rwa [hls]), hls, heq]

/-- The clock of the reader is the last moment reported, as a `time_t` of 32 bits has it. -/
theorem clock_follows (reports : List Report) (tail : List UInt8)
    (h : ∀ report ∈ reports, IsLine report.sentence) (htail : ∀ c ∈ tail, c ≠ 10) :
    (run nmeaReaderAddc .init (reports.flatMap Report.sentence ++ tail)).1.data.clock =
      ((lastMoment reports).map Moment.clock).getD (-1, -1, -1, 0) := by
  have htexts : ∀ text ∈ reports.map Report.sentence, IsLine text := by
    intro text htext
    obtain ⟨report, hreport, rfl⟩ := List.mem_map.mp htext
    exact h report hreport
  rw [reader_data, List.flatMap_def, handed_texts htexts htail, run_reports]
  rfl

theorem clock_follows_zda :
    let stream := ascii "$GPZDA,123521.50,10,02,1970,00,00*7D\r\n" ++ ascii "$GPGGA,,,,,,0\n" ++
      ascii "$GP"
    (run nmeaReaderAddc .init stream).1.data.clock = (1970, 2, 10, 3501321500) := by
  let m : Moment := ⟨40, 45321, ascii "50", by decide, by decide⟩
  let reports : List Report :=
    [.zda gpEnvelope m (by decide +kernel), .other (ascii "$GPGGA,,,,,,0\n") (by decide +kernel)]
  have hlines : ∀ report ∈ reports, IsLine report.sentence := by decide +kernel
  have hclock := clock_follows reports (ascii "$GP") hlines (by decide +kernel)
  have hstream : reports.flatMap Report.sentence ++ ascii "$GP" =
      ascii "$GPZDA,123521.50,10,02,1970,00,00*7D\r\n" ++ ascii "$GPGGA,,,,,,0\n" ++
        ascii "$GP" := by decide +kernel
  rw [hstream] at hclock
  exact hclock.trans (by decide +kernel)

end Fw100.Gps
