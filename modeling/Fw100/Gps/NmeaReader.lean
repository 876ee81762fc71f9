import Fw100.Gps.Parser
import Fw100.Library.Lines
import Mathlib.Data.List.DropRight

/-!
# The NMEA reader

`nmea_reader_addc` collects the bytes of a line and hands it to the parser at its newline. A
line that does not fit is skipped up to its newline. If the byte that does not fit is the
newline itself, the next line is skipped in its place.
-/
namespace Fw100.Gps
open Library
open Text (ascii)

/-- `NmeaReader`, with the bytes of `in` that are in front of `pos`. -/
structure NmeaReader where
  held : List UInt8
  overflow : Bool
  data : NmeaData
deriving DecidableEq, Repr

def NmeaReader.init : NmeaReader := ⟨[], false, nmeaReaderInit⟩

def nmeaMaxSize : ℕ := 83

/-- `nmea_reader_addc`, with the buffer that is handed to `nmea_reader_parse`. -/
def nmeaReaderAddc (r : NmeaReader) (c : UInt8) : NmeaReader × Option (List UInt8) :=
  if r.overflow then ({ r with overflow := c != 10 }, none)
  else if nmeaMaxSize ≤ r.held.length then ({ r with held := [], overflow := true }, none)
  else
    let held := r.held ++ [c]
    if c = 10 then
      ({ r with held := [], data := (nmeaReaderParse r.data held).1 }, some held)
    else ({ r with held := held }, none)

/-! ### Line by line -/

/-- What one line does to the flag and the data; `skip` is the flag at its start. -/
def lineStep (t : Bool × NmeaData) (line : List UInt8) :
    (Bool × NmeaData) × Option (List UInt8) :=
  if t.1 then ((false, t.2), none)
  else if line.length < nmeaMaxSize then
    ((false, (nmeaReaderParse t.2 (line ++ [10])).1), some (line ++ [10]))
  else ((line.length == nmeaMaxSize, t.2), none)

/-- The reader when the bytes `p` of a line have come. -/
def reading (t : Bool × NmeaData) (p : List UInt8) : NmeaReader :=
  if t.1 then ⟨[], true, t.2⟩
  else if p.length ≤ nmeaMaxSize then ⟨p, false, t.2⟩
  else ⟨[], true, t.2⟩

theorem addc_inside (t : Bool × NmeaData) (p : List UInt8) (c : UInt8) (hc : (c == 10) = false) :
    nmeaReaderAddc (reading t p) c = (reading t (p ++ [c]), none) := by
  have hne : c ≠ 10 := by simpa using hc
  cases hskip : t.1 with
  | true => simp [reading, hskip, nmeaReaderAddc, hne]
  | false =>
    rcases lt_trichotomy p.length nmeaMaxSize with hlt | heq | hgt
    · have hle : p.length ≤ nmeaMaxSize := by omega
      have hlt' : ¬ nmeaMaxSize ≤ p.length := by omega
      have hle' : p.length + 1 ≤ nmeaMaxSize := by omega
      simp [reading, hskip, nmeaReaderAddc, hne, hle, hlt', hle']
    · simp [reading, hskip, nmeaReaderAddc, heq]
    · have hgt' : ¬ p.length ≤ nmeaMaxSize := by omega
      have hgt'' : ¬ p.length + 1 ≤ nmeaMaxSize := by omega
      simp [reading, hskip, nmeaReaderAddc, hne, hgt', hgt'']

theorem addc_newline (t : Bool × NmeaData) (p : List UInt8) :
    nmeaReaderAddc (reading t p) 10 = (reading (lineStep t p).1 [], (lineStep t p).2) := by
  cases hskip : t.1 with
  | true => simp [reading, hskip, nmeaReaderAddc, lineStep]
  | false =>
    rcases lt_trichotomy p.length nmeaMaxSize with hlt | heq | hgt
    · have hle : p.length ≤ nmeaMaxSize := by omega
      have hlt' : ¬ nmeaMaxSize ≤ p.length := by omega
      simp [reading, hskip, nmeaReaderAddc, lineStep, hle, hlt, hlt']
    · simp [reading, hskip, nmeaReaderAddc, lineStep, heq]
    · have hgt' : ¬ p.length ≤ nmeaMaxSize := by omega
      have hge : ¬ p.length < nmeaMaxSize := by omega
      have hne : p.length ≠ nmeaMaxSize := by omega
      simp [reading, hskip, nmeaReaderAddc, lineStep, hgt', hge, hne]

theorem addc_worksByLine : WorksByLine (· == 10) nmeaReaderAddc lineStep reading where
  inside := addc_inside
  atEnd := by
    intro t p e he
    obtain rfl : e = 10 := by simpa using he
    exact addc_newline t p

def handed (stream : List UInt8) : List (List UInt8) :=
  (run nmeaReaderAddc .init stream).2.reduceOption

def sentences (stream : List UInt8) : List (List UInt8) :=
  ((lines (· == 10) stream).filter (·.length < nmeaMaxSize)).map (· ++ [10])

theorem handed_eq (stream : List UInt8) :
    handed stream =
      (run lineStep (false, nmeaReaderInit) (lines (· == 10) stream)).2.reduceOption :=
  addc_worksByLine.outputs (false, nmeaReaderInit) stream

/-- The data of the reader are those that the parser leaves on the buffers handed to it. -/
theorem run_lineStep_data (t : Bool × NmeaData) (ls : List (List UInt8)) :
    (run lineStep t ls).1.2 = (run nmeaReaderParse t.2 (run lineStep t ls).2.reduceOption).1 := by
  induction ls generalizing t with
  | nil => rfl
  | cons line ls ih =>
    rw [run_cons]
    cases hskip : t.1 with
    | true => simp [lineStep, hskip, ih]
    | false =>
      by_cases hfits : line.length < nmeaMaxSize
      · simp [lineStep, hskip, hfits, ih]
      · simp [lineStep, hskip, hfits, ih]

theorem reader_data (stream : List UInt8) :
    (run nmeaReaderAddc .init stream).1.data =
      (run nmeaReaderParse nmeaReaderInit (handed stream)).1 := by
  have hstate := addc_worksByLine.state (false, nmeaReaderInit) stream
  have hdata : ∀ t p, (reading t p).data = t.2 := by
    intro t p
    simp only [reading]
    split_ifs <;> rfl
  rw [handed_eq, ← run_lineStep_data (false, nmeaReaderInit), ← hdata]
  exact congrArg NmeaReader.data hstate

/-- The buffer, of one byte more, is never overrun. -/
theorem reader_held_le (stream : List UInt8) :
    (run nmeaReaderAddc .init stream).1.held.length ≤ nmeaMaxSize := by
  have hstate := addc_worksByLine.state (false, nmeaReaderInit) stream
  rw [show reading (false, nmeaReaderInit) [] = .init from rfl] at hstate
  rw [hstate, reading]
  split_ifs with hskip hfits
  · exact Nat.zero_le _
  · exact hfits
  · exact Nat.zero_le _

/-! ### Lost lines -/

/-- The lines of `ls` that fit are handed over at most once each. -/
theorem handed_length_le (t : Bool × NmeaData) (ls : List (List UInt8)) :
    (run lineStep t ls).2.reduceOption.length ≤
      ((ls.filter (·.length < nmeaMaxSize)).map (· ++ [10])).length := by
  induction ls generalizing t with
  | nil => simp
  | cons line ls ih =>
    rw [run_cons]
    have hrest := ih (lineStep t line).1
    cases hskip : t.1 with
    | true =>
      have hnone : (lineStep t line).2 = none := by simp [lineStep, hskip]
      rw [hnone, List.reduceOption_cons_of_none]
      exact hrest.trans (((List.sublist_cons_self _ _).filter _).map _).length_le
    | false =>
      by_cases hfits : line.length < nmeaMaxSize
      · have hsome : (lineStep t line).2 = some (line ++ [10]) := by simp [lineStep, hskip, hfits]
        rw [hsome, List.reduceOption_cons_of_some, List.filter_cons_of_pos (by simpa using hfits)]
        simpa using hrest
      · have hnone : (lineStep t line).2 = none := by simp [lineStep, hskip, hfits]
        rw [hnone, List.reduceOption_cons_of_none, List.filter_cons_of_neg (by simpa using hfits)]
        exact hrest

theorem handed_eq_iff (t : Bool × NmeaData) (ls : List (List UInt8)) :
    (run lineStep t ls).2.reduceOption =
        (ls.filter (·.length < nmeaMaxSize)).map (· ++ [10]) ↔
      Along lineStep (fun t line => line.length < nmeaMaxSize → t.1 = false) t ls := by
  induction ls generalizing t with
  | nil => simp [Along]
  | cons line ls ih =>
    rw [run_cons, Along, ← ih]
    by_cases hfits : line.length < nmeaMaxSize
    · rw [List.filter_cons_of_pos (by simpa using hfits), List.map_cons]
      cases hskip : t.1 with
      | true =>
        have hnone : (lineStep t line).2 = none := by simp [lineStep, hskip]
        have hle := handed_length_le (lineStep t line).1 ls
        simp only [hnone, List.reduceOption_cons_of_none, hfits, Bool.true_eq_false, imp_false,
          not_true_eq_false, false_and, iff_false]
        intro heq
        rw [heq, List.length_cons] at hle
        omega
      | false =>
        have hsome : (lineStep t line).2 = some (line ++ [10]) := by simp [lineStep, hskip, hfits]
        simp [hsome]
    · have hnone : (lineStep t line).2 = none := by
        simp only [lineStep]
        split_ifs <;> rfl
      rw [List.filter_cons_of_neg (by simpa using hfits)]
      simp [hnone, hfits]

theorem handed_of_short {stream : List UInt8}
    (h : ∀ line ∈ lines (· == 10) stream, line.length < nmeaMaxSize) :
    handed stream = (lines (· == 10) stream).map (· ++ [10]) := by
  have hfilter : (lines (· == 10) stream).filter (·.length < nmeaMaxSize) =
      lines (· == 10) stream := by
    rw [List.filter_eq_self]
    exact fun line hline => decide_eq_true (h line hline)
  have hkept := (handed_eq_iff (false, nmeaReaderInit) (lines (· == 10) stream)).mpr
  rw [hfilter, ← handed_eq] at hkept
  apply hkept
  apply Along.of_invariant (fun t => t.1 = false) (Q := fun _ line => line.length < nmeaMaxSize)
  · intro t line ht hfits
    refine ⟨fun _ => ht, ?_⟩
    simp [lineStep, ht, hfits]
  · rfl
  · exact Along.of_forall h

/-- What is handed over are lines, in order, each with its newline. -/
theorem handed_sublist (stream : List UInt8) :
    (handed stream).Sublist ((lines (· == 10) stream).map (· ++ [10])) := by
  have hrun : ∀ (t : Bool × NmeaData) (ls : List (List UInt8)),
      ((run lineStep t ls).2.reduceOption).Sublist (ls.map (· ++ [10])) := by
    intro t ls
    induction ls generalizing t with
    | nil => exact .slnil
    | cons line ls ih =>
      rw [run_cons, List.map_cons]
      have hout : (lineStep t line).2 = none ∨ (lineStep t line).2 = some (line ++ [10]) := by
        simp only [lineStep]
        split_ifs
        · exact .inl rfl
        · exact .inr rfl
        · exact .inl rfl
      rcases hout with hout | hout
      · rw [hout, List.reduceOption_cons_of_none]
        exact (ih _).cons _
      · rw [hout, List.reduceOption_cons_of_some]
        exact (ih _).cons_cons _
  rw [handed_eq]
  exact hrun _ _

/-- How many lines of exactly 83 characters stand at the end of the list. -/
def boundaryRun (before : List (List UInt8)) : ℕ :=
  (before.rtakeWhile (·.length == nmeaMaxSize)).length

theorem boundaryRun_concat (before : List (List UInt8)) (line : List UInt8) :
    boundaryRun (before ++ [line]) =
      if line.length = nmeaMaxSize then boundaryRun before + 1 else 0 := by
  by_cases h : line.length = nmeaMaxSize
  · rw [boundaryRun, List.rtakeWhile_concat_pos _ _ _ (by simpa using h)]
    simp [h, boundaryRun]
  · rw [boundaryRun, List.rtakeWhile_concat_neg _ _ _ (by simpa using h)]
    simp [h]

/-- A line is skipped behind an odd number of such lines. -/
theorem run_lineStep_skip (data : NmeaData) (before : List (List UInt8)) :
    (run lineStep (false, data) before).1.1 = true ↔ ¬ Even (boundaryRun before) := by
  induction before using List.reverseRecOn with
  | nil => simp [boundaryRun]
  | append_singleton before line ih =>
    rw [run_append, boundaryRun_concat]
    simp only [run_cons, run_nil]
    cases hskip : (run lineStep (false, data) before).1.1 with
    | true =>
      have hodd := ih.mp hskip
      by_cases h : line.length = nmeaMaxSize
      · simp [lineStep, hskip, h, Nat.even_add_one, hodd]
      · simp [lineStep, hskip, h]
    | false =>
      have heven : Even (boundaryRun before) := by simpa [hskip] using ih
      by_cases hfits : line.length < nmeaMaxSize
      · have hne : line.length ≠ nmeaMaxSize := by omega
        simp [lineStep, hskip, hfits, hne]
      · by_cases h : line.length = nmeaMaxSize
        · simp [lineStep, hskip, h, Nat.even_add_one, heven]
        · simp [lineStep, hskip, hfits, h]

theorem sentences_handed_iff (stream : List UInt8) :
    handed stream = sentences stream ↔
      ∀ before line after, lines (· == 10) stream = before ++ line :: after →
        line.length < nmeaMaxSize → Even (boundaryRun before) := by
  rw [handed_eq, sentences, handed_eq_iff, along_iff_forall]
  simp only [← Bool.not_eq_true, run_lineStep_skip, not_not]

/-- A sentence behind a line of 83 characters is lost. -/
theorem sentences_handed_boundary :
    let stream := List.replicate 83 65 ++ ascii "\n$GPRMC,,V\n"
    handed stream = [] ∧ sentences stream = [ascii "$GPRMC,,V\n"] ∧
      handed stream ≠ sentences stream := by
  decide +kernel

end Fw100.Gps
