import Fw100.Gps.Parser
import Fw100.Library.Machine

/-!
# The satellites of GSA and GSV sentences

GSV sentences fill the satellite list from where the last one stopped, up to the number that
they give themselves; GSA sentences turn satellite numbers into shifts. Neither number is
compared with the size of what it is used on.
-/
namespace Fw100.Gps
open Library
open Text (ascii)

def gpsMaxSvs : ℕ := 32

structure InRange (out : NmeaData × List SvAccess) : Prop where
  stores : ∀ index prn, .store index prn ∈ out.2 → index < gpsMaxSvs
  numSvs : out.1.numSvs ≤ gpsMaxSvs
  shifts : ∀ prn amount, .shift prn amount ∈ out.2 → 0 ≤ amount ∧ amount ≤ 31
  distinct : ∀ prn amount prn' amount', .shift prn amount ∈ out.2 → .shift prn' amount' ∈ out.2 →
    prn ≠ prn' → amount ≠ amount'

theorem inRange_silent {r : NmeaData} : InRange (r, []) ↔ r.numSvs ≤ gpsMaxSvs := by
  constructor
  · exact fun h => h.numSvs
  · exact fun h => ⟨by simp, h, by simp, by simp⟩

/-! ### GSA -/

def usedPrns (tzer : List Token) (is : List ℕ) : List ℤ :=
  (is.map (fun i => str2int (nmeaTokenizerGet tzer i).text)).filter (0 < ·)

theorem usedPrns_cons (tzer : List Token) (i : ℕ) (is : List ℕ) :
    usedPrns tzer (i :: is) =
      if 0 < str2int (nmeaTokenizerGet tzer i).text then
        str2int (nmeaTokenizerGet tzer i).text :: usedPrns tzer is
      else usedPrns tzer is := by
  rw [usedPrns, List.map_cons, List.filter_cons]
  simp [usedPrns]

theorem markUsed_log (tzer : List Token) (is : List ℕ) (r : NmeaData) :
    (markUsed tzer is r).2 = (usedPrns tzer is).map (fun prn => .shift prn (32 - prn)) := by
  induction is generalizing r with
  | nil => rfl
  | cons i is ih =>
    rw [markUsed, usedPrns_cons]
    split_ifs with hprn
    · simp [ih]
    · exact ih r

theorem markUsed_numSvs (tzer : List Token) (is : List ℕ) (r : NmeaData) :
    (markUsed tzer is r).1.numSvs = r.numSvs := by
  obtain ⟨mask, changed, h⟩ := markUsed_frame tzer is r
  rw [h]

theorem markUsed_testBit (tzer : List Token) (is : List ℕ) (r : NmeaData) (k : ℕ) :
    (markUsed tzer is r).1.usedInFixMask.testBit k = true ↔
      r.usedInFixMask.testBit k = true ∨ ∃ prn ∈ usedPrns tzer is, (32 - prn).toNat = k := by
  induction is generalizing r with
  | nil => simp [markUsed, usedPrns]
  | cons i is ih =>
    rw [markUsed, usedPrns_cons]
    split_ifs with hprn
    · have hbit : ∀ n : ℕ, (1 <<< n).testBit k = true ↔ n = k := by
        intro n
        rw [Nat.one_shiftLeft, Nat.testBit_two_pow]
        simp
      simp only [ih, Nat.testBit_or, Bool.or_eq_true, hbit, List.mem_cons, exists_eq_or_imp,
        or_assoc]
    · exact ih r

def HasFix (tzer : List Token) : Prop :=
  (nmeaTokenizerGet tzer 2).first ≠ 0 ∧ (nmeaTokenizerGet tzer 2).first ≠ 49

instance (tzer : List Token) : Decidable (HasFix tzer) := inferInstanceAs (Decidable (_ ∧ _))

theorem inRange_gsa {r : NmeaData} (hr : r.numSvs ≤ gpsMaxSvs) (tzer : List Token) :
    InRange (parseGsa r tzer) ↔
      (HasFix tzer → ∀ prn ∈ usedPrns tzer (List.range' 3 12), prn ≤ 32) := by
  rw [parseGsa]
  simp only [← HasFix.eq_1]
  split_ifs with hfix
  · have hlog := markUsed_log tzer (List.range' 3 12) { r with usedInFixMask := 0 }
    constructor
    · intro h _ prn hprn
      have hmem : SvAccess.shift prn (32 - prn) ∈
          (markUsed tzer (List.range' 3 12) { r with usedInFixMask := 0 }).2 := by
        rw [hlog]
        exact List.mem_map_of_mem hprn
      have := (h.shifts _ _ hmem).1
      omega
    · intro h
      have hshift : ∀ prn amount, SvAccess.shift prn amount ∈
          (markUsed tzer (List.range' 3 12) { r with usedInFixMask := 0 }).2 →
          0 < prn ∧ prn ≤ 32 ∧ amount = 32 - prn := by
        intro prn amount hmem
        rw [hlog] at hmem
        obtain ⟨prn', hprn, heq⟩ := List.mem_map.mp hmem
        obtain ⟨rfl, rfl⟩ := SvAccess.shift.inj heq
        have hpos : 0 < prn' := by simpa using (List.mem_filter.mp hprn).2
        exact ⟨hpos, h hfix prn' hprn, rfl⟩
      refine ⟨?_, ?_, ?_, ?_⟩
      · intro index prn hmem
        rw [hlog] at hmem
        simp at hmem
      · rw [markUsed_numSvs]
        exact hr
      · intro prn amount hmem
        have := hshift prn amount hmem
        omega
      · intro prn amount prn' amount' hmem hmem'
        have := hshift prn amount hmem
        have := hshift prn' amount' hmem'
        omega
  · exact ⟨fun _ h => absurd h hfix, fun _ => inRange_silent.mpr hr⟩

/-! ### GSV -/

theorem storeSatellites_numSvs (tzer : List Token) (n : ℤ) (rounds i curr : ℕ) (r : NmeaData) :
    ((storeSatellites tzer n rounds i curr r).1.numSvs : ℤ) =
      max (r.numSvs : ℤ) (min (r.numSvs + rounds) n) := by
  induction rounds generalizing i curr r with
  | zero =>
    simp only [storeSatellites]
    omega
  | succ rounds ih =>
    rw [storeSatellites]
    split_ifs with hmore
    · rw [ih]
      push_cast
      omega
    · simp only
      omega

/-- The stores fill the list up to the number that is left behind. -/
theorem storeSatellites_log (tzer : List Token) (n : ℤ) (rounds i : ℕ) (r : NmeaData) :
    ∀ access ∈ (storeSatellites tzer n rounds i r.numSvs r).2, ∃ index prn,
      access = .store index prn ∧
        index < (storeSatellites tzer n rounds i r.numSvs r).1.numSvs := by
  induction rounds generalizing i r with
  | zero => simp [storeSatellites]
  | succ rounds ih =>
    rw [storeSatellites]
    split_ifs with hmore
    · have hlater := ih (i + 1) { r with numSvs := r.numSvs + 1 }
      have hcount := storeSatellites_numSvs tzer n rounds (i + 1) (r.numSvs + 1)
        { r with numSvs := r.numSvs + 1 }
      intro access haccess
      rcases List.mem_cons.mp haccess with rfl | haccess
      · refine ⟨_, _, rfl, ?_⟩
        push_cast at hcount
        simp only
        omega
      · exact hlater access haccess
    · simp

def svStart (r : NmeaData) (tzer : List Token) : ℕ :=
  if str2int (nmeaTokenizerGet tzer 2).text = 1 then 0 else r.numSvs

def noSatellites (tzer : List Token) : ℤ := str2int (nmeaTokenizerGet tzer 3).text

/-- The loop starts at `svStart`, and nothing behind it changes the number. -/
theorem parseGsv_eq (r : NmeaData) {tzer : List Token} (h : 0 < noSatellites tzer) :
    ∃ start, start.numSvs = svStart r tzer ∧
      (parseGsv r tzer).1.numSvs =
        (storeSatellites tzer (noSatellites tzer) 4 0 start.numSvs start).1.numSvs ∧
      (parseGsv r tzer).2 =
        (storeSatellites tzer (noSatellites tzer) 4 0 start.numSvs start).2 := by
  refine ⟨if str2int (nmeaTokenizerGet tzer 2).text = 1 then
    { r with svStatusChanged := false, numSvs := 0 } else r, ?_, ?_⟩
  · rw [svStart]
    split_ifs <;> rfl
  · simp only [parseGsv, ← noSatellites.eq_1, if_pos h]
    split_ifs <;> exact ⟨rfl, rfl⟩

theorem inRange_gsv {r : NmeaData} (hr : r.numSvs ≤ gpsMaxSvs) (tzer : List Token) :
    InRange (parseGsv r tzer) ↔
      (0 < noSatellites tzer → noSatellites tzer ≤ 32 ∨ svStart r tzer ≤ 28) := by
  by_cases hsome : 0 < noSatellites tzer
  · obtain ⟨start, hstart, hnum, hlog⟩ := parseGsv_eq r hsome
    have hcount := storeSatellites_numSvs tzer (noSatellites tzer) 4 0 start.numSvs start
    have hle : svStart r tzer ≤ 32 := by
      rw [svStart]
      split_ifs
      · exact Nat.zero_le _
      · exact hr
    have hrange : (parseGsv r tzer).1.numSvs ≤ 32 ↔
        noSatellites tzer ≤ 32 ∨ svStart r tzer ≤ 28 := by
      rw [hnum, ← hstart]
      push_cast at hcount
      omega
    constructor
    · exact fun h _ => hrange.mp h.numSvs
    · intro h
      have hnumSvs := hrange.mpr (h hsome)
      have haccess : ∀ access ∈ (parseGsv r tzer).2, ∃ index prn, access = .store index prn ∧
          index < 32 := by
        intro access hmem
        rw [hlog] at hmem
        obtain ⟨index, prn, heq, hindex⟩ := storeSatellites_log _ _ _ _ _ access hmem
        rw [← hnum] at hindex
        exact ⟨index, prn, heq, hindex.trans_le hnumSvs⟩
      have hnoShift : ∀ prn amount, SvAccess.shift prn amount ∉ (parseGsv r tzer).2 := by
        intro prn amount hmem
        obtain ⟨_, _, heq, -⟩ := haccess _ hmem
        cases heq
      refine ⟨?_, hnumSvs, fun _ _ h => absurd h (hnoShift _ _),
        fun _ _ _ _ h => absurd h (hnoShift _ _)⟩
      intro index prn hmem
      obtain ⟨_, _, heq, hindex⟩ := haccess _ hmem
      rwa [(SvAccess.store.inj heq).1]
  · have hquiet : parseGsv r tzer = (r, []) := by
      rw [parseGsv]
      exact if_neg hsome
    rw [hquiet, inRange_silent]
    simp [hsome, hr]

/-! ### Sequences of sentences -/

/-- The satellites of the sentence fit: a GSA sentence with a fix names none above 32, and a GSV
sentence gives a number up to 32 or goes on in front of the last four places. -/
structure Fits (r : NmeaData) (sentence : List UInt8) : Prop where
  gsa : ∀ tzer, sentenceTokens sentence = some (tzer, ascii "GSA") → HasFix tzer →
    ∀ prn ∈ usedPrns tzer (List.range' 3 12), prn ≤ 32
  gsv : ∀ tzer, sentenceTokens sentence = some (tzer, ascii "GSV") → 0 < noSatellites tzer →
    noSatellites tzer ≤ 32 ∨ svStart r tzer ≤ 28

theorem updateTime_numSvs (r : NmeaData) (tok : Token) :
    (nmeaReaderUpdateTime r tok).2.numSvs = r.numSvs := by
  rw [nmeaReaderUpdateTime]
  split_ifs <;> rfl

theorem parseRmc_numSvs (r : NmeaData) (tzer : List Token) :
    (parseRmc r tzer).numSvs = r.numSvs := by
  simp only [parseRmc, nmeaReaderUpdateDate]
  split_ifs
  · rfl
  · rfl
  · exact updateTime_numSvs _ _
  · rfl

theorem parseZda_numSvs (r : NmeaData) (tzer : List Token) :
    (parseZda r tzer).numSvs = r.numSvs := by
  simp only [parseZda, nmeaReaderUpdateCdate]
  split_ifs
  · exact updateTime_numSvs _ _
  · exact updateTime_numSvs _ _
  · rfl

theorem fits_iff {r : NmeaData} {sentence : List UInt8} {tzer : List Token} {id : List UInt8}
    (h : sentenceTokens sentence = some (tzer, id)) :
    Fits r sentence ↔
      (id = ascii "GSA" → HasFix tzer → ∀ prn ∈ usedPrns tzer (List.range' 3 12), prn ≤ 32) ∧
      (id = ascii "GSV" → 0 < noSatellites tzer → noSatellites tzer ≤ 32 ∨ svStart r tzer ≤ 28) := by
  constructor
  · intro hfits
    constructor
    · rintro rfl
      exact hfits.gsa tzer h
    · rintro rfl
      exact hfits.gsv tzer h
  · rintro ⟨hgsa, hgsv⟩
    constructor
    · intro tzer' h'
      obtain ⟨rfl, rfl⟩ := Prod.mk.inj (Option.some.inj (h.symm.trans h'))
      exact hgsa rfl
    · intro tzer' h'
      obtain ⟨rfl, rfl⟩ := Prod.mk.inj (Option.some.inj (h.symm.trans h'))
      exact hgsv rfl

theorem inRange_iff_fits {r : NmeaData} (hr : r.numSvs ≤ gpsMaxSvs) (sentence : List UInt8) :
    InRange (nmeaReaderParse r sentence) ↔ Fits r sentence := by
  have hdiffer : ascii "GSV" ≠ ascii "GSA" := by decide
  rw [nmeaReaderParse]
  cases htokens : sentenceTokens sentence with
  | none =>
    refine iff_of_true (inRange_silent.mpr hr) ⟨?_, ?_⟩
    · intro tzer h
      exact absurd (htokens.symm.trans h) (Option.some_ne_none _).symm
    · intro tzer h
      exact absurd (htokens.symm.trans h) (Option.some_ne_none _).symm
  | some found =>
    obtain ⟨tzer, id⟩ := found
    rw [fits_iff htokens]
    dsimp only
    split_ifs with hgsa hgsv hrmc hzda
    · rw [inRange_gsa hr]
      simp [hgsa, hdiffer.symm]
    · rw [inRange_gsv hr]
      simp [hgsv, hdiffer]
    · have hrange : InRange (parseRmc r tzer, []) := inRange_silent.mpr (by rwa [parseRmc_numSvs])
      exact iff_of_true hrange ⟨fun h => absurd h hgsa, fun h => absurd h hgsv⟩
    · have hrange : InRange (parseZda r tzer, []) := inRange_silent.mpr (by rwa [parseZda_numSvs])
      exact iff_of_true hrange ⟨fun h => absurd h hgsa, fun h => absurd h hgsv⟩
    · exact iff_of_true (inRange_silent.mpr hr) ⟨fun h => absurd h hgsa, fun h => absurd h hgsv⟩

theorem satellites_in_range_iff (sentences : List (List UInt8)) :
    Along nmeaReaderParse (fun r sentence => InRange (nmeaReaderParse r sentence)) nmeaReaderInit
        sentences ↔
      Along nmeaReaderParse Fits nmeaReaderInit sentences :=
  along_iff_of_invariant (fun r => r.numSvs ≤ gpsMaxSvs)
    (fun _ sentence hr => inRange_iff_fits hr sentence) (fun _ _ _ h => h.numSvs) (Nat.zero_le _)

/-- A WAAS satellite in use is shifted by a negative amount, and GSV sentences without a first one
are stored behind the list. -/
theorem satellites_in_range_waas :
    let gsa := ascii "$GPGSA,A,3,04,46,,,,,,,,,,,2.5,1.3,2.1*39\n"
    let gsv := ascii "$GPGSV,9,2,36,05,40,083,46,12,17,308,41,14,22,228,45,21,07,344,39*7A\n"
    ¬ Along nmeaReaderParse (fun r sentence => InRange (nmeaReaderParse r sentence)) nmeaReaderInit
        [gsa] ∧
      ¬ Along nmeaReaderParse (fun r sentence => InRange (nmeaReaderParse r sentence))
        nmeaReaderInit (List.replicate 9 gsv) ∧
      (run nmeaReaderParse nmeaReaderInit (List.replicate 9 gsv)).2.getLast? =
        some [.store 32 5, .store 33 12, .store 34 14, .store 35 21] := by
  intro gsa gsv
  refine ⟨?_, ?_, by decide +kernel⟩
  · intro h
    have hshift : SvAccess.shift 46 (-14) ∈ (nmeaReaderParse nmeaReaderInit gsa).2 := by
      decide +kernel
    exact absurd (h.1.shifts _ _ hshift).1 (by decide)
  · intro h
    have hcount : (run nmeaReaderParse nmeaReaderInit (List.replicate 9 gsv)).1.numSvs ≤ 32 :=
      Along.invariant_run (fun r => r.numSvs ≤ gpsMaxSvs) (fun _ _ _ h => h.numSvs) (Nat.zero_le _) h
    exact absurd hcount (by decide +kernel)

end Fw100.Gps
