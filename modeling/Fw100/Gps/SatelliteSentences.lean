import Fw100.Gps.ClockStream
import Fw100.Gps.Satellites

/-!
# GSV and GSA sentences and the satellites that they report

The satellites in view come in groups of GSV sentences, four in each. A group that is read as a
whole leaves the list of its satellites, whatever was there before. A GSA sentence tells which
of them are used for the fix.
-/
namespace Fw100.Gps
open Library
open Text (ascii)

structure Satellite where
  prn : ℕ
  elevation : List UInt8
  azimuth : List UInt8
  snr : List UInt8
  prn_lt : prn < 100
  plain : ∀ field ∈ [elevation, azimuth, snr], ∀ c ∈ field, Plain c

def Satellite.fields (s : Satellite) : List (List UInt8) :=
  [padded 2 s.prn, s.elevation, s.azimuth, s.snr]

theorem Satellite.plain_fields (s : Satellite) : ∀ field ∈ s.fields, ∀ c ∈ field, Plain c := by
  intro field hfield c hc
  rcases List.mem_cons.mp hfield with rfl | hrest
  · exact plain_padded hc
  · exact s.plain field hrest c hc

theorem getElem?_fields (sats : List Satellite) (rest : List (List UInt8)) {i : ℕ} {s : Satellite}
    (hi : sats[i]? = some s) :
    (sats.flatMap Satellite.fields ++ rest)[i * 4]? = some (padded 2 s.prn) := by
  induction sats generalizing i with
  | nil => cases hi
  | cons t sats ih =>
    cases i with
    | zero =>
      obtain rfl : t = s := Option.some.inj hi
      rfl
    | succ i =>
      have hrest := ih hi
      rw [List.flatMap_cons, List.append_assoc, List.getElem?_append_right]
      · rw [show (i + 1) * 4 - t.fields.length = i * 4 by simp [Satellite.fields]; omega]
        exact hrest
      · simp only [Satellite.fields, List.length_cons, List.length_nil]
        omega

def stores (sats : List Satellite) (index : ℕ) : List SvAccess :=
  (sats.zipIdx index).map (fun s => .store s.2 s.1.prn)

theorem stores_append (sats later : List Satellite) (index : ℕ) :
    stores (sats ++ later) index = stores sats index ++ stores later (index + sats.length) := by
  rw [stores, List.zipIdx_append, List.map_append]
  rfl

/-! ### One sentence of a group -/

def gsvFields (e : Envelope) (total k n : ℕ) (sats : List Satellite) : List (List UInt8) :=
  (e.talker ++ ascii "GSV") :: padded 1 total :: padded 1 k :: padded 2 n ::
    (sats.flatMap Satellite.fields ++ e.trailing)

def gsvSentence (e : Envelope) (total k n : ℕ) (sats : List Satellite) : List UInt8 :=
  e.frame.sentence (gsvFields e total k n sats)

theorem plain_gsv : ∀ c ∈ ascii "GSV", Plain c := by decide

theorem plain_gsvFields (e : Envelope) (total k n : ℕ) (sats : List Satellite) :
    ∀ field ∈ gsvFields e total k n sats, ∀ c ∈ field, Plain c := by
  intro field hfield c hc
  simp only [gsvFields, List.mem_cons, List.mem_append, List.mem_flatMap] at hfield
  rcases hfield with rfl | rfl | rfl | rfl | ⟨s, -, hs⟩ | hfield
  · rcases List.mem_append.mp hc with hc | hc
    · exact e.talker_plain c hc
    · exact plain_gsv c hc
  · exact plain_padded hc
  · exact plain_padded hc
  · exact plain_padded hc
  · exact s.plain_fields field hs c hc
  · exact e.trailing_plain field hfield c hc

theorem nmeaReaderParse_gsv {r : NmeaData} {sentence : List UInt8} {tzer : List Token}
    (h : sentenceTokens sentence = some (tzer, ascii "GSV")) :
    nmeaReaderParse r sentence = parseGsv r tzer := by
  rw [nmeaReaderParse, h]
  rfl

theorem sentenceTokens_gsv (e : Envelope) (total k n : ℕ) (sats : List Satellite) :
    sentenceTokens (gsvSentence e total k n sats) =
      some (nmeaTokenizerInit (gsvSentence e total k n sats), ascii "GSV") := by
  apply sentenceTokens_sentence e.wellFormed e.talker_length rfl (plain_gsvFields e total k n sats)
  have hid : (ascii "GSV").length = 3 := rfl
  simp only [joined_cons_cons, List.length_append, List.length_cons, length_padded,
    e.talker_length]
  omega

/-- The loop stores the satellites that are there, if they are as many as it looks for. -/
theorem storeSatellites_eq {tzer : List Token} {sats : List Satellite} (n rounds i curr : ℕ)
    (r : NmeaData) (hrounds : sats.length ≤ rounds) (hle : r.numSvs + sats.length ≤ n)
    (hend : sats.length = rounds ∨ r.numSvs + sats.length = n)
    (hread : ∀ j s, sats[j]? = some s →
      str2int (nmeaTokenizerGet tzer ((i + j) * 4 + 4)).text = s.prn) :
    storeSatellites tzer n rounds i curr r =
      ({ r with numSvs := r.numSvs + sats.length }, stores sats curr) := by
  induction sats generalizing rounds i curr r with
  | nil =>
    cases rounds with
    | zero => rfl
    | succ rounds =>
      have hfull : ¬ (r.numSvs : ℤ) < n := by
        rcases hend with hend | hend
        · cases hend
        · rw [List.length_nil, add_zero] at hend
          omega
      rw [storeSatellites, if_neg hfull]
      rfl
  | cons s sats ih =>
    rw [List.length_cons] at hrounds hle hend
    cases rounds with
    | zero => omega
    | succ rounds =>
      have hmore : (r.numSvs : ℤ) < n := by omega
      have hprn := hread 0 s rfl
      have hnext : ∀ j t, sats[j]? = some t →
          str2int (nmeaTokenizerGet tzer ((i + 1 + j) * 4 + 4)).text = t.prn := by
        intro j t ht
        rw [show i + 1 + j = i + (j + 1) by omega]
        exact hread (j + 1) t ht
      have hlater := ih rounds (i + 1) (curr + 1) { r with numSvs := r.numSvs + 1 } (by omega)
        (by simp only []; omega) (by simp only []; omega) hnext
      rw [add_zero] at hprn
      rw [storeSatellites, if_pos hmore, hlater, hprn, List.length_cons]
      simp only [stores, List.zipIdx_cons, List.map_cons]
      rw [show r.numSvs + 1 + sats.length = r.numSvs + (sats.length + 1) by omega]

/-- What the list of satellites is when the loop of sentence `k` begins. -/
def gsvStart (k : ℕ) (r : NmeaData) : NmeaData :=
  if k = 1 then { r with svStatusChanged := false, numSvs := 0 } else r

theorem Reads.text_number {tok : Token} {k n : ℕ} (h : Reads tok (padded k n)) (hk : k ≠ 0)
    (hn : n < 10 ^ k) (hmax : n < 2 ^ 31) : str2int tok.text = n := by
  rw [h.text, str2int_padded hk hn hmax]

/-- What one sentence of a group does. The first one begins the list anew. -/
theorem parse_gsv (e : Envelope) (total k n : ℕ) (sats : List Satellite) (r : NmeaData)
    (htotal : total < 10) (hk : k < 10) (hn : n < 100) (hpos : 0 < n) (hfour : sats.length ≤ 4)
    (hle : (gsvStart k r).numSvs + sats.length ≤ n)
    (hend : sats.length = 4 ∨ (gsvStart k r).numSvs + sats.length = n) :
    nmeaReaderParse r (gsvSentence e total k n sats) =
      ({ gsvStart k r with
          numSvs := (gsvStart k r).numSvs + sats.length,
          svStatusChanged := (gsvStart k r).svStatusChanged || decide (k = total) },
        stores sats (gsvStart k r).numSvs) := by
  have hget : ∀ i field, (gsvFields e total k n sats)[i]? = some field → i < 32 → field ≠ [] →
      Reads (nmeaTokenizerGet (nmeaTokenizerInit (gsvSentence e total k n sats)) i) field :=
    fun i field hi hlt hne => nmeaTokenizerGet_sentence e.wellFormed
      (plain_gsvFields e total k n sats) hi hlt (.inr hne)
  have htot := (hget 1 _ rfl (by norm_num) (padded_ne_nil one_ne_zero)).text_number one_ne_zero
    (by omega) (by omega)
  have hnum := (hget 2 _ rfl (by norm_num) (padded_ne_nil one_ne_zero)).text_number one_ne_zero
    (by omega) (by omega)
  have hcount := (hget 3 _ rfl (by norm_num) (padded_ne_nil two_ne_zero)).text_number two_ne_zero
    (by omega) (by omega)
  have hread : ∀ j s, sats[j]? = some s →
      str2int (nmeaTokenizerGet (nmeaTokenizerInit (gsvSentence e total k n sats))
        ((0 + j) * 4 + 4)).text = s.prn := by
    intro j s hj
    obtain ⟨hlt, -⟩ := List.getElem?_eq_some_iff.mp hj
    have hfield : (gsvFields e total k n sats)[(0 + j) * 4 + 4]? = some (padded 2 s.prn) := by
      rw [zero_add]
      exact getElem?_fields sats e.trailing hj
    have hprn := s.prn_lt
    exact (hget _ _ hfield (by omega) (padded_ne_nil two_ne_zero)).text_number two_ne_zero
      (by omega) (by omega)
  have hstored := storeSatellites_eq n 4 0 (gsvStart k r).numSvs (gsvStart k r) hfour hle hend hread
  have hone : ((k : ℤ) = 1) ↔ k = 1 := by omega
  have hlast : ((k : ℤ) = total) ↔ k = total := by omega
  have hbegin : (if k = 1 then { r with svStatusChanged := false, numSvs := 0 } else r) =
      gsvStart k r := rfl
  rw [nmeaReaderParse_gsv (sentenceTokens_gsv e total k n sats)]
  simp only [parseGsv, htot, hnum, hcount, hone, hlast, hbegin, hstored]
  rw [if_pos (by omega)]
  split_ifs with heq
  · simp [heq]
  · simp [heq]

/-! ### A whole group -/

def gsvTotal (n : ℕ) : ℕ := (n + 3) / 4

def gsvGroup (es : ℕ → Envelope) (sats : List Satellite) : List (List UInt8) :=
  (List.range (gsvTotal sats.length)).map (fun k =>
    gsvSentence (es k) (gsvTotal sats.length) (k + 1) sats.length ((sats.drop (4 * k)).take 4))

/-- The data behind the first `k + 1` sentences of a group, and the stores up to then. -/
theorem run_gsv (es : ℕ → Envelope) {sats : List Satellite} (hn : sats.length ≤ 32) (r : NmeaData)
    {k : ℕ} (hk : k < gsvTotal sats.length) :
    let after := run nmeaReaderParse r ((List.range (k + 1)).map (fun k =>
      gsvSentence (es k) (gsvTotal sats.length) (k + 1) sats.length ((sats.drop (4 * k)).take 4)))
    after.1 = { r with numSvs := (sats.take (4 * (k + 1))).length,
                       svStatusChanged := decide (k + 1 = gsvTotal sats.length) } ∧
      after.2.flatten = stores (sats.take (4 * (k + 1))) 0 := by
  have htotal : gsvTotal sats.length < 10 := by
    rw [gsvTotal]
    omega
  have hmore : 4 * k < sats.length := by
    rw [gsvTotal] at hk
    omega
  induction k with
  | zero =>
    have hparse := parse_gsv (es 0) (gsvTotal sats.length) 1 sats.length (sats.take 4) r htotal
      (by norm_num) (by omega) (by omega) (List.length_take_le _ _)
      (by simp [gsvStart]) (by simp [gsvStart]; omega)
    simp only [List.range_one, List.map_cons, List.map_nil, run_cons, run_nil, mul_zero,
      List.drop_zero, zero_add, mul_one, hparse]
    simp [gsvStart, stores]
  | succ k ih =>
    obtain ⟨hdata, hstores⟩ := ih (by omega) (by omega)
    have hlen : (sats.take (4 * (k + 1))).length = 4 * (k + 1) := List.length_take_of_le (by omega)
    have hchunk : ((sats.drop (4 * (k + 1))).take 4).length = min 4 (sats.length - 4 * (k + 1)) := by
      rw [List.length_take, List.length_drop]
    have hsplit : sats.take (4 * (k + 1 + 1)) =
        sats.take (4 * (k + 1)) ++ (sats.drop (4 * (k + 1))).take 4 := by
      rw [show 4 * (k + 1 + 1) = 4 * (k + 1) + 4 by ring, List.take_add]
    have hnotLast : ¬ k + 1 = gsvTotal sats.length := by omega
    rw [hlen, decide_eq_false hnotLast] at hdata
    have hparse := parse_gsv (es (k + 1)) (gsvTotal sats.length) (k + 1 + 1) sats.length
      ((sats.drop (4 * (k + 1))).take 4)
      { r with numSvs := 4 * (k + 1), svStatusChanged := false } htotal (by omega) (by omega)
      (by omega) (by omega) (by simp [gsvStart]; omega) (by simp [gsvStart]; omega)
    rw [List.range_succ, List.map_append, run_append]
    simp only [List.map_cons, List.map_nil, run_cons, run_nil, hdata, hparse]
    rw [List.flatten_append, hstores, hsplit, stores_append, List.length_append, hlen]
    simp [gsvStart]

/-- A group of GSV sentences leaves the list of its satellites, and nothing else changes. The
list is announced as changed only with the last sentence. -/
theorem gsv_group (es : ℕ → Envelope) (sats : List Satellite) (hpos : sats ≠ [])
    (hn : sats.length ≤ 32) (r : NmeaData) :
    let after := run nmeaReaderParse r (gsvGroup es sats)
    after.1 = { r with numSvs := sats.length, svStatusChanged := true } ∧
      after.2.flatten = stores sats 0 := by
  have hlen := List.length_pos_iff.mpr hpos
  have htotal : gsvTotal sats.length = gsvTotal sats.length - 1 + 1 := by
    rw [gsvTotal]
    omega
  have hall : sats.take (4 * gsvTotal sats.length) = sats := by
    rw [List.take_of_length_le]
    rw [gsvTotal]
    omega
  have hrun := run_gsv es hn r (k := gsvTotal sats.length - 1) (by omega)
  rw [← htotal, hall] at hrun
  simpa [gsvGroup] using hrun

/-! ### Satellites that are used -/

structure UsedSatellites where
  prns : List (Option ℕ)
  length : prns.length = 12
  bounds : ∀ prn, some prn ∈ prns → 1 ≤ prn ∧ prn ≤ 32

def prnField : Option ℕ → List UInt8
  | none => []
  | some prn => padded 2 prn

/-- The mode, the status of the fix and what comes behind the satellites, which is not empty. -/
structure GsaEnvelope extends Envelope where
  mode : List UInt8
  status : UInt8
  mode_plain : ∀ c ∈ mode, Plain c
  status_plain : Plain status
  /-- There is a fix. -/
  status_fix : status ≠ 0 ∧ status ≠ 49
  trailing_ne : trailing ≠ []

def gsaFields (e : GsaEnvelope) (used : UsedSatellites) : List (List UInt8) :=
  (e.talker ++ ascii "GSA") :: e.mode :: [e.status] :: (used.prns.map prnField ++ e.trailing)

def gsaSentence (e : GsaEnvelope) (used : UsedSatellites) : List UInt8 :=
  e.frame.sentence (gsaFields e used)

theorem plain_gsa : ∀ c ∈ ascii "GSA", Plain c := by decide

theorem plain_gsaFields (e : GsaEnvelope) (used : UsedSatellites) :
    ∀ field ∈ gsaFields e used, ∀ c ∈ field, Plain c := by
  intro field hfield c hc
  simp only [gsaFields, List.mem_cons, List.mem_append, List.mem_map] at hfield
  rcases hfield with rfl | rfl | rfl | ⟨prn, -, rfl⟩ | hfield
  · rcases List.mem_append.mp hc with hc | hc
    · exact e.talker_plain c hc
    · exact plain_gsa c hc
  · exact e.mode_plain c hc
  · rw [List.mem_singleton.mp hc]
    exact e.status_plain
  · cases prn with
    | none => cases hc
    | some prn => exact plain_padded hc
  · exact e.trailing_plain field hfield c hc

theorem nmeaReaderParse_gsa {r : NmeaData} {sentence : List UInt8} {tzer : List Token}
    (h : sentenceTokens sentence = some (tzer, ascii "GSA")) :
    nmeaReaderParse r sentence = parseGsa r tzer := by
  rw [nmeaReaderParse, h]
  rfl

theorem sentenceTokens_gsa (e : GsaEnvelope) (used : UsedSatellites) :
    sentenceTokens (gsaSentence e used) =
      some (nmeaTokenizerInit (gsaSentence e used), ascii "GSA") := by
  apply sentenceTokens_sentence e.wellFormed e.talker_length rfl (plain_gsaFields e used)
  have hfields := length_le_joined (gsaFields e used)
  simp only [gsaFields, List.length_cons, List.length_append, List.length_map, used.length]
    at hfields
  exact Nat.le_of_succ_le_succ (le_trans (by omega) hfields)

theorem getElem?_prnField (used : UsedSatellites) (rest : List (List UInt8)) {j : ℕ}
    (hj : j < 12) : ∃ prn, used.prns[j]? = some prn ∧
      (used.prns.map prnField ++ rest)[j]? = some (prnField prn) := by
  have hlt : j < used.prns.length := hj.trans_eq used.length.symm
  refine ⟨used.prns[j], List.getElem?_eq_getElem hlt, ?_⟩
  rw [List.getElem?_append_left (by simpa using hlt), List.getElem?_map,
    List.getElem?_eq_getElem hlt]
  rfl

/-- The numbers that are read are those of the satellites. -/
theorem usedPrns_gsa (e : GsaEnvelope) (used : UsedSatellites) (prn : ℤ) :
    prn ∈ usedPrns (nmeaTokenizerInit (gsaSentence e used)) (List.range' 3 12) ↔
      ∃ p : ℕ, (p : ℤ) = prn ∧ some p ∈ used.prns := by
  have hread : ∀ j < 12, ∃ field, used.prns[j]? = some field ∧
      str2int (nmeaTokenizerGet (nmeaTokenizerInit (gsaSentence e used)) (j + 3)).text =
        field.elim (-1) (fun p => p) := by
    intro j hj
    obtain ⟨prn, hprn, hfield⟩ := getElem?_prnField used e.trailing hj
    have hat : (gsaFields e used)[j + 3]? = some (prnField prn) := hfield
    have hinner : j + 3 + 1 < (gsaFields e used).length := by
      have htrailing := List.length_pos_iff.mpr e.trailing_ne
      simp only [gsaFields, List.length_cons, List.length_append, List.length_map, used.length]
      omega
    have htok := nmeaTokenizerGet_sentence e.wellFormed (plain_gsaFields e used) hat
      (show j + 3 < 32 by omega) (.inl hinner)
    refine ⟨prn, hprn, ?_⟩
    cases prn with
    | none =>
      rw [show nmeaTokenizerInit (gsaSentence e used) =
        nmeaTokenizerInit (e.frame.sentence (gsaFields e used)) from rfl, htok.text]
      rfl
    | some p =>
      have hbounds := used.bounds p (List.mem_of_getElem? hprn)
      exact htok.text_number two_ne_zero (by omega) (by omega)
  simp only [usedPrns, List.mem_filter, List.mem_map, List.mem_range'_1, decide_eq_true_eq]
  constructor
  · rintro ⟨⟨i, hi, rfl⟩, hpos⟩
    obtain ⟨field, hfield, hvalue⟩ := hread (i - 3) (by omega)
    rw [Nat.sub_add_cancel hi.1] at hvalue
    rw [hvalue] at hpos ⊢
    cases field with
    | none => exact absurd hpos (by norm_num)
    | some p => exact ⟨p, rfl, List.mem_of_getElem? hfield⟩
  · rintro ⟨p, rfl, hp⟩
    obtain ⟨j, hlt, hj⟩ := List.mem_iff_getElem.mp hp
    have hj12 : j < 12 := hlt.trans_eq used.length
    obtain ⟨field, hfield, hvalue⟩ := hread j hj12
    rw [List.getElem?_eq_getElem hlt, hj] at hfield
    obtain rfl := Option.some.inj hfield
    have hbounds := used.bounds p hp
    exact ⟨⟨j + 3, by omega, hvalue⟩, by omega⟩

/-- A GSA sentence with a fix sets the mask to its satellites. The rest of the data but for the
announcement stays. -/
theorem parse_gsa (e : GsaEnvelope) (used : UsedSatellites) (r : NmeaData) :
    ∃ mask changed, (nmeaReaderParse r (gsaSentence e used)).1 =
        { r with usedInFixMask := mask, svStatusChanged := changed } ∧
      ∀ p, 1 ≤ p → p ≤ 32 → (mask.testBit (32 - p) = true ↔ some p ∈ used.prns) := by
  have hfix : HasFix (nmeaTokenizerInit (gsaSentence e used)) := by
    have hstatus : Reads (nmeaTokenizerGet (nmeaTokenizerInit (gsaSentence e used)) 2) [e.status] :=
      nmeaTokenizerGet_sentence e.wellFormed (plain_gsaFields e used) rfl (by decide)
        (.inr (List.cons_ne_nil _ _))
    rw [HasFix, hstatus.first]
    exact e.status_fix
  have hparse : (nmeaReaderParse r (gsaSentence e used)).1 =
      (markUsed (nmeaTokenizerInit (gsaSentence e used)) (List.range' 3 12)
        { r with usedInFixMask := 0 }).1 := by
    rw [nmeaReaderParse_gsa (sentenceTokens_gsa e used), parseGsa]
    exact congrArg Prod.fst (if_pos hfix)
  obtain ⟨mask, changed, hframe⟩ := markUsed_frame (nmeaTokenizerInit (gsaSentence e used))
    (List.range' 3 12) { r with usedInFixMask := 0 }
  refine ⟨mask, changed, hparse.trans hframe, ?_⟩
  intro p hlow hhigh
  have hbits := markUsed_testBit (nmeaTokenizerInit (gsaSentence e used)) (List.range' 3 12)
    { r with usedInFixMask := 0 } (32 - p)
  rw [hframe] at hbits
  simp only [Nat.zero_testBit, Bool.false_eq_true, false_or, usedPrns_gsa] at hbits
  rw [hbits]
  constructor
  · rintro ⟨-, ⟨q, rfl, hq⟩, heq⟩
    have hbounds := used.bounds q hq
    obtain rfl : q = p := by omega
    exact hq
  · intro hp
    exact ⟨p, ⟨p, rfl, hp⟩, by omega⟩

/-- The number that an access leaves at an index. -/
def SvAccess.entry (index : ℕ) : SvAccess → Option ℤ
  | .store i prn => if i = index then some prn else none
  | .shift _ _ => none

def svList (accesses : List SvAccess) (index : ℕ) : Option ℤ :=
  (accesses.filterMap (SvAccess.entry index)).getLast?

theorem svList_append (before later : List SvAccess) (index : ℕ) :
    svList (before ++ later) index = (svList later index).or (svList before index) := by
  rw [svList, List.filterMap_append, List.getLast?_append]
  rfl

theorem svList_stores {sats : List Satellite} (start : ℕ) {i : ℕ} {s : Satellite}
    (hi : sats[i]? = some s) : svList (stores sats start) (start + i) = some (s.prn : ℤ) := by
  induction sats using List.reverseRecOn with
  | nil => cases hi
  | append_singleton sats t ih =>
    rw [stores_append, svList_append]
    rcases Nat.lt_trichotomy i sats.length with hlt | rfl | hgt
    · rw [List.getElem?_append_left hlt] at hi
      have hne : ¬ sats.length = i := by omega
      rw [ih hi]
      simp [svList, stores, SvAccess.entry, hne]
    · rw [List.getElem?_append_right le_rfl, Nat.sub_self] at hi
      obtain rfl : t = s := Option.some.inj hi
      have hlast : svList (stores [t] (start + sats.length)) (start + sats.length) =
          some (t.prn : ℤ) := by simp [svList, stores, SvAccess.entry]
      rw [hlast, Option.some_or]
    · rw [List.getElem?_eq_none (by simp; omega)] at hi
      cases hi

/-! ### All sentences about satellites -/

/-- A sentence that says nothing about satellites: it is no GSV sentence, and a GSA sentence only
without a fix. -/
def Skyless (sentence : List UInt8) : Prop :=
  ∀ found ∈ sentenceTokens sentence, found.2 ≠ ascii "GSV" ∧
    (found.2 = ascii "GSA" → ¬ HasFix found.1)

instance (sentence : List UInt8) : Decidable (Skyless sentence) :=
  inferInstanceAs (Decidable (∀ found ∈ sentenceTokens sentence, _))

/-- What a receiver sends about satellites. -/
inductive SkyReport where
  | inView (es : ℕ → Envelope) (sats : List Satellite) (ne : sats ≠ []) (le : sats.length ≤ 32)
  | inUse (e : GsaEnvelope) (used : UsedSatellites)
  | other (sentence : List UInt8) (h : Skyless sentence)

namespace SkyReport

def sentences : SkyReport → List (List UInt8)
  | inView es sats _ _ => gsvGroup es sats
  | inUse e used => [gsaSentence e used]
  | other sentence _ => [sentence]

def view (before : List Satellite) : SkyReport → List Satellite
  | inView _ sats _ _ => sats
  | _ => before

def use (before : List (Option ℕ)) : SkyReport → List (Option ℕ)
  | inUse _ used => used.prns
  | _ => before

end SkyReport

structure Shows (r : NmeaData) (accesses : List SvAccess) (view : List Satellite)
    (inUse : List (Option ℕ)) : Prop where
  numSvs : r.numSvs = view.length
  entries : ∀ i s, view[i]? = some s → svList accesses i = some (s.prn : ℤ)
  mask : ∀ p, 1 ≤ p → p ≤ 32 → (r.usedInFixMask.testBit (32 - p) = true ↔ some p ∈ inUse)

theorem Shows.of_silent {r r' : NmeaData} {accesses later : List SvAccess} {view : List Satellite}
    {inUse : List (Option ℕ)} (h : Shows r accesses view inUse) (hnum : r'.numSvs = r.numSvs)
    (hmask : r'.usedInFixMask = r.usedInFixMask) (hlater : ∀ i, svList later i = none) :
    Shows r' (accesses ++ later) view inUse := by
  refine ⟨hnum.trans h.numSvs, ?_, ?_⟩
  · intro i s hi
    rw [svList_append, hlater, Option.none_or]
    exact h.entries i s hi
  · rw [hmask]
    exact h.mask

/-- Dates and times leave the satellites alone. -/
theorem parseRmc_sky (r : NmeaData) (tzer : List Token) :
    (parseRmc r tzer).numSvs = r.numSvs ∧
      (parseRmc r tzer).usedInFixMask = r.usedInFixMask := by
  simp only [parseRmc, nmeaReaderUpdateDate, nmeaReaderUpdateTime]
  split_ifs <;> exact ⟨rfl, rfl⟩

theorem parseZda_sky (r : NmeaData) (tzer : List Token) :
    (parseZda r tzer).numSvs = r.numSvs ∧
      (parseZda r tzer).usedInFixMask = r.usedInFixMask := by
  simp only [parseZda, nmeaReaderUpdateCdate, nmeaReaderUpdateTime]
  split_ifs <;> exact ⟨rfl, rfl⟩

theorem parseGsa_noFix (r : NmeaData) {tzer : List Token} (h : ¬ HasFix tzer) :
    parseGsa r tzer = (r, []) := by
  rw [parseGsa]
  exact if_neg h

theorem parse_skyless {sentence : List UInt8} (h : Skyless sentence) (r : NmeaData) :
    (nmeaReaderParse r sentence).1.numSvs = r.numSvs ∧
      (nmeaReaderParse r sentence).1.usedInFixMask = r.usedInFixMask ∧
      (nmeaReaderParse r sentence).2 = [] := by
  rw [nmeaReaderParse]
  cases htokens : sentenceTokens sentence with
  | none => exact ⟨rfl, rfl, rfl⟩
  | some found =>
    obtain ⟨hgsv, hgsa⟩ := h found htokens
    simp only
    split_ifs with hid hid' hid''
    · rw [parseGsa_noFix r (hgsa hid)]
      exact ⟨rfl, rfl, rfl⟩
    · obtain ⟨hnum, hmask⟩ := parseRmc_sky r found.1
      exact ⟨hnum, hmask, rfl⟩
    · obtain ⟨hnum, hmask⟩ := parseZda_sky r found.1
      exact ⟨hnum, hmask, rfl⟩
    · exact ⟨rfl, rfl, rfl⟩

/-- Only stores reach the list. -/
theorem gsa_accesses (e : GsaEnvelope) (used : UsedSatellites) (r : NmeaData) (i : ℕ) :
    svList (nmeaReaderParse r (gsaSentence e used)).2 i = none := by
  rw [nmeaReaderParse_gsa (sentenceTokens_gsa e used), parseGsa]
  split_ifs
  · rw [markUsed_log]
    simp [svList, List.filterMap_map, Function.comp_def, SvAccess.entry]
  · rfl

theorem shows_report (report : SkyReport) {r : NmeaData} {accesses : List SvAccess}
    {view : List Satellite} {inUse : List (Option ℕ)} (h : Shows r accesses view inUse) :
    Shows (run nmeaReaderParse r report.sentences).1
      (accesses ++ (run nmeaReaderParse r report.sentences).2.flatten) (report.view view)
      (report.use inUse) := by
  cases report with
  | inView es sats ne le =>
    obtain ⟨hdata, hstores⟩ := gsv_group es sats ne le r
    rw [SkyReport.sentences, hdata, hstores]
    refine ⟨rfl, ?_, h.mask⟩
    intro i s hi
    have hentry := svList_stores 0 (show sats[i]? = some s from hi)
    rw [Nat.zero_add] at hentry
    rw [svList_append, hentry, Option.some_or]
  | inUse e used =>
    obtain ⟨mask, changed, hdata, hmask⟩ := parse_gsa e used r
    have hsilent := gsa_accesses e used r
    simp only [SkyReport.sentences, run_cons, run_nil, List.flatten_cons, List.flatten_nil,
      List.append_nil, hdata]
    refine ⟨h.numSvs, ?_, hmask⟩
    intro i s hi
    rw [svList_append, hsilent, Option.none_or]
    exact h.entries i s hi
  | other sentence hsky =>
    obtain ⟨hnum, hmask, hlog⟩ := parse_skyless hsky r
    simp only [SkyReport.sentences, run_cons, run_nil, List.flatten_cons, List.flatten_nil,
      List.append_nil]
    rw [hlog]
    exact h.of_silent hnum hmask (fun _ => rfl)

theorem shows_reports (reports : List SkyReport) :
    let out := run nmeaReaderParse nmeaReaderInit (reports.flatMap SkyReport.sentences)
    Shows out.1 out.2.flatten (reports.foldl SkyReport.view []) (reports.foldl SkyReport.use []) := by
  induction reports using List.reverseRecOn with
  | nil => exact ⟨rfl, by simp, by simp [nmeaReaderInit]⟩
  | append_singleton reports report ih =>
    have hlast := shows_report report ih
    simp only [List.flatMap_append, List.flatMap_cons, List.flatMap_nil, List.append_nil,
      run_append, List.flatten_append, List.foldl_append, List.foldl_cons, List.foldl_nil]
    exact hlast

end Fw100.Gps
