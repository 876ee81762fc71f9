import Fw100.Gps.Tokenizer

/-!
# The parser of NMEA sentences

`nmea_reader_parse` and the functions that it calls. The floating-point fields of the fix are
left out, and with them the sentences that set nothing else. The entries of the satellite list
are only written here, so that the list is the list of stores.
-/
namespace Fw100.Gps
open Text (ascii)

/-- The fields of `NmeaReader` that are set from sentences. -/
structure NmeaData where
  utcYear : ℤ
  utcMon : ℤ
  utcDay : ℤ
  timestamp : ℤ
  numSvs : ℕ
  usedInFixMask : ℕ
  svStatusChanged : Bool
deriving DecidableEq, Repr

def nmeaReaderInit : NmeaData := ⟨-1, -1, -1, 0, 0, 0, false⟩

/-! ### Date and time -/

structure Tm where
  year : ℤ
  mon : ℤ
  mday : ℤ
  hour : ℤ
  min : ℤ
  sec : ℤ
deriving DecidableEq, Repr

def short (n : ℤ) : ℤ := n.bmod (2 ^ 16)

def daysToMonth : List ℤ := [0, 31, 59, 90, 120, 151, 181, 212, 243, 273, 304, 334]

/-- `mkgmtime` with a `time_t` of 32 bits. -/
def mkgmtime (t : Tm) : ℤ :=
  let month := short t.mon
  let year := short (t.year + month.tdiv 12 + 1900)
  let month := month.tmod 12
  let year := if month < 0 then short (year - 1) else year
  let month := if month < 0 then month + 12 else month
  let days := (year - 1970) * 365 + daysToMonth.getD month.toNat 0
  let year := if month ≤ 1 then short (year - 1) else year
  let days := days + (year - 1968).tdiv 4 - (year - 1900).tdiv 100 + (year - 1600).tdiv 400 +
    t.mday - 1
  (((days * 24 + t.hour) * 60 + t.min) * 60 + t.sec).bmod (2 ^ 32)

/-- What follows the seconds and a byte that is not looked at. -/
def milliseconds (tok : Token) : ℤ :=
  if tok.len = 9 then str2int (tok.slice 7 9) * 10
  else if tok.len = 8 then str2int (tok.slice 7 8) * 100
  else if 10 ≤ tok.len then str2int (tok.slice 7 10)
  else 0

/-- The timestamp that is computed from a date and the token of a time. -/
def timestampOf (year mon day : ℤ) (tok : Token) : ℤ :=
  mkgmtime ⟨year - 1900, mon - 1, day, str2int (tok.slice 0 2), str2int (tok.slice 2 4),
    str2int (tok.slice 4 6)⟩ * 1000 + milliseconds tok

/-- `nmea_reader_update_time`, with the return code. -/
def nmeaReaderUpdateTime (r : NmeaData) (tok : Token) : ℤ × NmeaData :=
  if tok.len < 6 then (-1, r)
  else if r.utcYear < 0 then (-1, r)
  else (0, { r with timestamp := timestampOf r.utcYear r.utcMon r.utcDay tok })

def nmeaReaderUpdateCdate (r : NmeaData) (tokD tokM tokY : Token) : ℤ × NmeaData :=
  if tokD.len < 2 ∨ tokM.len < 2 ∨ tokY.len < 4 then (-1, r)
  else
    (0, { r with utcDay := str2int (tokD.slice 0 2), utcMon := str2int (tokM.slice 0 2),
                 utcYear := str2int (tokY.slice 0 4) })

/-- `nmea_reader_update_date`. The bitwise or of the three is negative if one of them is. -/
def nmeaReaderUpdateDate (r : NmeaData) (date time : Token) : ℤ × NmeaData :=
  if date.len ≠ 6 then (-1, r)
  else
    let day := str2int (date.slice 0 2)
    let mon := str2int (date.slice 2 4)
    let year := str2int (date.slice 4 6) + 2000
    if day < 0 ∨ mon < 0 ∨ year < 0 then (-1, r)
    else nmeaReaderUpdateTime { r with utcYear := year, utcMon := mon, utcDay := day } time

/-! ### Satellites -/

/-- A store into `sv_list`, and a shift `1ul << amount` for a satellite number. -/
inductive SvAccess where
  | store (index : ℕ) (prn : ℤ)
  | shift (prn amount : ℤ)
deriving DecidableEq, Repr

/-- The loop over the satellites of a GSA sentence. A shift by a negative amount is undefined;
nothing is said about the mask then. -/
def markUsed (tzer : List Token) : List ℕ → NmeaData → NmeaData × List SvAccess
  | [], r => (r, [])
  | i :: is, r =>
    let prn := str2int (nmeaTokenizerGet tzer i).text
    if 0 < prn then
      let later := markUsed tzer is
        { r with usedInFixMask := r.usedInFixMask ||| 1 <<< (32 - prn).toNat,
                 svStatusChanged := true }
      (later.1, .shift prn (32 - prn) :: later.2)
    else markUsed tzer is r

theorem markUsed_frame (tzer : List Token) (is : List ℕ) (r : NmeaData) :
    ∃ mask changed, (markUsed tzer is r).1 =
      { r with usedInFixMask := mask, svStatusChanged := changed } := by
  induction is generalizing r with
  | nil => exact ⟨r.usedInFixMask, r.svStatusChanged, rfl⟩
  | cons i is ih =>
    rw [markUsed]
    split_ifs with hprn
    · exact ih _
    · exact ih r

def parseGsa (r : NmeaData) (tzer : List Token) : NmeaData × List SvAccess :=
  let fixStatus := (nmeaTokenizerGet tzer 2).first
  if fixStatus ≠ 0 ∧ fixStatus ≠ 49 then
    markUsed tzer (List.range' 3 12) { r with usedInFixMask := 0 }
  else (r, [])

/-- The loop of a GSV sentence, with the rounds that are left of the four. -/
def storeSatellites (tzer : List Token) (noSatellites : ℤ) :
    ℕ → ℕ → ℕ → NmeaData → NmeaData × List SvAccess
  | 0, _, _, r => (r, [])
  | rounds + 1, i, curr, r =>
    if r.numSvs < noSatellites then
      let prn := str2int (nmeaTokenizerGet tzer (i * 4 + 4)).text
      let later := storeSatellites tzer noSatellites rounds (i + 1) (curr + 1)
        { r with numSvs := r.numSvs + 1 }
      (later.1, .store curr prn :: later.2)
    else (r, [])

theorem storeSatellites_frame (tzer : List Token) (n : ℤ) (rounds i curr : ℕ) (r : NmeaData) :
    ∃ count, (storeSatellites tzer n rounds i curr r).1 = { r with numSvs := count } := by
  induction rounds generalizing i curr r with
  | zero => exact ⟨r.numSvs, rfl⟩
  | succ rounds ih =>
    rw [storeSatellites]
    split_ifs with hmore
    · exact ih _ _ _
    · exact ⟨r.numSvs, rfl⟩

def parseGsv (r : NmeaData) (tzer : List Token) : NmeaData × List SvAccess :=
  let noSatellites := str2int (nmeaTokenizerGet tzer 3).text
  if 0 < noSatellites then
    let sentence := str2int (nmeaTokenizerGet tzer 2).text
    let totalSentences := str2int (nmeaTokenizerGet tzer 1).text
    let r := if sentence = 1 then { r with svStatusChanged := false, numSvs := 0 } else r
    let stored := storeSatellites tzer noSatellites 4 0 r.numSvs r
    if sentence = totalSentences then ({ stored.1 with svStatusChanged := true }, stored.2)
    else stored
  else (r, [])

/-! ### Sentences -/

def parseRmc (r : NmeaData) (tzer : List Token) : NmeaData :=
  if (nmeaTokenizerGet tzer 2).first = 65 then
    (nmeaReaderUpdateDate r (nmeaTokenizerGet tzer 9) (nmeaTokenizerGet tzer 1)).2
  else r

/-- The return code of the date is not looked at. -/
def parseZda (r : NmeaData) (tzer : List Token) : NmeaData :=
  if (nmeaTokenizerGet tzer 4).first ≠ 0 ∧ (nmeaTokenizerGet tzer 1).first ≠ 0 then
    let r := (nmeaReaderUpdateCdate r (nmeaTokenizerGet tzer 2) (nmeaTokenizerGet tzer 3)
      (nmeaTokenizerGet tzer 4)).2
    (nmeaReaderUpdateTime r (nmeaTokenizerGet tzer 1)).2
  else r

/-- The tokens and the three letters of the id, if the sentence is long enough for them. -/
def sentenceTokens (sentence : List UInt8) : Option (List Token × List UInt8) :=
  if sentence.length < 9 then none
  else
    let tzer := nmeaTokenizerInit sentence
    let tok := nmeaTokenizerGet tzer 0
    if tok.len < 5 then none else some (tzer, tok.slice 2 5)

/-- `nmea_reader_parse`. GGA, GLL and VTG set floating-point fields only. -/
def nmeaReaderParse (r : NmeaData) (sentence : List UInt8) : NmeaData × List SvAccess :=
  match sentenceTokens sentence with
  | none => (r, [])
  | some (tzer, id) =>
    if id = ascii "GSA" then parseGsa r tzer
    else if id = ascii "GSV" then parseGsv r tzer
    else if id = ascii "RMC" then (parseRmc r tzer, [])
    else if id = ascii "ZDA" then (parseZda r tzer, [])
    else (r, [])

example : nmeaReaderParse nmeaReaderInit (ascii "$GPZDA,160012.71,11,03,2004,-1,00*7D\r\n") =
    (⟨2004, 3, 11, 1079020812710, 0, 0, false⟩, []) := by decide +kernel

end Fw100.Gps
