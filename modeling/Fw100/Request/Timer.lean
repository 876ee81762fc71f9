import Fw100.Session.Gps
import Fw100.Request.Device

/-!
# The modem timer

`fw100ModemTimer` polls the modem every ten seconds while the screen is on. The last line of
each poll is kept in a static array, and an unchanged line ends the poll early.
-/
namespace Fw100.Request
open Library Text Channel Session

/-- `pollSavedCSQ` and `pollSavedCREG`. -/
structure PollSaved where
  csq : CharArray 64
  creg : CharArray 64
deriving DecidableEq, Repr

def PollSaved.initial : PollSaved := ⟨.zero 64, .zero 64⟩

/-- `strncmp` over as much of the line as the array can hold. -/
def unchanged (saved : CharArray 64) (line : CString) : Bool :=
  let max := min line.length 64
  saved.1.take max == line.take max

/-- The poll's response is freed unless the line is the one that was saved. -/
def pollSignalStrength (saved : CharArray 64) : RilM (CharArray 64) := do
  let (p, line) ← queryLine isNegative (ascii "AT+CSQ") (ascii "+CSQ:") none
  match line with
  | none => do
    atResponseFree p
    pure saved
  | some line =>
    if unchanged saved line then pure saved
    else
      match csqFields line with
      | none => do
        atResponseFree p
        pure (.copy 64 line)
      | some (rssi, ber) => do
        notify (.signalStrength [rssi, ber, 0, 0, 0, 0, 0])
        atResponseFree p
        pure (.copy 64 line)

/-- The same for the registration, whose notification carries no data. -/
def pollNetworkRegistration (saved : CharArray 64) : RilM (CharArray 64) := do
  let (p, line) ← queryLine isNonzero (ascii "AT+CREG?") (ascii "+CREG:") none
  match line with
  | none => do
    atResponseFree p
    pure saved
  | some line =>
    if unchanged saved line then pure saved
    else do
      notify .networkStateChanged
      atResponseFree p
      pure (.copy 64 line)

/-- The test sentences of `GPS_TEST_NMEA`. -/
def writeTestSentences : RilM Unit := do
  let ctx ← getCtx
  if ctx.gpsFifoEnable then Traced.emit (.writeGPSFifo gpsTestGpgll)
  if ctx.gpsTtyEnable then Traced.emit (.writeGPSTty gpsTestGpgsa)

def fw100ModemTimer (saved : PollSaved) : RilM PollSaved := do
  let csq ← pollSignalStrength saved.csq
  let creg ← pollNetworkRegistration saved.creg
  writeTestSentences
  pure ⟨csq, creg⟩

end Fw100.Request
