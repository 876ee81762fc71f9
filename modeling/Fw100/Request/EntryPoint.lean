import Fw100.Channel.System
import Fw100.Request.Dispatch
import Fw100.Request.Timer
import Fw100.Request.Activation

/-!
# Where the driver is entered

The event loop of the RIL daemon calls `initializeCallback` after the channel was opened, and
`onRequest` for every request. The driver's own thread calls `activateHelper` and the timer.
-/
namespace Fw100.Request
open Library Text Channel Session

def handshakeTries : ℕ → ℤ → RilM ℤ
  | 0, err => pure err
  | tries + 1, _ => do
    let err ← atSendCommandNull (ascii "ATE0Q0V1")
    if err = 0 then pure err else handshakeTries tries err

def atHandshake : RilM ℤ := handshakeTries handshakeRetryCount 0

def sendEach : List CString → RilM Unit
  | [] => pure ()
  | command :: commands => do
    let _ ← atSendCommandNull command
    sendEach commands

def atcommandInit : RilM Unit := do
  sendEach [ascii "ATE0Q0V1", ascii "ATS0=0", ascii "AT+CMEE=1"]
  let (_, p) ← atSendCommand (ascii "AT+CREG=1") none
  atResponseFree p
  sendEach [ascii "AT+VMCCMNC=0", ascii "AT+ARSI=1,4", ascii "AT+CMGF=0", ascii "AT^MEID",
    ascii "AT+VMDN?", ascii "AT^HDRCSQ", ascii "AT^SYSINFO", ascii "AT+CSNID?"]
  let ctx ← getCtx
  if ctx.gpsFifoEnable || ctx.gpsTtyEnable then
    sendEach [ascii "AT^GPSLOC=0", ascii "AT^GPSMODE=1", ascii "AT^GPSQOS=1,255",
      ascii "AT^GPSLOC=1,1"]
  else pure ()

/-- The radio is assumed to be off when `isRadioOn` fails. -/
def initializeCallback : RilM Unit := do
  setRadioState .off
  let _ ← atHandshake
  atcommandInit
  let on ← isRadioOn
  if 0 < on then setRadioState .simNotReady else pure ()

/-- The calls that the event loop makes, one after the other. -/
inductive DispatchCall where
  | init
  | request (r : RilRequest) (t : Token)

def DispatchCall.call : DispatchCall → RilM Unit
  | .init => initializeCallback
  | .request r t => onRequest r t

/-- The calls of `mainLoop`, on a thread of its own. -/
inductive MainLoopCall where
  | modemTimer (saved : PollSaved)
  | activateHelper (reader : ReaderThread)

def MainLoopCall.call : MainLoopCall → RilM Unit
  | .modemTimer saved => do
    let _ ← fw100ModemTimer saved
    pure ()
  | .activateHelper reader => do
    let _ ← Request.activateHelper reader
    pure ()

inductive EntryPoint where
  | dispatched (c : DispatchCall)
  | mainLoop (c : MainLoopCall)

def EntryPoint.call : EntryPoint → RilM Unit
  | .dispatched c => c.call
  | .mainLoop c => c.call

end Fw100.Request
