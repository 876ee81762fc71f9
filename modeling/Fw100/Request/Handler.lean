import Fw100.Library.Traced
import Fw100.Channel.Reply
import Fw100.Session.Context

/-!
# What request handlers are made of

A handler reads what its environment holds, changes the session context and emits events:
completions, notifications, commands, and the responses it obtains and releases. It faults
where the source follows a bad pointer or fails an assertion. A store past the end of a
fixed buffer is an event too, since the source goes on after it.
-/
namespace Fw100.Request
open Library Text Channel Session

inductive RilErrno where
  | success
  | radioNotAvailable
  | genericFailure
  | passwordIncorrect
  | requestNotSupported
deriving DecidableEq, Repr

inductive SimStatus where
  | absent
  | notReady
  | ready
  | pin
  | puk
  | networkPersonalization
deriving DecidableEq, Repr

inductive AppType where
  | unknown
  | sim
deriving DecidableEq, Repr

inductive AppState where
  | unknown
  | detected
  | pin
  | puk
  | subscriptionPerso
  | ready
deriving DecidableEq, Repr

inductive PersoSubstate where
  | unknown
  | ready
  | simNetwork
deriving DecidableEq, Repr

inductive PinState where
  | unknown
  | enabledNotVerified
  | enabledBlocked
deriving DecidableEq, Repr

/-- `RIL_AppStatus`, whose identifiers the driver leaves `NULL`. -/
structure AppStatus where
  appType : AppType
  appState : AppState
  persoSubstate : PersoSubstate
  pin1 : PinState
  pin2 : PinState
deriving DecidableEq, Repr

structure CardStatus where
  present : Bool
  universalPinState : PinState
  gsmUmtsSubscriptionAppIndex : ℕ
  cdmaSubscriptionAppIndex : ℕ
  numApplications : ℕ
  applications : List AppStatus
deriving DecidableEq, Repr

inductive CallState where
  | active
  | holding
  | dialing
  | alerting
  | incoming
  | waiting
deriving DecidableEq, Repr

structure RilCall where
  state : CallState
  index : ℤ
  toa : ℤ
  isMpty : Bool
  isMT : Bool
  isVoice : Bool
  number : Option CString
deriving DecidableEq, Repr

structure DataCallResponse where
  cid : ℤ
  active : ℤ
  type : Option CString
  apn : Option CString
  address : Option CString
deriving DecidableEq, Repr

structure RegistrationResponse where
  registerState : Option CString
  lac : Option CString
  cid : Option CString
  radioTechnology : Option CString
  basestationId : Option CString
  basestationLatitude : Option CString
  basestationLongitude : Option CString
  concurrentService : Option CString
  systemId : Option CString
  networkId : Option CString
  roamingIndicator : Option CString
  prlState : Option CString
  prlRoamingIndicator : Option CString
  denyReason : Option CString
  priScrambleCode : Option CString
deriving DecidableEq, Repr

/-- What a completion points its receiver at. -/
inductive ResponseData where
  | null
  | int (n : ℤ)
  | signalStrength (values : List ℤ)
  | string (s : CString)
  | strings (l : List (Option CString))
  | raw (bytes : Option (List UInt8))
  | cardStatus (c : CardStatus)
  | registration (r : RegistrationResponse)
  | simIo (sw1 sw2 : ℤ) (simResponse : Option CString)
  | smsResponse
  | calls (l : List RilCall)
  | dataCall (r : DataCallResponse)
deriving DecidableEq, Repr

abbrev Token := ℕ

/-- The arrays of fixed size that a handler can write past. -/
inductive FixedBuffer where
  | mccmnc
  | imsiResponse
  | smsPdu
  | smsLog
  | pppdCommand
  | dns
  | dnsList
  | meid
  | displayOptname
deriving DecidableEq, Repr

inductive Event where
  | complete (t : Token) (e : RilErrno) (data : ResponseData)
  | notify (n : Notification)
  | command (s : CString)
  | smsCommand (s pdu : CString)
  | obtained (id : ℕ)
  | released (id : ℕ)
  | overrun (buffer : FixedBuffer)
  | wroteStatus (lines : List CString)
  | system (command : CString)
  | killed (pid : ℤ)
  | writeGPSFifo (sentence : CString)
  | writeGPSTty (sentence : CString)
deriving DecidableEq, Repr

inductive Fault where
  | nullPointer
  | wildPointer
  | assertion
deriving DecidableEq, Repr

/-- Everything outside the driver that one request meets. -/
structure Environment where
  /-- How the commands end, in the order in which they are sent. -/
  replies : ℕ → Reply
  /-- What the uninitialised `mnctoken` points at, if it can be read. -/
  mnctoken : Option CString
  /-- The text that the dead frame of `getNetworkInfo` holds where `mccmnc` was. -/
  deadMccmnc : CString
  /-- The bytes behind the terminator of a bare `+GMR:` line. -/
  behindLine : CString
  systemResult : ℤ
  ifcInitFails : Bool
  /-- Address, mask and flags at each try of `ifc_get_info`. -/
  ifcInfo : ℕ → Option (UInt32 × UInt32 × UInt32)
  defaultRoute : UInt32
  dns1 : CString
  dns2 : CString
  displayOptname : CString
  /-- What `findPidByName` finds for `pppd`. -/
  pppdPid : ℤ

def Environment.terse : Environment where
  replies _ := .answered [ascii "OK"] (by decide)
  mnctoken := none
  deadMccmnc := []
  behindLine := []
  systemResult := 0
  ifcInitFails := true
  ifcInfo _ := none
  defaultRoute := 0
  dns1 := ascii "0"
  dns2 := ascii "0"
  displayOptname := ascii "0"
  pppdPid := -1

structure RequestState where
  ctx : SessionCtx
  sent : ℕ

abbrev RilM := Traced Environment Event Fault RequestState

structure Held where
  id : ℕ
  response : ATResponse
deriving DecidableEq, Repr

/-- An `ATResponse *`. -/
abbrev Pointer := Option Held

def complete (t : Token) (e : RilErrno) (data : ResponseData) : RilM Unit :=
  Traced.emit (.complete t e data)

def notify (n : Notification) : RilM Unit := Traced.emit (.notify n)

def getCtx : RilM SessionCtx := do
  let s ← Traced.current
  pure s.ctx

def modifyCtx (f : SessionCtx → SessionCtx) : RilM Unit :=
  Traced.update (fun s => { s with ctx := f s.ctx })

/-- `*data`: the handlers follow the pointer without a test. -/
def deref {α : Type} : Option α → RilM α
  | none => Traced.fault .nullPointer
  | some a => pure a

theorem deref_bind {α β : Type} {a : α} {f : α → RilM β} : deref (some a) >>= f = f a := by
  funext env s
  exact Traced.bind_eq (show deref (some a) env s = ⟨.ok a, s, []⟩ from rfl)

def sizeofPointer : ℕ := 4

def derefStrings (data : Option (List (Option CString))) (n : ℕ) : RilM (List (Option CString)) :=
  if n = 0 then pure []
  else do
    let strings ← deref data
    if n ≤ strings.length then pure (strings.take n) else Traced.fault .wildPointer

/-- `*pp_outResponse` after the command with this number. -/
def Pointer.store (p : Pointer) (id : ℕ) : OutParam → Pointer
  | .untouched => p
  | .null => none
  | .response r => some ⟨id, r⟩

def commandEvent (call : Call) : Event :=
  match call.smspdu with
  | none => .command call.command
  | some pdu => .smsCommand call.command pdu

def obtainedEvent (id : ℕ) : OutParam → List Event
  | .response _ => [.obtained id]
  | _ => []

/-- One command: `result` is what the wrapper makes of the way it ends. -/
def send (result : Call → Reply → ℤ × OutParam) (call : Call) (p : Pointer) :
    RilM (ℤ × Pointer) := fun env s =>
  let (err, out) := result call (env.replies s.sent)
  ⟨.ok (err, p.store s.sent out), { s with sent := s.sent + 1 },
    commandEvent call :: obtainedEvent s.sent out⟩

def unchecked (call : Call) (reply : Reply) : ℤ × OutParam := reply.result call

def checked (call : Call) (reply : Reply) : ℤ × OutParam :=
  Reply.checkIntermediate (reply.result call)

def atSendCommand (command : CString) : Pointer → RilM (ℤ × Pointer) :=
  send unchecked (.plain command true)

def atSendCommandNull (command : CString) : RilM ℤ := do
  let (err, _) ← send unchecked (.plain command false) none
  pure err

def atSendCommandSingleline (command responsePrefix : CString) : Pointer → RilM (ℤ × Pointer) :=
  send checked (.singleline command responsePrefix true)

def atSendCommandNumeric (command : CString) : Pointer → RilM (ℤ × Pointer) :=
  send checked (.numeric command true)

def atSendCommandSms (command pdu responsePrefix : CString) : Pointer → RilM (ℤ × Pointer) :=
  send checked (.sms command pdu responsePrefix true)

def atSendCommandMultiline (command responsePrefix : CString) : Pointer → RilM (ℤ × Pointer) :=
  send unchecked (.multiline command responsePrefix true)

def atResponseFree : Pointer → RilM Unit
  | none => pure ()
  | some held => Traced.emit (.released held.id)

def completeThenFree (t : Token) (e : RilErrno) (data : ResponseData) (p : Pointer) : RilM Unit := do
  complete t e data
  atResponseFree p

def freeThenComplete (t : Token) (e : RilErrno) (data : ResponseData) (p : Pointer) : RilM Unit := do
  atResponseFree p
  complete t e data

def isNegative (err : ℤ) : Bool := err < 0

def isNonzero (err : ℤ) : Bool := err ≠ 0

def succeeded (failed : ℤ → Bool) (err : ℤ) : Pointer → RilM Bool
  | none => if failed err then pure false else Traced.fault .nullPointer
  | some held => pure (!failed err && held.response.success)

/-- `p_response->p_intermediates->line`. -/
def firstIntermediate : Pointer → RilM CString
  | none => Traced.fault .nullPointer
  | some held =>
    match held.response.intermediates with
    | [] => Traced.fault .nullPointer
    | line :: _ => pure line

/-- The test of a result and the line behind it: `none` where the source goes to its error
label. -/
def readReply (failed : ℤ → Bool) (err : ℤ) (p : Pointer) : RilM (Pointer × Option CString) := do
  if ← succeeded failed err p then
    let line ← firstIntermediate p
    pure (p, some line)
  else pure (p, none)

def queryLine (failed : ℤ → Bool) (command responsePrefix : CString) (p : Pointer) :
    RilM (Pointer × Option CString) := do
  let (err, p) ← atSendCommandSingleline command responsePrefix p
  readReply failed err p

/-- A string with its terminator is written into an array of `size` bytes. -/
def storeString (buffer : FixedBuffer) (size : ℕ) (s : CString) : RilM Unit :=
  if s.length < size then pure () else Traced.emit (.overrun buffer)

/-- `at_tok_start` on a line that was received. -/
def tokStart (line : CString) : Option Cursor :=
  let (err, cur) := atTokStart (some line)
  if err < 0 then none else some cur

def tokInt (cur : Cursor) : Option (ℤ × Cursor) := (atTokNextint cur).ok

def tokBool (cur : Cursor) : Option (Bool × Cursor) := (atTokNextbool cur).ok

/-- `at_tok_nextstr`, which stores no `NULL` when it reports success. -/
def tokStr (cur : Cursor) : Option (CString × Cursor) :=
  match (atTokNextstr cur).ok with
  | some (some s, cur) => some (s, cur)
  | _ => none

def decimal (n : ℤ) : CString := ascii (toString n)

/-- `%s`, which prints a `NULL` argument too. -/
def printString (s : Option CString) : CString := s.getD (ascii "(null)")

def strToUpper (s : CString) : CString := s.map toUpper

/-- The trimming of a leading `0x`. -/
def trimHexMark (s : CString) : CString :=
  if s.head? = some 48 ∧ s[1]? = some 120 then s.drop 2 else s

end Fw100.Request
