import Fw100.Request.Radio
import Fw100.Request.Network
import Fw100.Request.Device
import Fw100.Request.Message
import Fw100.Request.DataCall

/-!
# Serving a request

`onRequest`, with the gate that a radio that is off closes to most requests, and the exact
condition under which it completes a request once.
-/
namespace Fw100.Request
open Library Text Channel Session

variable {env : Environment}

/-- The six requests that `requestEnterSimPin` serves. -/
inductive PinRequest where
  | enterSimPin
  | enterSimPuk
  | enterSimPin2
  | enterSimPuk2
  | changeSimPin
  | changeSimPin2
deriving DecidableEq, Repr

/-- The request codes with the payload that each handler reads: `none` is a `NULL`, and `datalen`
is there where the handler looks at it. `other` is every code that the `switch` does not name. -/
inductive RilRequest where
  | getSimStatus
  | getCurrentCalls
  | screenState (data : Option ℤ) (datalen : ℕ)
  | dial (data : Option Dial)
  | hangup (data : Option ℤ)
  | hangupWaitingOrBackground
  | hangupForegroundResumeBackground
  | switchWaitingOrHoldingAndActive
  | answer
  | conference
  | udub
  | separateConnection (data : Option ℤ)
  | signalStrength
  | registration (request : RegistrationRequest)
  | operator
  | radioPower (data : Option ℤ) (datalen : ℕ)
  | dtmf (data : Option UInt8)
  | sendSms (data : Option SmsArgs)
  | setupDataCall
  | deactivateDataCall
  | lastDataCallFailCause
  | smsAcknowledge (data : Option ℤ)
  | getIMSI
  | basebandVersion
  | getIMEI
  | setPreferredNetworkType (data : Option ℤ)
  | getPreferredNetworkType
  | simIo (data : Option SimIo)
  | sendUSSD
  | cancelUSSD
  | queryNetworkSelectionMode
  | setNetworkSelectionAutomatic
  | setNetworkSelectionManual
  | queryAvailableNetworks
  | dataCallList
  | oemHookRaw (data : Option (List UInt8))
  | oemHookStrings (data : Option (List (Option CString))) (datalen : ℕ)
  | writeSmsToSim (data : Option SmsWriteArgs)
  | deleteSmsOnSim (data : Option ℤ)
  | enterSimPin (request : PinRequest) (data : Option (List (Option CString))) (datalen : ℕ)
  | other (code : ℤ)
deriving DecidableEq, Repr

/-- The requests that are served when the radio is off. -/
def RilRequest.servedWhenOff : RilRequest → Bool
  | .radioPower _ _ => true
  | .getSimStatus => true
  | .screenState _ _ => true
  | _ => false

def echoStrings (data : Option (List (Option CString))) (datalen : ℕ) (t : Token) : RilM Unit := do
  let strings ← derefStrings data (datalen / sizeofPointer)
  complete t .success (.strings strings)

def handle (t : Token) : RilRequest → RilM Unit
  | .getSimStatus => complete t .success (.cardStatus getCardStatus)
  | .getCurrentCalls => requestGetCurrentCallsEVDO t
  | .screenState data datalen => requestScreenState data datalen t
  | .dial data => requestDial data t
  | .hangup data => requestHangup data t
  | .hangupWaitingOrBackground => fireAndForget (ascii "AT+CHLD=0") t
  | .hangupForegroundResumeBackground => fireAndForget (ascii "AT+CHLD=1") t
  | .switchWaitingOrHoldingAndActive => fireAndForget (ascii "AT+CHLD=2") t
  | .answer => fireAndForget (ascii "ATA") t
  | .conference => fireAndForget (ascii "AT+CHLD=3") t
  | .udub => fireAndForget (ascii "ATH") t
  | .separateConnection data => requestSeparateConnection data t
  | .signalStrength => requestSignalStrength t
  | .registration request => requestRegistrationStateEVDO request t
  | .operator => requestOperator t
  | .radioPower data datalen => requestRadioPower data datalen t
  | .dtmf data => requestDtmf data t
  | .sendSms data => requestSendSMSEVDO data t
  | .setupDataCall => requestSetupDataCallEVDO t
  | .deactivateDataCall => requestDeactivateDataCallEVDO t
  | .lastDataCallFailCause => requestDataCallFailCause t
  | .smsAcknowledge data => requestSMSAcknowledge data t
  | .getIMSI => requestGetIMSI t
  | .basebandVersion => requestBasebandVersion t
  | .getIMEI => requestGetIMEI t
  | .setPreferredNetworkType data => requestSetPreferredNetworkType data t
  | .getPreferredNetworkType => requestGetPreferredNetworkType t
  | .simIo data => requestSimIo data t
  | .sendUSSD => requestSendUSSD t
  | .cancelUSSD => requestCancelUSSD t
  | .queryNetworkSelectionMode => requestQueryNetworkSelectionMode t
  | .setNetworkSelectionAutomatic => setNetworkSelection (ascii "AT+COPS=0") 0 t
  | .setNetworkSelectionManual => setNetworkSelection (ascii "AT+COPS=1") 1 t
  | .queryAvailableNetworks => requestQueryAvailableNetworks t
  | .dataCallList => requestDataCallList t
  | .oemHookRaw data => complete t .success (.raw data)
  | .oemHookStrings data datalen => echoStrings data datalen t
  | .writeSmsToSim data => requestWriteSmsToSim data t
  | .deleteSmsOnSim data => requestDeleteSmsOnSim data t
  | .enterSimPin _ data datalen => requestEnterSimPin data datalen t
  | .other _ => complete t .radioNotAvailable .null

def onRequest (request : RilRequest) (t : Token) : RilM Unit := do
  let ctx ← getCtx
  if ctx.sState = .off ∧ request.servedWhenOff = false then complete t .radioNotAvailable .null
  else handle t request

/-- With the radio off the gate answers. -/
theorem onRequest_gated {s : RequestState} (hoff : s.ctx.sState = .off) {request : RilRequest}
    (hserved : request.servedWhenOff = false) (t : Token) :
    onRequest request t env s = complete t .radioNotAvailable .null env s := by
  rw [onRequest, Traced.bind_eq (show getCtx env s = ⟨.ok s.ctx, s, []⟩ from rfl),
    if_pos ⟨hoff, hserved⟩]
  rfl

theorem onRequest_open {s : RequestState} (hon : s.ctx.sState ≠ .off) (request : RilRequest)
    (t : Token) : onRequest request t env s = handle t request env s := by
  rw [onRequest, Traced.bind_eq (show getCtx env s = ⟨.ok s.ctx, s, []⟩ from rfl),
    if_neg (fun h => hon h.1)]
  rfl

def serve (env : Environment) (ctx : SessionCtx) (request : RilRequest) (t : Token) :
    Result Event Fault RequestState Unit :=
  onRequest request t env ⟨ctx, 0⟩

def Event.completion : Event → Option (Token × RilErrno)
  | .complete t e _ => some (t, e)
  | _ => none

def Event.overran : Event → Option FixedBuffer
  | .overrun buffer => some buffer
  | _ => none

def completions (events : List Event) : List (Token × RilErrno) := events.filterMap Event.completion

def overruns (events : List Event) : List FixedBuffer := events.filterMap Event.overran

/-- The call returns, writes past no array and completes the token exactly once. -/
def CompletesOnce (run : Result Event Fault RequestState Unit) (t : Token) : Prop :=
  run.value = .ok () ∧ overruns run.events = [] ∧ ∃ e, completions run.events = [(t, e)]

/-- What each handler needs in order to complete its request once. -/
def Served (env : Environment) (ctx : SessionCtx) : RilRequest → Prop
  | .screenState data datalen => sizeofPointer ≤ datalen ∧ data.isSome = true
  | .radioPower data datalen => sizeofPointer ≤ datalen ∧ data.isSome = true
  | .dial data => data.isSome = true
  | .hangup data => data.isSome = true
  | .separateConnection data => data.isSome = true
  | .dtmf data => data.isSome = true
  | .setPreferredNetworkType data => data.isSome = true
  | .simIo data => data.isSome = true
  | .deleteSmsOnSim data => data.isSome = true
  | .writeSmsToSim data => ∃ args, data = some args ∧ args.pdu.isSome = true
  | .oemHookStrings data datalen => datalen / sizeofPointer ≤ (data.getD []).length
  | .enterSimPin _ data datalen => pinCount datalen ≤ (data.getD []).length
  | .signalStrength =>
    (replyLine (ascii "AT+CSQ") (ascii "+CSQ:") (env.replies 0)).isSome = true
  | .operator => MccmncFits env 0 ∧ OptnameFits env 0
  | .queryAvailableNetworks => MccmncFits env 0
  | .getIMSI => MccmncFits env 0 ∧ ImsiFits env 0
  | .sendSms data => ∃ args, data = some args ∧ args.Fits
  | .setupDataCall => SetupFits env ctx
  | .smsAcknowledge data => ∃ ackSuccess, data = some ackSuccess ∧ ackSuccess ≠ 0 ∧ ackSuccess ≠ 1
  | .dataCallList => False
  | _ => True

theorem showsAt_handle_iff (ctx : SessionCtx) (request : RilRequest) (t : Token) :
    ShowsAt env ⟨ctx, 0⟩ [.completed t] (handle t request) (fun _ _ => True) ↔
      Served env ctx request := by
  have htrue : ∀ {m : RilM Unit}, Completes env t m →
      (ShowsAt env ⟨ctx, 0⟩ [.completed t] m (fun _ _ => True) ↔ True) :=
    fun h => iff_true_intro (h _)
  cases request with
  | getSimStatus => exact htrue (completes_complete _ _ _)
  | getCurrentCalls => exact htrue (completes_requestGetCurrentCallsEVDO t)
  | screenState data datalen => exact showsAt_requestScreenState_iff data datalen t
  | radioPower data datalen => exact showsAt_requestRadioPower_iff data datalen t
  | dial data => exact showsAt_deref_iff (fun _ => completes_fireAndForget _ t)
  | hangup data => exact showsAt_deref_iff (fun _ => completes_fireAndForget _ t)
  | hangupWaitingOrBackground => exact htrue (completes_fireAndForget _ t)
  | hangupForegroundResumeBackground => exact htrue (completes_fireAndForget _ t)
  | switchWaitingOrHoldingAndActive => exact htrue (completes_fireAndForget _ t)
  | answer => exact htrue (completes_fireAndForget _ t)
  | conference => exact htrue (completes_fireAndForget _ t)
  | udub => exact htrue (completes_fireAndForget _ t)
  | separateConnection data => exact showsAt_requestSeparateConnection_iff data t
  | signalStrength => exact showsAt_requestSignalStrength_iff t
  | registration request => exact htrue (completes_requestRegistrationStateEVDO request t)
  | operator => exact showsAt_requestOperator_iff t
  | dtmf data => exact showsAt_deref_iff (fun _ => completes_fireAndForget _ t)
  | sendSms data => exact showsAt_requestSendSMSEVDO_iff data t
  | setupDataCall => exact showsAt_requestSetupDataCallEVDO_iff t
  | deactivateDataCall => exact htrue (completes_requestDeactivateDataCallEVDO t)
  | lastDataCallFailCause => exact htrue (completes_complete _ _ _)
  | smsAcknowledge data => exact showsAt_requestSMSAcknowledge_iff data t
  | getIMSI => exact showsAt_requestGetIMSI_iff t
  | basebandVersion => exact htrue (completes_requestBasebandVersion t)
  | getIMEI => exact htrue (completes_requestGetIMEI t)
  | setPreferredNetworkType data => exact showsAt_requestSetPreferredNetworkType_iff data t
  | getPreferredNetworkType => exact htrue (completes_requestGetPreferredNetworkType t)
  | simIo data => exact showsAt_requestSimIo_iff data t
  | sendUSSD => exact htrue (completes_complete _ _ _)
  | cancelUSSD => exact htrue (completes_requestCancelUSSD t)
  | queryNetworkSelectionMode => exact htrue (completes_requestQueryNetworkSelectionMode t)
  | setNetworkSelectionAutomatic => exact htrue (completes_setNetworkSelection _ _ t)
  | setNetworkSelectionManual => exact htrue (completes_setNetworkSelection _ _ t)
  | queryAvailableNetworks => exact showsAt_requestQueryAvailableNetworks_iff t
  | dataCallList => exact iff_of_false (not_showsAt_requestDataCallList t) id
  | oemHookRaw data => exact htrue (completes_complete _ _ _)
  | oemHookStrings data datalen =>
    exact showsAt_derefStrings_iff (fun _ => completes_complete _ _ _)
  | writeSmsToSim data => exact showsAt_requestWriteSmsToSim_iff data t
  | deleteSmsOnSim data => exact showsAt_requestDeleteSmsOnSim_iff data t
  | enterSimPin request data datalen => exact showsAt_requestEnterSimPin_iff data datalen t
  | other code => exact htrue (completes_complete _ _ _)

theorem Event.mark_cases (event : Event) :
    (event.mark = none ∧ event.overran = none ∧ event.completion = none) ∨
      (∃ t e, event.mark = some (.completed t) ∧ event.overran = none ∧
        event.completion = some (t, e)) ∨
      ∃ buffer, event.mark = some (.overran buffer) ∧ event.overran = some buffer := by
  cases event with
  | complete t e data => exact .inr (.inl ⟨t, e, rfl, rfl, rfl⟩)
  | overrun buffer => exact .inr (.inr ⟨buffer, rfl, rfl⟩)
  | _ => exact .inl ⟨rfl, rfl, rfl⟩

theorem marks_eq_nil_iff (events : List Event) :
    events.filterMap Event.mark = [] ↔ overruns events = [] ∧ completions events = [] := by
  unfold overruns completions
  induction events with
  | nil => simp
  | cons event events ih =>
    rcases event.mark_cases with ⟨hm, ho, hc⟩ | ⟨t, e, hm, ho, hc⟩ | ⟨buffer, hm, ho⟩
    · rw [List.filterMap_cons_none hm, List.filterMap_cons_none ho, List.filterMap_cons_none hc, ih]
    · rw [List.filterMap_cons_some hm, List.filterMap_cons_some hc]
      simp
    · rw [List.filterMap_cons_some hm, List.filterMap_cons_some ho]
      simp

/-- A single completion and no overrun, as the marks show it. -/
theorem marks_eq_completed_iff (events : List Event) (t : Token) :
    events.filterMap Event.mark = [.completed t] ↔
      overruns events = [] ∧ ∃ e, completions events = [(t, e)] := by
  induction events with
  | nil => simp [completions]
  | cons event events ih =>
    have hnil := marks_eq_nil_iff events
    unfold overruns completions at ih hnil ⊢
    rcases event.mark_cases with ⟨hm, ho, hc⟩ | ⟨t', e, hm, ho, hc⟩ | ⟨buffer, hm, ho⟩
    · rw [List.filterMap_cons_none hm, List.filterMap_cons_none ho, List.filterMap_cons_none hc, ih]
    · rw [List.filterMap_cons_some hm, List.filterMap_cons_none ho, List.filterMap_cons_some hc,
        List.cons_eq_cons, hnil]
      simp only [Mark.completed.injEq, List.cons.injEq, Prod.mk.injEq]
      constructor
      · rintro ⟨rfl, ho', hc'⟩
        exact ⟨ho', e, ⟨rfl, rfl⟩, hc'⟩
      · rintro ⟨ho', _, ⟨rfl, rfl⟩, hc'⟩
        exact ⟨rfl, ho', hc'⟩
    · rw [List.filterMap_cons_some hm, List.filterMap_cons_some ho]
      simp

theorem completesOnce_iff (env : Environment) (ctx : SessionCtx) (request : RilRequest)
    (t : Token) :
    CompletesOnce (serve env ctx request t) t ↔
      ShowsAt env ⟨ctx, 0⟩ [.completed t] (onRequest request t) (fun _ _ => True) := by
  simp only [CompletesOnce, serve, ShowsAt, Traced.Ends, marks_eq_completed_iff, and_true]
  constructor
  · exact fun h => ⟨(), h⟩
  · rintro ⟨⟨⟩, h⟩
    exact h

/-- The session after the radio was turned on. -/
def radioOnCtx : SessionCtx :=
  { initSessionContext (some (ascii "ttyUSB0")) 0 with sState := .simNotReady }

end Fw100.Request
