import Fw100.Request.Contract

/-!
# Radio power, screen state and the card

The three requests that are served while the radio is off.
-/
namespace Fw100.Request
open Library Text Channel Session

variable {env : Environment}

def onRadioPowerOn : RilM Unit := notify .networkStateChanged

def onSIMReady : RilM Unit := do
  let _ ← atSendCommandNull (ascii "AT+CNMI=1,2,2,1,1")
  pure ()

/-- What `setRadioState` does outside of the mutex. -/
def announceState (oldState newState : RadioState) : RilM Unit :=
  if newState = oldState then pure ()
  else do
    notify .radioStateChanged
    if newState = .simReady then onSIMReady
    else if newState = .simNotReady then onRadioPowerOn
    else pure ()

/-- On a closed channel the only reasonable state is `RADIO_STATE_UNAVAILABLE`. -/
def setRadioState (newState : RadioState) : RilM Unit := do
  let ctx ← getCtx
  let state := if ctx.closed then .unavailable else newState
  modifyCtx (fun ctx => { ctx with sState := state })
  announceState ctx.sState state

theorem quiet_announceState (oldState newState : RadioState) :
    Quiet env (announceState oldState newState) := by
  refine .ite (fun _ => .pure trivial) (fun _ => .silent_bind (quiet_notify _) (fun _ _ => ?_))
  refine .ite (fun _ => ?_) (fun _ => .ite (fun _ => quiet_notify _) (fun _ => .pure trivial))
  exact .silent_bind (quiet_atSendCommandNull _) (fun _ _ => .pure trivial)

theorem quiet_setRadioState (newState : RadioState) : Quiet env (setRadioState newState) :=
  .silent_bind quiet_getCtx (fun ctx _ =>
    .silent_bind (quiet_modifyCtx _) (fun _ _ => quiet_announceState ctx.sState _))

theorem announceState_ctx (oldState newState : RadioState) (env : Environment)
    (s : RequestState) : (announceState oldState newState env s).state.ctx = s.ctx := by
  unfold announceState
  split
  · rfl
  · split
    · rfl
    · split <;> rfl

theorem setRadioState_ctx (newState : RadioState) (env : Environment) (s : RequestState) :
    (setRadioState newState env s).state.ctx =
      { s.ctx with sState := if s.ctx.closed then .unavailable else newState } :=
  announceState_ctx _ _ _ _

def vponFields (line : CString) : Option (Bool × Bool) := do
  let cur ← tokStart line
  let (display, cur) ← tokBool cur
  let (ps, _) ← tokBool cur
  pure (display, ps)

/-- The answer is read but the radio is never reported as on. -/
def isRadioOn : RilM ℤ := do
  let (p, line) ← queryLine isNegative (ascii "AT+VPON?") (ascii "+VPON:") none
  atResponseFree p
  pure (if (line.bind vponFields).isSome then 0 else -1)

theorem quiet_isRadioOn : Quiet env isRadioOn :=
  .silent_bind (quiet_queryLine testsZero_isNegative _ _ _) (fun _ _ =>
    .silent_bind (quiet_atResponseFree _) (fun _ _ => .pure trivial))

def requestRadioPower (data : Option ℤ) (datalen : ℕ) (t : Token) : RilM Unit :=
  if datalen < sizeofPointer then Traced.fault .assertion
  else do
    let onOff ← deref data
    let ctx ← getCtx
    if onOff = 0 ∧ ctx.sState ≠ .off then
      let (err, p) ← atSendCommand (ascii "AT+CPOF") none
      if ← succeeded isNegative err p then
        setRadioState .off
        freeThenComplete t .success .null p
      else freeThenComplete t .genericFailure .null p
    else if 0 < onOff ∧ ctx.sState = .off then
      let (err, p) ← atSendCommand (ascii "AT+CPON") none
      if ← succeeded isNegative err p then
        setRadioState .simNotReady
        freeThenComplete t .success .null p
      else
        let on ← isRadioOn
        if on ≠ 1 then freeThenComplete t .genericFailure .null p
        else
          setRadioState .simNotReady
          freeThenComplete t .success .null p
    else freeThenComplete t .success .null none

theorem showsAt_requestRadioPower_iff {s : RequestState} (data : Option ℤ) (datalen : ℕ)
    (t : Token) :
    ShowsAt env s [.completed t] (requestRadioPower data datalen t) (fun _ _ => True) ↔
      sizeofPointer ≤ datalen ∧ data.isSome = true := by
  have hdone : ∀ state p, Completes env t (do
      setRadioState state
      freeThenComplete t .success .null p) := fun state p =>
    .silent_bind (quiet_setRadioState state) (fun _ _ => completes_freeThenComplete _ _ _ _)
  refine showsAt_asserted_iff (fun onOff => ?_)
  refine .silent_bind quiet_getCtx (fun ctx _ => ?_)
  refine .ite (fun _ => ?_) (fun _ => .ite (fun _ => ?_) (fun _ => completes_freeThenComplete _ _ _ _))
  · apply Traced.Observes.silent_bind (shows_atSendCommand _ _)
    rintro ⟨err, p⟩ husable
    refine .silent_bind (shows_succeeded testsZero_isNegative husable) (fun _ _ => ?_)
    exact .ite (fun _ => hdone _ _) (fun _ => completes_freeThenComplete _ _ _ _)
  · apply Traced.Observes.silent_bind (shows_atSendCommand _ _)
    rintro ⟨err, p⟩ husable
    refine .silent_bind (shows_succeeded testsZero_isNegative husable) (fun _ _ => ?_)
    refine .ite (fun _ => hdone _ _) (fun _ => .silent_bind quiet_isRadioOn (fun _ _ => ?_))
    exact .ite (fun _ => completes_freeThenComplete _ _ _ _) (fun _ => hdone _ _)

def sendAll : List CString → RilM Bool
  | [] => pure true
  | command :: commands => do
    let err ← atSendCommandNull command
    if err < 0 then pure false else sendAll commands

theorem quiet_sendAll (commands : List CString) : Quiet env (sendAll commands) := by
  induction commands with
  | nil => exact .pure trivial
  | cons command commands ih =>
    refine .silent_bind (quiet_atSendCommandNull command) (fun err _ => ?_)
    exact .ite (fun _ => .pure trivial) (fun _ => ih)

def screenIsOff : ℤ := 0

def screenIsOn : ℤ := 1

def requestScreenState (data : Option ℤ) (datalen : ℕ) (t : Token) : RilM Unit :=
  if datalen < sizeofPointer then Traced.fault .assertion
  else do
    let screenState ← deref data
    if screenState = 1 then
      let ok ← sendAll
        [ascii "AT+ARSI=1,4", ascii "AT+CREG=1", ascii "AT+VMCCMNC=1", ascii "AT+VSER=1"]
      if ok then
        notify .networkStateChanged
        modifyCtx (fun ctx => { ctx with screenState := screenIsOn })
        complete t .success .null
      else complete t .genericFailure .null
    else if screenState = 0 then
      let ok ← sendAll
        [ascii "AT+ARSI=0,4", ascii "AT+CREG=0", ascii "AT+VMCCMNC=0", ascii "AT+VSER=0"]
      if ok then
        modifyCtx (fun ctx => { ctx with screenState := screenIsOff })
        complete t .success .null
      else complete t .genericFailure .null
    else complete t .genericFailure .null

theorem showsAt_requestScreenState_iff {s : RequestState} (data : Option ℤ) (datalen : ℕ)
    (t : Token) :
    ShowsAt env s [.completed t] (requestScreenState data datalen t) (fun _ _ => True) ↔
      sizeofPointer ≤ datalen ∧ data.isSome = true := by
  refine showsAt_asserted_iff (fun screenState => ?_)
  refine .ite (fun _ => ?_) (fun _ => .ite (fun _ => ?_) (fun _ => completes_complete _ _ _))
  · refine .silent_bind (quiet_sendAll _) (fun _ _ => ?_)
    refine .ite (fun _ => ?_) (fun _ => completes_complete _ _ _)
    refine .silent_bind (quiet_notify _) (fun _ _ => ?_)
    exact .silent_bind (quiet_modifyCtx _) (fun _ _ => completes_complete _ _ _)
  · refine .silent_bind (quiet_sendAll _) (fun _ _ => ?_)
    refine .ite (fun _ => ?_) (fun _ => completes_complete _ _ _)
    exact .silent_bind (quiet_modifyCtx _) (fun _ _ => completes_complete _ _ _)

/-- `getSIMStatus` returns before it asks the modem: there is no card to ask about. -/
def getSIMStatus : SimStatus := .ready

def appStatusArray : SimStatus → AppStatus
  | .absent => ⟨.unknown, .unknown, .unknown, .unknown, .unknown⟩
  | .notReady => ⟨.sim, .detected, .unknown, .unknown, .unknown⟩
  | .ready => ⟨.sim, .ready, .ready, .unknown, .unknown⟩
  | .pin => ⟨.sim, .pin, .unknown, .enabledNotVerified, .unknown⟩
  | .puk => ⟨.sim, .puk, .unknown, .enabledBlocked, .unknown⟩
  | .networkPersonalization => ⟨.sim, .subscriptionPerso, .simNetwork, .enabledNotVerified, .unknown⟩

def rilCardMaxApps : ℕ := 8

def getCardStatus : CardStatus :=
  let empty := List.replicate rilCardMaxApps (appStatusArray .absent)
  if getSIMStatus = .absent then ⟨false, .unknown, rilCardMaxApps, rilCardMaxApps, 0, empty⟩
  else ⟨true, .unknown, 0, rilCardMaxApps, 1, empty.set 0 (appStatusArray getSIMStatus)⟩

end Fw100.Request
