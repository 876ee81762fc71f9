import Fw100.Telephony.PollMoves

/-!
# The handlers, put together

A predicate of programs that sequences and tests keep, and that holds of the parts which the
handlers share, holds of the handlers. What the connection answers and what a ping leads to is
left out here, and so is what changes the restriction and the requested type: those messages
matter to each predicate in their own way.
-/
namespace Fw100.Telephony.Polled
open Library
open Traced (emit environment current update fault)

/-- What the predicates may depend on. -/
def PolledTracker.core (s : PolledTracker) :
    PollPart × State × Option (List ApnSetting) × Option ApnSetting × Option (List ApnSetting) ×
      Option ApnSetting × Bool × Bool × Bool × String :=
  (s.pollPart, s.state, s.waitingApns, s.activeApn, s.allApns, s.preferredApn, s.reconnectIntent,
    s.isPsRestricted, s.noAutoAttach, s.requestedApnType)

/-- A predicate of the programs that run on the device. -/
structure Closed (d : Device) (K : ∀ {α : Type}, Handler α → Prop) : Prop where
  pure : ∀ {α : Type} (a : α), K (Pure.pure a : Handler α)
  bind : ∀ {α β : Type} {m : Handler α} {g : α → Handler β}, K m → (∀ a, K (g a)) → K (m >>= g)
  environment : ∀ {α : Type} {g : Device → Handler α}, K (g d) → K (Traced.environment >>= g)
  current : K (Traced.current : Handler PolledTracker)
  emit : ∀ o : Output, o.isPlain = true → o.isConnect = false → K (Traced.emit o : Handler Unit)
  frame : ∀ u : PolledTracker → PolledTracker, (∀ s, (u s).core = s.core) →
    K (Traced.update u : Handler Unit)
  cleanUpConnection : ∀ tearDown reason, K (cleanUpConnection tearDown reason)
  createAllApnList : K (base createAllApnList)
  trySetupData : ∀ reason, K (trySetupData reason)
  simulate : d.simulatedRadio = true → K (base (setState .connected))
  stop : K stopNetStatPoll
  start : K startNetStatPoll
  reset : K resetPollStats
  screen : ∀ isOn, K (updateStats (fun stats => { stats with isScreenOn := isOn }))

def onPsRestrictLifted : Handler Unit := do
  let s ← current
  if s.state = .connected then startNetStatPoll
  else
    if s.state = .failed then
      cleanUpConnection false (some reasonPsRestrictEnabled)
      resetRetries
    else pure ()
    trySetupData (some reasonPsRestrictEnabled)

theorem onPsRestrictDisabled_eq : onPsRestrictDisabled = (do
    update (fun s => { s with isPsRestricted := false })
    onPsRestrictLifted) := rfl

theorem deliver_active {d : Device} (hactive : d.isTheCurrentActivePhone = true) (m : Message)
    (hchecked : m.isChecked = false) (s : PolledTracker) :
    deliver m d s = handleMessage m d s := by
  have hnot : ¬ m.isChecked = true := by simp [hchecked]
  rw [deliver, Traced.environment_bind, if_pos hactive, connectivityCheck, if_neg hnot]
  exact Traced.bind_pure_unit

theorem deliver_inactive {d : Device} (hinactive : ¬ d.isTheCurrentActivePhone = true) (m : Message)
    (s : PolledTracker) : deliver m d s = ⟨.ok (), s, []⟩ := by
  rw [deliver, Traced.environment_bind, if_neg hinactive]
  rfl

def Message.isSpecial : Message → Bool
  | .startNetstatPoll | .startRecovery | .psRestrictEnabled | .psRestrictDisabled | .enableNewApn _
  | .dataSetupComplete _ _ | .disconnectDone _ | .resetDone _ => true
  | _ => false

namespace Closed
variable {d : Device} {K : ∀ {α : Type}, Handler α → Prop}

theorem branch {α : Type} {p : Prop} [Decidable p] {m m' : Handler α} (hm : p → K m)
    (hm' : ¬ p → K m') : K (if p then m else m') := by
  split
  · next hp => exact hm hp
  · next hp => exact hm' hp

variable (h : Closed d K)
include h

theorem test {α : Type} {g : PolledTracker → Handler α} (hg : ∀ s, K (g s)) :
    K (Traced.current >>= g) := h.bind h.current hg

theorem notify (reason : Option Reason) : K (notify reason) := h.emit _ rfl rfl

theorem resetRetries : K resetRetries :=
  h.bind (h.emit _ rfl rfl) (fun _ => h.frame _ (fun _ => rfl))

theorem onGprsDetached : K onGprsDetached := h.bind h.stop (fun _ => h.notify _)

theorem onRecordsLoaded : K onRecordsLoaded :=
  have hsend (reason : Option Reason) :
      K (Traced.emit (Output.base (.sendTrySetup reason false)) : Handler Unit) :=
    h.emit _ rfl rfl
  h.bind h.createAllApnList (fun _ => h.test (fun _ =>
    branch (fun _ => h.bind (h.cleanUpConnection _ _) (fun _ => hsend _)) (fun _ => hsend _)))

theorem onGprsAttached : K onGprsAttached :=
  have hsetup := h.trySetupData (some .gprsAttached)
  h.test (fun _ => branch (fun _ => h.bind h.start (fun _ => h.notify _)) (fun _ =>
    branch (fun _ => h.bind (h.cleanUpConnection _ _) (fun _ =>
      h.bind (h.emit _ rfl rfl) (fun _ => hsetup))) (fun _ => hsetup)))

theorem onPdpStateChanged (pdpStates : Option (List DataCallState)) (explicitPoll : Bool) :
    K (onPdpStateChanged pdpStates explicitPoll) := by
  refine h.environment (h.test (fun s => ?_))
  cases pdpStates with
  | none => exact h.pure ()
  | some states =>
    exact branch (fun _ => branch (fun _ => h.cleanUpConnection _ _) (fun _ => branch (fun _ =>
      branch (fun _ => h.cleanUpConnection _ _) (fun _ => h.emit _ rfl rfl)) (fun _ => h.pure ())))
      (fun _ => h.pure ())

theorem onEnableNewApn (type : String)
    (hrequest : K (update (fun s => { s with requestedApnType := type }) : Handler Unit)) :
    K (onEnableNewApn type) :=
  h.bind hrequest (fun _ => h.bind (h.emit _ rfl rfl) (fun _ =>
    h.bind (h.emit _ rfl rfl) (fun _ => h.cleanUpConnection _ _)))

theorem onRoamingOn : K onRoamingOn :=
  h.environment (branch (fun _ => h.trySetupData _) (fun _ => h.cleanUpConnection _ _))

theorem onRadioAvailable : K onRadioAvailable := by
  have hclean : K (do
      let s ← Traced.current
      if s.state ≠ .idle then Polled.cleanUpConnection true none else Pure.pure ()) :=
    h.test (fun _ => branch (fun _ => h.cleanUpConnection _ _) (fun _ => h.pure ()))
  exact h.environment (branch (fun hradio => h.bind (h.simulate hradio) (fun _ =>
    h.bind (h.notify _) (fun _ => hclean))) (fun _ => hclean))

theorem onRadioOffOrNotAvailable : K onRadioOffOrNotAvailable :=
  h.environment (h.bind h.resetRetries (fun _ =>
    branch (fun _ => h.pure ()) (fun _ => h.cleanUpConnection _ _)))

theorem onPollPdp : K onPollPdp :=
  h.test (fun _ => branch (fun _ => h.bind (h.emit _ rfl rfl) (fun _ => h.emit _ rfl rfl))
    (fun _ => h.pure ()))

theorem onVoiceCallStarted : K onVoiceCallStarted :=
  h.environment (h.test (fun _ => branch (fun _ => h.bind h.stop (fun _ => h.notify _))
    (fun _ => h.pure ())))

theorem onVoiceCallEnded : K onVoiceCallEnded :=
  h.environment (h.test (fun _ => branch
    (fun _ => branch (fun _ => h.reset) (fun _ => h.bind h.start (fun _ => h.notify _)))
    (fun _ => h.bind h.resetRetries (fun _ => h.trySetupData _))))

theorem onPsRestrictEnabled
    (hrestrict : K (update (fun s => { s with isPsRestricted := true }) : Handler Unit)) :
    K onPsRestrictEnabled := h.bind h.stop (fun _ => hrestrict)

theorem onPsRestrictLifted : K onPsRestrictLifted :=
  have hsetup := h.trySetupData (some reasonPsRestrictEnabled)
  h.test (fun _ => branch (fun _ => h.start) (fun _ =>
    branch (fun _ => h.bind (h.cleanUpConnection _ _) (fun _ =>
      h.bind h.resetRetries (fun _ => hsetup))) (fun _ => hsetup)))

theorem onPsRestrictDisabled
    (hlift : K (update (fun s => { s with isPsRestricted := false }) : Handler Unit)) :
    K onPsRestrictDisabled := h.bind hlift (fun _ => h.onPsRestrictLifted)

theorem onDataSetupDone (hconnected : K (base (setState .connected)))
    (hprefer : ∀ s, isDefaultActive d s = true → K (base preferActiveApn)) (reason : Option Reason) :
    K (onDataSetupComplete none reason) :=
  have hnotify : K (notifyDefaultData reason) :=
    h.bind hconnected (fun _ => h.bind (h.notify _) (fun _ => h.bind h.start (fun _ =>
      h.resetRetries)))
  h.environment (h.test (fun s => h.bind (h.emit _ rfl rfl) (fun _ =>
    branch (fun hactive => h.bind (hprefer s hactive) (fun _ => hnotify)) (fun _ => hnotify))))

theorem onDisconnectDone
    (hidle : ∀ reason, K (base (gotoIdleAndNotifyDataConnection reason))) (reason : Option Reason) :
    K (onDisconnectDone reason) :=
  h.bind (hidle reason) (fun _ => branch (fun _ => h.trySetupData _) (fun _ => h.pure ()))

theorem onReceive (i : Intent) : K (onReceive i) := by
  cases i with
  | screen isOn => exact h.bind (h.screen isOn) (fun _ => h.bind h.stop (fun _ => h.start))
  | reconnectAlarm reason =>
    exact h.test (fun _ => branch
      (fun _ => h.bind (h.emit _ rfl rfl) (fun _ => h.emit _ rfl rfl)) (fun _ => h.emit _ rfl rfl))

theorem handleMessage {m : Message} (hm : m.isSpecial = false) : K (handleMessage m) := by
  cases m with
  | startNetstatPoll => cases hm
  | startRecovery => cases hm
  | psRestrictEnabled => cases hm
  | psRestrictDisabled => cases hm
  | enableNewApn type => cases hm
  | dataSetupComplete cause reason => cases hm
  | disconnectDone reason => cases hm
  | resetDone reason => cases hm
  | recordsLoaded => exact h.onRecordsLoaded
  | gprsDetached => exact h.onGprsDetached
  | gprsAttached =>
    exact h.test (fun _ => branch (fun _ =>
      h.bind h.onRecordsLoaded (fun _ => h.onGprsAttached)) (fun _ => h.onGprsAttached))
  | dataStateChanged pdpStates => exact h.onPdpStateChanged pdpStates false
  | getPdpListComplete pdpStates => exact h.onPdpStateChanged pdpStates true
  | pollPdp => exact h.onPollPdp
  | apnChanged => exact h.pure ()
  | trySetupData reason => exact h.trySetupData reason
  | cleanUpConnection tearDown reason => exact h.cleanUpConnection tearDown reason
  | roamingOn => exact h.onRoamingOn
  | roamingOff => exact h.trySetupData _
  | radioAvailable => exact h.onRadioAvailable
  | radioOffOrNotAvailable => exact h.onRadioOffOrNotAvailable
  | voiceCallStarted => exact h.onVoiceCallStarted
  | voiceCallEnded => exact h.onVoiceCallEnded

theorem connectivityCheck (hfault : K (fault .nullPointer : Handler Unit)) (m : Message) :
    K (connectivityCheck m) :=
  branch (fun _ => h.environment (branch (fun _ => h.pure ()) (fun _ => hfault))) (fun _ => h.pure ())

theorem deliver (hfault : K (fault .nullPointer : Handler Unit)) {m : Message}
    (hm : K (Polled.handleMessage m)) : K (deliver m) :=
  h.environment (branch (fun _ => h.bind hm (fun _ => h.connectivityCheck hfault m))
    (fun _ => h.pure ()))

end Closed

end Fw100.Telephony.Polled
