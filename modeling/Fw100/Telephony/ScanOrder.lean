import Fw100.Telephony.Scan

/-!
# The order of a scan

One scan goes from an idle tracker to the end of its list. The messages that set up a connection
come at any time and each setup that was asked for fails at some time. How many have failed says
where the scan is.
-/
namespace Fw100.Telephony
open Library
open Traced (emit environment current update fault)

inductive ScanEvent where
  | trySetup (phone : Phone) (reason : Option Reason)
  | gprsAttached (phone : Phone)
  | setupFailed (phone : Phone) (cause : FailCause) (reason : Option Reason)

namespace ScanEvent

def phone : ScanEvent → Phone
  | trySetup phone _ => phone
  | gprsAttached phone => phone
  | setupFailed phone _ _ => phone

def message : ScanEvent → Message
  | trySetup _ reason => .trySetupData reason
  | gprsAttached _ => .gprsAttached
  | setupFailed _ cause reason => .dataSetupComplete (some cause) reason

def cause : ScanEvent → Option FailCause
  | setupFailed _ cause _ => some cause
  | _ => none

def prepared (t : Tracker) : ScanEvent → Tracker
  | gprsAttached phone => if t.defaultApnIsReady then t.woken else phone.rebuilt t.woken
  | _ => t.woken

end ScanEvent

/-- The tracker, all that it has asked for and the causes of all failures. -/
structure Scan where
  tracker : Tracker
  effects : List Effect
  causes : List FailCause

namespace Scan

def start (t : Tracker) : Scan := ⟨t, [], []⟩

def tried (s : Scan) : List ApnSetting := s.effects.filterMap Effect.connected

def retried (s : Scan) : Bool := s.effects.any Effect.isRetry

end Scan

/-- One message; the output is how its handler ends. -/
def scanStep (s : Scan) (e : ScanEvent) : Scan × Except Fault Unit :=
  let r := receive e.message e.phone s.tracker
  (⟨r.state, s.effects ++ r.events, s.causes ++ e.cause.toList⟩, r.value)

/-- No simulated radio, no clean-up, and a failure only of a setup that was asked for. -/
structure Allowed (s : Scan) (e : ScanEvent) : Prop where
  radio : e.phone.simulatedRadio = false
  noCleanUp : e.message = .gprsAttached → s.tracker.state ≠ .failed
  outstanding : e.cause.isSome = true → s.causes.length < s.tried.length

instance (s : Scan) (e : ScanEvent) : Decidable (Allowed s e) :=
  decidable_of_iff (e.phone.simulatedRadio = false ∧
      (e.message = .gprsAttached → s.tracker.state ≠ .failed) ∧
      (e.cause.isSome = true → s.causes.length < s.tried.length))
    ⟨fun h => ⟨h.1, h.2.1, h.2.2⟩, fun h => ⟨h.radio, h.noCleanUp, h.outstanding⟩⟩

theorem scanStep_eq {s : Scan} {e : ScanEvent} {value : Except Fault Unit} {t : Tracker}
    {es : List Effect} (h : receive e.message e.phone s.tracker = ⟨value, t, es⟩) :
    scanStep s e = (⟨t, s.effects ++ es, s.causes ++ e.cause.toList⟩, value) := by
  simp only [scanStep, h]

@[simp] theorem tried_append (t : Tracker) (effects es : List Effect) (causes : List FailCause) :
    (⟨t, effects ++ es, causes⟩ : Scan).tried =
      effects.filterMap Effect.connected ++ es.filterMap Effect.connected :=
  List.filterMap_append

@[simp] theorem retried_append (t : Tracker) (effects es : List Effect) (causes : List FailCause) :
    (⟨t, effects ++ es, causes⟩ : Scan).retried =
      (effects.any Effect.isRetry || es.any Effect.isRetry) :=
  List.any_append

/-! ### A message that sets up -/

/-- Two trackers at the same place of a scan. -/
structure SamePlace (t t' : Tracker) : Prop where
  state : t'.state = t.state
  waitingApns : t'.waitingApns = t.waitingApns
  countDown :
    t'.waitingApnsPermanentFailureCountDown = t.waitingApnsPermanentFailureCountDown
  type : t'.requestedApnType = t.requestedApnType

/-- The setup runs on the tracker as it is or with a new list. -/
theorem prepared_cases (e : ScanEvent) (t : Tracker) :
    e.prepared t = t.woken ∨ e.prepared t = e.phone.rebuilt t.woken := by
  cases e with
  | trySetup phone reason => exact .inl rfl
  | setupFailed phone cause reason => exact .inl rfl
  | gprsAttached phone => exact ite_eq_or_eq _ _ _

theorem samePlace_prepared (e : ScanEvent) (t : Tracker) : SamePlace t (e.prepared t) := by
  rcases prepared_cases e t with h | h
  · exact h ▸ ⟨rfl, rfl, rfl, rfl⟩
  · exact h ▸ ⟨rfl, rfl, rfl, rfl⟩

theorem isReady_prepared (phone : Phone) (e : ScanEvent) (t : Tracker) :
    phone.isReady (e.prepared t) = phone.isReady t := by
  rcases prepared_cases e t with h | h
  · exact h ▸ rfl
  · exact h ▸ rfl

theorem connReset_prepared (e : ScanEvent) (t : Tracker) : (e.prepared t).connReset = false := by
  rcases prepared_cases e t with h | h
  · exact h ▸ rfl
  · exact h ▸ rfl

theorem preferred_prepared {t : Tracker} (h : t.allApns = none → t.preferredApn = none)
    (e : ScanEvent) : (e.prepared t).allApns = none → (e.prepared t).preferredApn = none := by
  rcases prepared_cases e t with hwoken | hrebuilt
  · exact hwoken ▸ h
  · exact hrebuilt ▸ fun hnone => absurd hnone (Option.some_ne_none _)

theorem quiet_loadEffects (phone : Phone) {t : Tracker} (h : t.state ≠ .failed) :
    Quiet (phone.loadEffects t) := by
  rw [Phone.loadEffects, Phone.rebuildEffects, if_neg h]
  split_ifs <;> exact ⟨rfl, rfl⟩

theorem onGprsAttached_eq {phone : Phone} {t t' : Tracker} {b : Bool} {es : List Effect}
    (hconnected : t.state ≠ .connected) (hfailed : t.state ≠ .failed)
    (h : trySetupData (some .gprsAttached) phone t = ⟨.ok b, t', es⟩) :
    onGprsAttached phone t = ⟨.ok (), t', es⟩ := by
  have hsetup : (do let _ ← trySetupData (some .gprsAttached); pure () : Handler Unit) phone t =
      ⟨.ok (), t', es⟩ := by
    rw [Traced.bind_eq h]
    simp [pure]
  rw [onGprsAttached, Traced.current_bind, if_neg hconnected, if_neg hfailed]
  exact hsetup

/-- What the setup does is what the message does, apart from a rebuilt list. -/
theorem receive_attempt {t : Tracker} {e : ScanEvent} (he : e.cause = none)
    (hconnected : t.state ≠ .connected) (hfailed : e.message = .gprsAttached → t.state ≠ .failed) :
    ∃ reason es, Quiet es ∧ ∀ b t' es',
      trySetupData reason e.phone (e.prepared t) = ⟨.ok b, t', es'⟩ →
        receive e.message e.phone t = ⟨.ok (), t', es ++ es'⟩ := by
  cases e with
  | setupFailed phone cause reason => cases he
  | trySetup phone reason =>
    refine ⟨reason, [], ⟨rfl, rfl⟩, fun b t' es' h => ?_⟩
    have hsetup : trySetupData reason phone t.woken = _ := h
    rw [receive_eq, ScanEvent.message, handleMessage, ScanEvent.phone, Traced.bind_eq hsetup]
    simp [pure]
  | gprsAttached phone =>
    have hconnected' : t.woken.state ≠ .connected := hconnected
    have hfailed' : t.woken.state ≠ .failed := hfailed rfl
    cases hready : t.woken.defaultApnIsReady with
    | true =>
      refine ⟨some .gprsAttached, [], ⟨rfl, rfl⟩, fun b t' es' h => ?_⟩
      have hprepared : (ScanEvent.gprsAttached phone).prepared t = t.woken := if_pos hready
      rw [hprepared] at h
      have hattach : onGprsAttached phone t.woken = _ := onGprsAttached_eq hconnected' hfailed' h
      rw [receive_eq, ScanEvent.message, ScanEvent.phone, attached_ready phone hready, hattach,
        List.nil_append]
    | false =>
      have hloaded : phone.loaded t.woken = phone.rebuilt t.woken := if_neg hfailed'
      refine ⟨some .gprsAttached, phone.loadEffects t.woken, quiet_loadEffects phone hfailed',
        fun b t' es' h => ?_⟩
      have hready' : ¬ t.woken.defaultApnIsReady = true := by simp [hready]
      have hprepared : (ScanEvent.gprsAttached phone).prepared t = phone.rebuilt t.woken :=
        if_neg hready'
      rw [hprepared] at h
      have hattach : onGprsAttached phone (phone.rebuilt t.woken) = _ :=
        onGprsAttached_eq hconnected' hfailed' h
      rw [receive_eq, ScanEvent.message, ScanEvent.phone, attached_forced phone hready, hloaded, hattach]

/-! ### Where a scan is -/

/-- Where a scan of `W` is: in an attempt, between two, or at its end. -/
inductive Phase (W : List ApnSetting) (s : Scan) : Prop where
  | trying (state : s.tracker.state = .initing) (more : s.causes.length < W.length)
      (waiting : s.tracker.waitingApns = some (W.drop s.causes.length))
      (tried : s.tried = W.take (s.causes.length + 1)) (retried : s.retried = false)
  | pausing (state : s.tracker.state = .scanning) (more : s.causes.length < W.length)
      (waiting : s.tracker.waitingApns = some (W.drop s.causes.length))
      (tried : s.tried = W.take s.causes.length) (retried : s.retried = false)
  | ended (state : s.tracker.state = .failed) (all : s.causes.length = W.length)
      (waiting : s.tracker.waitingApns = some []) (tried : s.tried = W)
      (retried : s.tracker.requestedApnType = apnTypeDefault →
        (s.retried = true ↔ s.tracker.waitingApnsPermanentFailureCountDown ≠ 0))

structure Scanning (W : List ApnSetting) (type : String) (s : Scan) : Prop where
  type : s.tracker.requestedApnType = type
  countDown : s.tracker.waitingApnsPermanentFailureCountDown =
    W.length - s.causes.countP FailCause.isPermanentFail
  phase : Phase W s

variable {W : List ApnSetting} {type : String} {s : Scan}

theorem Phase.not_connected (h : Phase W s) : s.tracker.state ≠ .connected := by
  cases h with
  | trying state => simp [state]
  | pausing state => simp [state]
  | ended state => simp [state]

theorem Phase.not_idle (h : Phase W s) : s.tracker.state ≠ .idle := by
  cases h with
  | trying state => simp [state]
  | pausing state => simp [state]
  | ended state => simp [state]

theorem Scanning.still (h : Scanning W type s) {t : Tracker} {es : List Effect}
    (hplace : SamePlace s.tracker t) (hquiet : Quiet es) :
    Scanning W type ⟨t, s.effects ++ es, s.causes⟩ := by
  have htried : (⟨t, s.effects ++ es, s.causes⟩ : Scan).tried = s.tried := by
    rw [tried_append, hquiet.1, List.append_nil, Scan.tried]
  have hretried : (⟨t, s.effects ++ es, s.causes⟩ : Scan).retried = s.retried := by
    rw [retried_append, hquiet.2, Bool.or_false, Scan.retried]
  refine ⟨hplace.type.trans h.type, hplace.countDown.trans h.countDown, ?_⟩
  cases h.phase with
  | trying state more waiting tried retried =>
    exact .trying (hplace.state.trans state) more (hplace.waitingApns.trans waiting)
      (htried.trans tried) (hretried.trans retried)
  | pausing state more waiting tried retried =>
    exact .pausing (hplace.state.trans state) more (hplace.waitingApns.trans waiting)
      (htried.trans tried) (hretried.trans retried)
  | ended state all waiting tried retried =>
    refine .ended (hplace.state.trans state) all (hplace.waitingApns.trans waiting)
      (htried.trans tried) ?_
    rw [hretried, hplace.countDown, hplace.type]
    exact retried

/-! ### The steps of a scan -/

theorem drop_length (hmore : s.causes.length < W.length) :
    W.drop s.causes.length = W[s.causes.length] :: W.drop (s.causes.length + 1) :=
  List.drop_eq_getElem_cons hmore

/-- Between two attempts a ready tracker with a free connection makes the next one. -/
theorem attempt_next (h : Scanning W type s) {e : ScanEvent} (hallowed : Allowed s e)
    (hstate : s.tracker.state = .scanning) (hready : e.phone.isReady s.tracker = true)
    (hfree : e.phone.connInactive = true) :
    Scanning W type (scanStep s e).1 ∧ (scanStep s e).2 = .ok () ∧
      ∃ apn, W[s.tried.length]? = some apn ∧ (scanStep s e).1.tried = s.tried ++ [apn] := by
  cases h.phase with
  | trying state => simp [hstate] at state
  | ended state => simp [hstate] at state
  | pausing state more waiting tried retried =>
    have hlength : s.tried.length = s.causes.length := by
      rw [tried, List.length_take, min_eq_left more.le]
    have hcause : e.cause = none := by
      by_contra hsome
      have hlate := hallowed.outstanding (Option.isSome_iff_ne_none.mpr hsome)
      omega
    obtain ⟨reason, es, hquiet, hreceive⟩ :=
      receive_attempt hcause h.phase.not_connected hallowed.noCleanUp
    have hplace := samePlace_prepared e s.tracker
    have hwaiting := (hplace.waitingApns.trans waiting).trans (congrArg some (drop_length more))
    have hsetup := trySetupData_scanning hallowed.radio
      ((isReady_prepared _ _ _).trans hready) (hplace.state.trans state) reason
    rw [setupWaiting_eq hwaiting hfree] at hsetup
    rw [scanStep_eq (hreceive _ _ _ hsetup), hcause, Option.toList_none, List.append_nil]
    have htried : s.tried ++ [W[s.causes.length]] = W.take (s.causes.length + 1) := by
      rw [tried, List.take_append_getElem]
    have hnext : (⟨{ e.prepared s.tracker with
          activeApn := some W[s.causes.length], state := .initing },
        s.effects ++ (es ++ [.connect W[s.causes.length] reason, .notifyDataConnection reason]),
        s.causes⟩ : Scan).tried = s.tried ++ [W[s.causes.length]] := by
      rw [tried_append, List.filterMap_append, hquiet.1]
      rfl
    refine ⟨⟨hplace.type.trans h.type, hplace.countDown.trans h.countDown, ?_⟩, rfl,
      W[s.causes.length], ?_, hnext⟩
    · refine .trying rfl more (hplace.waitingApns.trans waiting) (hnext.trans htried) ?_
      rw [Scan.retried] at retried
      rw [retried_append, List.any_append, hquiet.2, retried]
      rfl
    · rw [hlength, List.getElem?_eq_getElem more]

/-- At any other time a message that sets up changes nothing. -/
theorem attempt_waits (h : Scanning W type s) {e : ScanEvent} (hallowed : Allowed s e)
    (hcause : e.cause = none)
    (hwait : ¬ (s.tracker.state = .scanning ∧ e.phone.isReady s.tracker = true ∧
      e.phone.connInactive = true)) :
    Scanning W type (scanStep s e).1 ∧ (scanStep s e).2 = .ok () := by
  obtain ⟨reason, es, hquiet, hreceive⟩ :=
    receive_attempt hcause h.phase.not_connected hallowed.noCleanUp
  have hplace := samePlace_prepared e s.tracker
  have hsetup : trySetupData reason e.phone (e.prepared s.tracker) =
      ⟨.ok false, e.prepared s.tracker, []⟩ := by
    by_cases hturn : s.tracker.state = .scanning ∧ e.phone.isReady s.tracker = true
    · obtain ⟨hstate, hready⟩ := hturn
      have hbusy : e.phone.connInactive = false := by simpa [hstate, hready] using hwait
      cases h.phase with
      | trying state => simp [hstate] at state
      | ended state => simp [hstate] at state
      | pausing state more waiting =>
        have hwaiting := (hplace.waitingApns.trans waiting).trans (congrArg some (drop_length more))
        rw [trySetupData_scanning hallowed.radio ((isReady_prepared _ _ _).trans hready)
          (hplace.state.trans hstate)]
        exact setupWaiting_occupied hwaiting hbusy (connReset_prepared _ _) reason
    · apply trySetupData_waits hallowed.radio
      rw [hplace.state, isReady_prepared]
      rintro ⟨hidle | hscanning, hready⟩
      · exact h.phase.not_idle hidle
      · exact hturn ⟨hscanning, hready⟩
  rw [scanStep_eq (hreceive _ _ _ hsetup), hcause, List.append_nil, Option.toList_none,
    List.append_nil]
  exact ⟨h.still hplace hquiet, rfl⟩

/-- The answer to a failure, with the access point that failed off the list. -/
theorem receive_failure {t : Tracker} {apn : ApnSetting} {rest : List ApnSetting}
    (hwaiting : t.waitingApns = some (apn :: rest)) (phone : Phone) (cause : FailCause)
    (reason : Option Reason) :
    receive (.dataSetupComplete (some cause) reason) phone t =
      tryNextApn cause reason phone { t.woken.countDown cause with waitingApns := some rest } := by
  have hwoken : t.woken.waitingApns = some (apn :: rest) := hwaiting
  exact (receive_eq _ _ _).trans (onDataSetupFailed_eq hwoken cause reason)

theorem Scanning.countDown_failure (h : Scanning W type s) (cause : FailCause) :
    (s.tracker.woken.countDown cause).waitingApnsPermanentFailureCountDown =
      W.length - (s.causes ++ [cause]).countP FailCause.isPermanentFail := by
  have hcount : (s.tracker.woken.countDown cause).waitingApnsPermanentFailureCountDown =
      s.tracker.waitingApnsPermanentFailureCountDown - if cause.isPermanentFail then 1 else 0 := rfl
  rw [hcount, h.countDown, List.countP_append, List.countP_singleton]
  split_ifs <;> push_cast <;> ring

/-- A failure ends the attempt that is under way. -/
theorem failure_step (h : Scanning W type s) {phone : Phone} {cause : FailCause}
    {reason : Option Reason} (hlate : s.causes.length < s.tried.length) :
    Scanning W type (scanStep s (.setupFailed phone cause reason)).1 ∧
      (scanStep s (.setupFailed phone cause reason)).2 = .ok () := by
  have hlength : (s.causes ++ [cause]).length = s.causes.length + 1 := by simp
  cases h.phase with
  | pausing state more waiting tried =>
    rw [tried, List.length_take] at hlate
    omega
  | ended state all waiting tried =>
    rw [tried] at hlate
    omega
  | trying state more waiting tried retried =>
    let left : Tracker :=
      { s.tracker.woken.countDown cause with waitingApns := some (W.drop (s.causes.length + 1)) }
    have hreceive : receive (.dataSetupComplete (some cause) reason) phone s.tracker =
        tryNextApn cause reason phone left :=
      receive_failure (waiting.trans (congrArg some (drop_length more))) phone cause reason
    have hcount : left.waitingApnsPermanentFailureCountDown = _ := h.countDown_failure cause
    rw [Scan.retried] at retried
    rw [Scan.tried] at tried
    by_cases hlast : W.drop (s.causes.length + 1) = []
    · have hall : W.length ≤ s.causes.length + 1 := List.drop_eq_nil_iff.mp hlast
      have hnone : left.waitingApns = some [] := congrArg some hlast
      obtain ⟨hgives, hagain⟩ := tryNextApn_last phone hnone cause reason
      let r := tryNextApn cause reason phone left
      have hstep : scanStep s (.setupFailed phone cause reason) =
          (⟨r.state, s.effects ++ r.events, s.causes ++ [cause]⟩, r.value) := scanStep_eq hreceive
      rw [hstep]
      refine ⟨⟨hgives.type.trans h.type, hgives.countDown.trans hcount, ?_⟩, hgives.value⟩
      refine .ended hgives.state ?_ hgives.waitingApns ?_ ?_
      · rw [hlength]
        omega
      · rw [tried_append, hgives.connects, List.append_nil, tried, List.take_of_length_le hall]
      · intro htype
        rw [retried_append, retried, Bool.false_or, hgives.countDown]
        exact hagain (hgives.type.symm.trans htype)
    · have hmore : left.waitingApns ≠ some [] := fun hnone => hlast (Option.some.inj hnone)
      have hstep := scanStep_eq (e := .setupFailed phone cause reason)
        (hreceive.trans (tryNextApn_more hmore cause reason))
      rw [hstep, ScanEvent.cause, Option.toList_some]
      refine ⟨⟨h.type, hcount, .pausing rfl ?_ ?_ ?_ ?_⟩, rfl⟩
      · rw [hlength]
        simpa using hlast
      · rw [hlength]
      · rw [tried_append, tried, hlength]
        exact List.append_nil _
      · rw [retried_append, retried]
        rfl

/-! ### The first attempt -/

/-- From an idle tracker the first message makes the list and tries its first access point. -/
theorem first_step {t : Tracker} {e : ScanEvent}
    (hlist : e.phone.waiting (e.prepared t) ≠ [] → (e.prepared t).allApns ≠ none)
    (hidle : t.state = .idle) (hready : e.phone.isReady t = true)
    (hfree : e.phone.connInactive = true) (hallowed : Allowed (.start t) e) :
    Scanning (e.phone.waiting (e.prepared t)) t.requestedApnType (scanStep (.start t) e).1 ∧
      (scanStep (.start t) e).2 = .ok () ∧
      (scanStep (.start t) e).1.tracker.waitingApns = some (e.phone.waiting (e.prepared t)) := by
  have hcause : e.cause = none := by
    by_contra hsome
    have hlate := hallowed.outstanding (Option.isSome_iff_ne_none.mpr hsome)
    exact absurd hlate (Nat.not_lt_zero _)
  have hconnected : t.state ≠ .connected := by simp [hidle]
  obtain ⟨reason, es, hquiet, hreceive⟩ := receive_attempt hcause hconnected hallowed.noCleanUp
  have hplace := samePlace_prepared e t
  have hfirst := trySetupData_idle hallowed.radio ((isReady_prepared _ _ _).trans hready)
    (hplace.state.trans hidle) reason
  cases hwaiting : e.phone.waiting (e.prepared t) with
  | nil =>
    obtain ⟨preferred, es', hquiet', hsetup⟩ := setupFirst_nil hwaiting reason
    have hstep := scanStep_eq (s := .start t) (hreceive _ _ _ (hfirst.trans hsetup))
    rw [hstep, hcause]
    refine ⟨⟨hplace.type, rfl, .ended rfl rfl rfl ?_ ?_⟩, rfl, rfl⟩
    · rw [tried_append, List.filterMap_append, hquiet.1, hquiet'.1]
      rfl
    · intro _
      rw [retried_append, List.any_append, hquiet.2, hquiet'.2]
      exact iff_of_false Bool.false_ne_true (fun hne => hne rfl)
  | cons apn rest =>
    have hne : e.phone.waiting (e.prepared t) ≠ [] := by simp [hwaiting]
    obtain ⟨preferred, es', hquiet', hsetup⟩ := setupFirst_cons hwaiting hfree (hlist hne) reason
    have hstep := scanStep_eq (s := .start t) (hreceive _ _ _ (hfirst.trans hsetup))
    rw [hstep, hcause]
    refine ⟨⟨hplace.type, ?_, .trying rfl (Nat.succ_pos _) rfl ?_ ?_⟩, rfl, rfl⟩
    · simp [Scan.start]
    · rw [tried_append, List.filterMap_append, List.filterMap_append, hquiet.1, hquiet'.1]
      rfl
    · rw [retried_append, List.any_append, List.any_append, hquiet.2, hquiet'.2]
      rfl

/-! ### A whole scan -/

/-- A message that sets up, at any time. -/
theorem attempt_step (h : Scanning W type s) {e : ScanEvent} (hallowed : Allowed s e)
    (hcause : e.cause = none) :
    Scanning W type (scanStep s e).1 ∧ (scanStep s e).2 = .ok () := by
  by_cases hturn : s.tracker.state = .scanning ∧ e.phone.isReady s.tracker = true ∧
      e.phone.connInactive = true
  · obtain ⟨hstate, hready, hfree⟩ := hturn
    obtain ⟨hscanning, hdone, -⟩ := attempt_next h hallowed hstate hready hfree
    exact ⟨hscanning, hdone⟩
  · exact attempt_waits h hallowed hcause hturn

theorem scanning_step (h : Scanning W type s) {e : ScanEvent} (hallowed : Allowed s e) :
    Scanning W type (scanStep s e).1 ∧ (scanStep s e).2 = .ok () := by
  cases e with
  | setupFailed phone cause reason => exact failure_step h (hallowed.outstanding rfl)
  | trySetup phone reason => exact attempt_step h hallowed rfl
  | gprsAttached phone => exact attempt_step h hallowed rfl

/-- The invariant behind all messages of a scan, none of which faults. -/
theorem scanning_run {t : Tracker} {first : ScanEvent} {events : List ScanEvent}
    (hlist : first.phone.waiting (first.prepared t) ≠ [] → (first.prepared t).allApns ≠ none)
    (hidle : t.state = .idle) (hready : first.phone.isReady t = true)
    (hfree : first.phone.connInactive = true)
    (hallowed : Along scanStep Allowed (.start t) (first :: events)) :
    Scanning (first.phone.waiting (first.prepared t)) t.requestedApnType
        (run scanStep (.start t) (first :: events)).1 ∧
      ∀ o ∈ (run scanStep (.start t) (first :: events)).2, o = .ok () := by
  obtain ⟨hfirst, hlater⟩ := hallowed
  obtain ⟨hscanning, hdone, -⟩ := first_step hlist hidle hready hfree hfirst
  have hoks := hlater.of_invariant (P := fun s e => (scanStep s e).2 = .ok ())
    (Scanning (first.phone.waiting (first.prepared t)) t.requestedApnType)
    (fun s e h ha => (scanning_step h ha).symm) hscanning
  have hlast := hlater.invariant_run
    (Scanning (first.phone.waiting (first.prepared t)) t.requestedApnType)
    (fun s e h ha => (scanning_step h ha).1) hscanning
  refine ⟨hlast, ?_⟩
  intro o ho
  rcases List.mem_cons.mp ho with rfl | ho
  · exact hdone
  · exact (along_output_iff (Q := fun o => o = .ok ())).mp hoks o ho

theorem Scanning.tried_prefix (h : Scanning W type s) : s.tried <+: W := by
  cases h.phase with
  | trying state more waiting tried => exact tried ▸ List.take_prefix _ _
  | pausing state more waiting tried => exact tried ▸ List.take_prefix _ _
  | ended state all waiting tried => exact tried ▸ List.prefix_rfl

theorem Scanning.tried_all (h : Scanning W type s) (hall : s.causes.length = W.length) :
    s.tracker.state = .failed ∧ s.tried = W := by
  cases h.phase with
  | trying state more => omega
  | pausing state more => omega
  | ended state all waiting tried => exact ⟨state, tried⟩

/-- What is to be expected of a scan of `W` at any time. -/
structure Disciplined (W : List ApnSetting) (s : Scan) : Prop where
  inOrder : s.tried <+: W
  outstanding : s.causes.length ≤ s.tried.length ∧ s.tried.length ≤ s.causes.length + 1
  /-- Between two attempts any message that sets up makes the next one. -/
  next : ∀ e, Allowed s e → s.tracker.state = .scanning → e.phone.isReady s.tracker = true →
    e.phone.connInactive = true →
      ∃ apn, W[s.tried.length]? = some apn ∧ (scanStep s e).1.tried = s.tried ++ [apn]
  early : s.causes.length < W.length →
    (s.tracker.state = .initing ∨ s.tracker.state = .scanning) ∧ s.retried = false
  ended : s.causes.length = W.length → s.tracker.state = .failed ∧ s.tried = W ∧
    (s.retried = false ↔ ∀ c ∈ s.causes, c.isPermanentFail = true)

theorem Scanning.disciplined (h : Scanning W apnTypeDefault s) : Disciplined W s where
  inOrder := h.tried_prefix
  outstanding := by
    cases h.phase with
    | trying state more waiting tried =>
      rw [tried, List.length_take]
      omega
    | pausing state more waiting tried =>
      rw [tried, List.length_take]
      omega
    | ended state all waiting tried =>
      rw [tried]
      omega
  next := fun e hallowed hstate hready hfree => (attempt_next h hallowed hstate hready hfree).2.2
  early := by
    intro hlt
    cases h.phase with
    | trying state more waiting tried retried => exact ⟨.inl state, retried⟩
    | pausing state more waiting tried retried => exact ⟨.inr state, retried⟩
    | ended state all => omega
  ended := by
    intro hall
    obtain ⟨hfailed, htried⟩ := h.tried_all hall
    refine ⟨hfailed, htried, ?_⟩
    cases h.phase with
    | trying state more => omega
    | pausing state more => omega
    | ended state all waiting tried retried =>
      have hretried : s.retried = false ↔ s.causes.countP FailCause.isPermanentFail = W.length := by
        rw [← Bool.not_eq_true, retried h.type, h.countDown]
        omega
      rw [hretried, ← hall, List.countP_eq_length]

theorem scan_discipline {t : Tracker} {first : ScanEvent} {events : List ScanEvent}
    {W : List ApnSetting} (htype : t.requestedApnType = apnTypeDefault)
    (hpreferred : t.allApns = none → t.preferredApn = none) (hidle : t.state = .idle)
    (hready : first.phone.isReady t = true) (hfree : first.phone.connInactive = true)
    (hwaiting : (scanStep (.start t) first).1.tracker.waitingApns = some W)
    (hallowed : Along scanStep Allowed (.start t) (first :: events)) :
    Disciplined W (run scanStep (.start t) (first :: events)).1 ∧
      ∀ o ∈ (run scanStep (.start t) (first :: events)).2, o = .ok () := by
  have hdun : (first.prepared t).requestedApnType ≠ apnTypeDun := by
    rw [(samePlace_prepared first t).type, htype]
    decide
  have hlist : first.phone.waiting (first.prepared t) ≠ [] → (first.prepared t).allApns ≠ none :=
    Tracker.allApns_ne_none hdun (preferred_prepared hpreferred first)
  obtain ⟨-, -, hfirst⟩ := first_step hlist hidle hready hfree hallowed.1
  obtain rfl := Option.some.inj (hfirst.symm.trans hwaiting)
  obtain ⟨hscanning, hoks⟩ := scanning_run hlist hidle hready hfree hallowed
  rw [htype] at hscanning
  exact ⟨hscanning.disciplined, hoks⟩

/-- A permanent failure and a transient one, with messages in between that come too early. -/
theorem scan_discipline_mixed :
    let row (id : ℤ) : CarrierRow := ⟨id, "310004", none, none, none, none, none, none, none, none,
      none, 0, none, none, none⟩
    let phone := Phone.simless "310004" (some [row 1, row 2]) none
    let first := ScanEvent.gprsAttached phone
    let later : List ScanEvent := [.trySetup phone none, .gprsAttached phone,
      .setupFailed phone ⟨true, false⟩ none, .gprsAttached phone, .trySetup phone none,
      .setupFailed phone ⟨false, true⟩ none]
    let scan := (run scanStep (.start .created) (first :: later)).1
    Disciplined [(row 1).toApn, (row 2).toApn] scan ∧ scan.tracker.state = .failed ∧
      scan.tried = [(row 1).toApn, (row 2).toApn] ∧ scan.retried = true := by
  intro row phone first later scan
  have hwaiting : (scanStep (.start .created) first).1.tracker.waitingApns =
      some [(row 1).toApn, (row 2).toApn] := by decide +kernel
  have hallowed : Along scanStep Allowed (.start .created) (first :: later) := by decide +kernel
  have hscan := scan_discipline rfl (fun _ => rfl) rfl rfl rfl hwaiting hallowed
  exact ⟨hscan.1, by decide +kernel, by decide +kernel, by decide +kernel⟩

/-! ### The order of the types -/

/-- No access point that cannot do is tried while an untried one that can do remains. -/
def OnlyFallback (can : ApnSetting → Bool) (apns tried : List ApnSetting) : Prop :=
  ∀ before a after, tried = before ++ a :: after → can a = false →
    ∀ b ∈ apns.diff before, can b = false

theorem diff_append_left (before rest : List ApnSetting) : (before ++ rest).diff before = rest := by
  induction before with
  | nil => rfl
  | cons a before ih => rw [List.cons_append, List.diff_cons, List.erase_cons_head, ih]

/-- In list order what counts is which one stands in front. -/
theorem onlyFallback_iff {can : ApnSetting → Bool} {apns tried : List ApnSetting}
    (h : tried <+: apns) :
    OnlyFallback can apns tried ↔
      ∀ before a after, apns = before ++ a :: after → before.length < tried.length →
        can a = false → ∀ b ∈ after, can b = false := by
  obtain ⟨rest, rfl⟩ := h
  constructor
  · intro h before a after heq hlt ha b hb
    rcases List.append_eq_append_iff.mp heq with ⟨gone, rfl, -⟩ | ⟨mid, rfl, hmid⟩
    · simp at hlt
    · cases mid with
      | nil => simp at hlt
      | cons a' mid =>
        obtain ⟨rfl, rfl⟩ := List.cons_eq_cons.mp hmid
        apply h before a mid rfl ha b
        rw [List.append_assoc, diff_append_left]
        exact List.mem_cons_of_mem _ hb
  · rintro h before a after rfl ha b hb
    rw [List.append_assoc, diff_append_left, List.cons_append] at hb
    rcases List.mem_cons.mp hb with rfl | hb
    · exact ha
    · exact h before a (after ++ rest) (by simp) (by simp) ha b hb

theorem failsafe_in_list_order {t : Tracker} {first : ScanEvent} {events : List ScanEvent}
    {apns : List ApnSetting} (htype : t.requestedApnType ≠ apnTypeDun)
    (hunusable : first.phone.usable (first.prepared t) = none)
    (hapns : (first.prepared t).allApns = some apns) (hidle : t.state = .idle)
    (hready : first.phone.isReady t = true) (hfree : first.phone.connInactive = true)
    (hallowed : Along scanStep Allowed (.start t) (first :: events)) :
    let can (apn : ApnSetting) := first.phone.canHandleType apn t.requestedApnType
    let scan := (run scanStep (.start t) (first :: events)).1
    scan.tried <+: apns ∧ (scan.causes.length = apns.length → scan.tried = apns) ∧
      (OnlyFallback can apns scan.tried ↔
        ∀ before a after, apns = before ++ a :: after → before.length < scan.tried.length →
          can a = false → ∀ b ∈ after, can b = false) := by
  intro can scan
  have hdun : (first.prepared t).requestedApnType ≠ apnTypeDun := by
    rw [(samePlace_prepared first t).type]
    exact htype
  have hlist : (first.prepared t).allApns ≠ none := by
    rw [hapns]
    exact Option.some_ne_none apns
  have hwaiting : first.phone.waiting (first.prepared t) = apns := by
    rw [Phone.waiting, if_neg hdun, hunusable, Option.elim_none, hapns, Option.getD_some]
  obtain ⟨hscanning, -⟩ := scanning_run (fun _ => hlist) hidle hready hfree hallowed
  rw [hwaiting] at hscanning
  have horder : scan.tried <+: apns := hscanning.tried_prefix
  exact ⟨horder, fun hall => (hscanning.tried_all hall).2, onlyFallback_iff horder⟩

/-- An access point of another type in front is tried first, and the right one only after it. -/
theorem failsafe_in_list_order_mms :
    let apn (id : ℤ) (type : String) : ApnSetting := { verizonApn with id := id, types := [type] }
    let t := { Tracker.created with
      requestedApnType := "mms", allApns := some [apn 1 "supl", apn 2 "mms"] }
    let phone := Phone.simless "310004" none none
    let first := ScanEvent.trySetup phone none
    let later : List ScanEvent := [.setupFailed phone ⟨true, false⟩ none, .trySetup phone none,
      .setupFailed phone ⟨false, true⟩ none]
    let can (apn : ApnSetting) := phone.canHandleType apn "mms"
    let scan := (run scanStep (.start t) (first :: later)).1
    scan.tried = [apn 1 "supl", apn 2 "mms"] ∧
      ¬ OnlyFallback can [apn 1 "supl", apn 2 "mms"] scan.tried := by
  intro apn t phone first later can scan
  have htype : t.requestedApnType ≠ apnTypeDun := by decide
  have hallowed : Along scanStep Allowed (.start t) (first :: later) := by decide +kernel
  obtain ⟨-, hall, hiff⟩ := failsafe_in_list_order htype rfl rfl rfl rfl rfl hallowed
  have htried : scan.tried = [apn 1 "supl", apn 2 "mms"] := hall (by decide +kernel)
  refine ⟨htried, fun hfallback => ?_⟩
  have hlast := hiff.mp hfallback [] (apn 1 "supl") [apn 2 "mms"] rfl (by decide +kernel)
    (by decide +kernel) (apn 2 "mms") (.head _)
  exact absurd hlast (by decide +kernel)

/-- With the first setup the wrong access point is tried while the right one remains. -/
theorem failsafe_before_match :
    let apn (id : ℤ) (type : String) : ApnSetting := { verizonApn with id := id, types := [type] }
    let t := { Tracker.created with
      requestedApnType := "mms", allApns := some [apn 1 "supl", apn 2 "mms"] }
    let phone := Phone.simless "310004" none none
    let can (apn : ApnSetting) := phone.canHandleType apn "mms"
    let scan := (scanStep (.start t) (.trySetup phone none)).1
    phone.usable t = none ∧ scan.tried = [apn 1 "supl"] ∧ can (apn 1 "supl") = false ∧
      can (apn 2 "mms") = true ∧ ¬ OnlyFallback can [apn 1 "supl", apn 2 "mms"] scan.tried := by
  intro apn t phone can scan
  have htried : scan.tried = [apn 1 "supl"] := by decide +kernel
  have hwrong : can (apn 1 "supl") = false := by decide +kernel
  have hright : can (apn 2 "mms") = true := by decide +kernel
  refine ⟨rfl, htried, hwrong, hright, ?_⟩
  intro hfallback
  have hnone := hfallback [] (apn 1 "supl") [] htried hwrong (apn 2 "mms") (.tail _ (.head _))
  exact absurd (hright.symm.trans hnone) (by decide)

end Fw100.Telephony
