import Fw100.Telephony.Attach

/-!
# Scanning the access points

An idle tracker builds the list of access points to try and connects to the first one. Each
failure takes the first one off the list and queues another setup, until the list is empty. The
messages that start a setup may come at any time.
-/
namespace Fw100.Telephony
open Library
open Traced (emit environment current update fault)

/-! ### The list to try -/

/-- Adding access points whatever their type is adding them all. -/
theorem addApns_eq (phone : Phone) (type : String) (apns : List ApnSetting) :
    addApns phone type apns = apns := by
  induction apns with
  | nil => rfl
  | cons apn apns ih =>
    rw [addApns]
    split_ifs <;> rw [ih]

def Phone.usable (phone : Phone) (t : Tracker) : Option ApnSetting :=
  if t.requestedApnType = apnTypeDefault ∧ t.canSetPreferApn = true then
    t.preferredApn.filter (fun apn => some apn.numeric = phone.simOperatorNumeric)
  else none

def Phone.waiting (phone : Phone) (t : Tracker) : List ApnSetting :=
  if t.requestedApnType = apnTypeDun then phone.dunApn.toList
  else (phone.usable t).elim (t.allApns.getD []) (fun apn => [apn])

/-- Building the list drops a preferred access point that is not one of the SIM's operator. -/
def Phone.forgets (phone : Phone) (t : Tracker) : Bool :=
  decide (t.requestedApnType = apnTypeDefault ∧ t.canSetPreferApn = true) &&
    t.preferredApn.any (fun apn => some apn.numeric ≠ phone.simOperatorNumeric)

def Effect.connected : Effect → Option ApnSetting
  | .connect apn _ => some apn
  | _ => none

/-- The effects that lead to another attempt after the last access point failed. -/
def Effect.isRetry : Effect → Bool
  | .setAlarm _ | .reRegisterNetwork => true
  | _ => false

def Quiet (es : List Effect) : Prop :=
  es.filterMap Effect.connected = [] ∧ es.any Effect.isRetry = false

theorem buildFromAll_eq (phone : Phone) (t : Tracker) :
    buildFromAll phone t = ⟨.ok (t.allApns.getD []), t, []⟩ := by
  rw [buildFromAll, Traced.environment_bind, Traced.current_bind]
  cases t.allApns with
  | none => rfl
  | some apns =>
    simp only [addApns_eq]
    rfl

theorem buildWaitingApns_exact (phone : Phone) (t : Tracker) :
    buildWaitingApns phone t =
      ⟨.ok (phone.waiting t),
        { t with preferredApn := if phone.forgets t then none else t.preferredApn },
        if phone.forgets t then [.deletePreferApn] else []⟩ := by
  rw [buildWaitingApns, Traced.environment_bind, Traced.current_bind]
  by_cases hdun : t.requestedApnType = apnTypeDun
  · have hdefault : ¬ t.requestedApnType = apnTypeDefault := by
      rw [hdun]
      decide
    have hforgets : phone.forgets t = false := by simp [Phone.forgets, hdefault]
    rw [if_pos hdun, Phone.waiting, if_pos hdun, hforgets]
    rfl
  · rw [if_neg hdun, Phone.waiting, if_neg hdun]
    by_cases hdefault : t.requestedApnType = apnTypeDefault ∧ t.canSetPreferApn = true
    · rw [if_pos hdefault, Phone.usable, if_pos hdefault, Phone.forgets, decide_eq_true hdefault,
        Bool.true_and]
      cases hpreferred : t.preferredApn with
      | none =>
        have hsame : { t with preferredApn := none } = t := by rw [← hpreferred]
        simp [buildFromAll_eq, hsame]
      | some apn =>
        by_cases hown : some apn.numeric = phone.simOperatorNumeric
        · have hsame : { t with preferredApn := some apn } = t := by rw [← hpreferred]
          simp [hown, hsame, Option.filter, pure]
        · simp only [if_neg hown]
          rw [Traced.bind_eq (setPreferredApn_delete phone hdefault.2), Traced.update_bind,
            buildFromAll_eq]
          simp [hown, Option.filter]
    · rw [if_neg hdefault, Phone.usable, if_neg hdefault, Phone.forgets, decide_eq_false hdefault,
        Bool.false_and, buildFromAll_eq]
      rfl

/-- Building the list fails in no case and changes at most the preferred access point. -/
theorem buildWaitingApns_eq (phone : Phone) (t : Tracker) :
    ∃ preferred es, (preferred = none ∨ preferred = t.preferredApn) ∧ Quiet es ∧
      buildWaitingApns phone t =
        ⟨.ok (phone.waiting t), { t with preferredApn := preferred }, es⟩ := by
  refine ⟨_, _, ite_eq_or_eq _ _ _, ?_, buildWaitingApns_exact phone t⟩
  split <;> exact ⟨rfl, rfl⟩

/-! ### One attempt -/

theorem connectApn_eq (apn : ApnSetting) (reason : Option Reason) (phone : Phone) (t : Tracker) :
    connectApn apn reason phone t =
      ⟨.ok true, { t with activeApn := some apn, state := .initing },
        [.connect apn reason, .notifyDataConnection reason]⟩ := by
  simp [connectApn, bind, update, emit, setState, pure]

theorem getNextApn_eq (phone : Phone) (t : Tracker) :
    getNextApn phone t = ⟨.ok (t.waitingApns.bind List.head?), t, []⟩ := rfl

theorem findFreePdp_eq (phone : Phone) (t : Tracker) :
    findFreePdp phone t = ⟨.ok (phone.connInactive || t.connReset), t, []⟩ := rfl

/-- The first access point of the list is tried if the connection is free. -/
theorem setupWaiting_cons {phone : Phone} {t : Tracker} {apn : ApnSetting} {rest : List ApnSetting}
    (hwaiting : t.waitingApns = some (apn :: rest)) (reason : Option Reason) :
    setupWaiting reason phone t =
      (if (phone.connInactive || t.connReset) = true then connectApn apn reason
        else pure false : Handler Bool) phone t := by
  have hsome : ¬ t.waitingApns.isNone = true := by simp [hwaiting]
  have hnext : t.waitingApns.bind List.head? = some apn := by simp [hwaiting]
  rw [setupWaiting, Traced.current_bind, if_neg hsome, setupData,
    Traced.bind_eq (getNextApn_eq phone t)]
  simp only [hnext]
  rw [Traced.bind_eq (findFreePdp_eq phone t)]
  rfl

theorem setupWaiting_eq {phone : Phone} {t : Tracker} {apn : ApnSetting} {rest : List ApnSetting}
    (hwaiting : t.waitingApns = some (apn :: rest)) (hfree : phone.connInactive = true)
    (reason : Option Reason) :
    setupWaiting reason phone t =
      ⟨.ok true, { t with activeApn := some apn, state := .initing },
        [.connect apn reason, .notifyDataConnection reason]⟩ := by
  rw [setupWaiting_cons hwaiting, hfree, Bool.true_or, if_pos rfl, connectApn_eq]

theorem setupWaiting_occupied {phone : Phone} {t : Tracker} {apn : ApnSetting}
    {rest : List ApnSetting} (hwaiting : t.waitingApns = some (apn :: rest))
    (hbusy : phone.connInactive = false) (hreset : t.connReset = false) (reason : Option Reason) :
    setupWaiting reason phone t = ⟨.ok false, t, []⟩ := by
  rw [setupWaiting_cons hwaiting, hbusy, hreset, Bool.false_or, if_neg Bool.false_ne_true]
  rfl

theorem trySetupData_waits {phone : Phone} {t : Tracker} (hradio : phone.simulatedRadio = false)
    (hwait : ¬ ((t.state = .idle ∨ t.state = .scanning) ∧ phone.isReady t = true))
    (reason : Option Reason) :
    trySetupData reason phone t = ⟨.ok false, t, []⟩ := by
  have hradio' : ¬ phone.simulatedRadio = true := by simp [hradio]
  rw [trySetupData, Traced.environment_bind, Traced.current_bind, if_neg hradio', if_neg hwait]
  rfl

theorem trySetupData_scanning {phone : Phone} {t : Tracker} (hradio : phone.simulatedRadio = false)
    (hready : phone.isReady t = true) (hscanning : t.state = .scanning) (reason : Option Reason) :
    trySetupData reason phone t = setupWaiting reason phone t := by
  have hradio' : ¬ phone.simulatedRadio = true := by simp [hradio]
  have hidle : t.state ≠ .idle := by simp [hscanning]
  rw [trySetupData, Traced.environment_bind, Traced.current_bind, if_neg hradio',
    if_pos ⟨.inr hscanning, hready⟩, if_neg hidle]

theorem trySetupData_idle {phone : Phone} {t : Tracker} (hradio : phone.simulatedRadio = false)
    (hready : phone.isReady t = true) (hidle : t.state = .idle) (reason : Option Reason) :
    trySetupData reason phone t = setupFirst reason phone t := by
  have hradio' : ¬ phone.simulatedRadio = true := by simp [hradio]
  rw [trySetupData, Traced.environment_bind, Traced.current_bind, if_neg hradio',
    if_pos ⟨.inl hidle, hready⟩, if_pos hidle]

/-- The tracker that has built its list and tries the first access point of it. -/
theorem setupFirst_cons {phone : Phone} {t : Tracker} {apn : ApnSetting} {rest : List ApnSetting}
    (hwaiting : phone.waiting t = apn :: rest) (hfree : phone.connInactive = true)
    (hlist : t.allApns ≠ none) (reason : Option Reason) :
    ∃ preferred es, Quiet es ∧ setupFirst reason phone t =
      ⟨.ok true, { t with preferredApn := preferred, waitingApns := some (apn :: rest),
                          waitingApnsPermanentFailureCountDown := (apn :: rest).length,
                          activeApn := some apn, state := .initing },
        es ++ [.connect apn reason, .notifyDataConnection reason]⟩ := by
  obtain ⟨preferred, es, -, hquiet, hbuild⟩ := buildWaitingApns_eq phone t
  refine ⟨preferred, es, hquiet, ?_⟩
  rw [hwaiting] at hbuild
  have hsome : ¬ t.allApns.isNone = true := by simpa using hlist
  rw [setupFirst, Traced.current_bind, Traced.bind_eq hbuild]
  simp only [Traced.update_bind, List.isEmpty_cons, Bool.false_eq_true, if_false, if_neg hsome]
  rw [setupWaiting_eq rfl hfree]

/-- With an empty list the tracker has failed at once. -/
theorem setupFirst_nil {phone : Phone} {t : Tracker} (hwaiting : phone.waiting t = [])
    (reason : Option Reason) :
    ∃ preferred es, Quiet es ∧ setupFirst reason phone t =
      ⟨.ok false, { t with preferredApn := preferred, waitingApns := some [],
                           waitingApnsPermanentFailureCountDown := 0, state := .failed }, es⟩ := by
  obtain ⟨preferred, es, -, hquiet, hbuild⟩ := buildWaitingApns_eq phone t
  refine ⟨preferred, es, hquiet, ?_⟩
  rw [hwaiting] at hbuild
  rw [setupFirst, Traced.current_bind, Traced.bind_eq hbuild]
  simp [notifyNoData, setState, bind, update, pure]

/-! ### A failure -/

theorem removeFirstWaiting_eq {phone : Phone} {t : Tracker} {apn : ApnSetting}
    {rest : List ApnSetting} (h : t.waitingApns = some (apn :: rest)) :
    removeFirstWaiting phone t = ⟨.ok (), { t with waitingApns := some rest }, []⟩ := by
  rw [removeFirstWaiting, Traced.current_bind]
  simp only [h]
  rfl

theorem tryNextApn_more {phone : Phone} {t : Tracker} (h : t.waitingApns ≠ some [])
    (cause : FailCause) (reason : Option Reason) :
    tryNextApn cause reason phone t =
      ⟨.ok (), { t with state := .scanning }, [.sendTrySetup reason true]⟩ := by
  rw [tryNextApn, Traced.current_bind, if_neg h]
  simp [bind, setState, update, emit]

theorem scheduleReconnect_eq {phone : Phone} {t : Tracker} (hfailed : t.state = .failed)
    (hwaiting : t.waitingApns = some []) (cause : FailCause) (reason : Option Reason) :
    scheduleReconnect cause reason phone t =
      ⟨.ok (), { t with reconnectIntent := true }, [.setAlarm reason, .increaseRetryCount]⟩ := by
  cases hcause : cause.isUnknown with
  | true => simp [scheduleReconnect, bind, update, emit, pure, hcause]
  | false =>
    simp [scheduleReconnect, bind, update, emit, hcause, notifyNoData, setState, hfailed, hwaiting]

/-- The scan is over. -/
structure GivesUp (t : Tracker) (r : Result Effect Fault Tracker Unit) : Prop where
  value : r.value = .ok ()
  state : r.state.state = .failed
  waitingApns : r.state.waitingApns = some []
  type : r.state.requestedApnType = t.requestedApnType
  countDown :
    r.state.waitingApnsPermanentFailureCountDown = t.waitingApnsPermanentFailureCountDown
  connects : r.events.filterMap Effect.connected = []

/-- For the default type another attempt follows in any case. -/
theorem reconnectAfterFail_spec (phone : Phone) {t : Tracker} (hfailed : t.state = .failed)
    (hwaiting : t.waitingApns = some []) (cause : FailCause) (reason : Option Reason) :
    GivesUp t (reconnectAfterFail cause reason phone t) ∧
      (t.requestedApnType = apnTypeDefault →
        (reconnectAfterFail cause reason phone t).events.any Effect.isRetry = true) := by
  rw [reconnectAfterFail, Traced.environment_bind, Traced.current_bind, if_pos hfailed]
  split_ifs with hretry hother hregistered
  · rw [scheduleReconnect_eq hfailed hwaiting]
    exact ⟨⟨rfl, hfailed, hwaiting, rfl, rfl, rfl⟩, fun _ => rfl⟩
  · exact ⟨⟨rfl, hfailed, hwaiting, rfl, rfl, rfl⟩, fun htype => absurd htype hother⟩
  · rw [Traced.emit_bind, scheduleReconnect_eq hfailed hwaiting]
    exact ⟨⟨rfl, hfailed, hwaiting, rfl, rfl, rfl⟩, fun _ => rfl⟩
  · exact ⟨⟨rfl, hfailed, hwaiting, rfl, rfl, rfl⟩, fun _ => rfl⟩

theorem notifyNoData_eq {phone : Phone} {t : Tracker} (hwaiting : t.waitingApns = some []) :
    notifyNoData phone t = ⟨.ok (), { t with state := .failed }, []⟩ := by
  simp [notifyNoData, setState, update, hwaiting]

/-- With all access points tried: all failures were permanent, or another attempt follows. -/
theorem tryNextApn_last (phone : Phone) {t : Tracker} (hwaiting : t.waitingApns = some [])
    (cause : FailCause) (reason : Option Reason) :
    GivesUp t (tryNextApn cause reason phone t) ∧
      (t.requestedApnType = apnTypeDefault →
        ((tryNextApn cause reason phone t).events.any Effect.isRetry = true ↔
          t.waitingApnsPermanentFailureCountDown ≠ 0)) := by
  rw [tryNextApn, Traced.current_bind, if_pos hwaiting]
  split_ifs with hzero
  · rw [Traced.bind_eq (notifyNoData_eq hwaiting)]
    exact ⟨⟨rfl, rfl, hwaiting, rfl, rfl, rfl⟩,
      fun _ => iff_of_false Bool.false_ne_true (by simp [hzero])⟩
  · obtain ⟨hgives, hagain⟩ := reconnectAfterFail_spec phone
      (t := { t with state := .failed }) rfl hwaiting cause reason
    rw [startDelayedRetry, Traced.bind_eq (notifyNoData_eq hwaiting)]
    exact ⟨⟨hgives.value, hgives.state, hgives.waitingApns, hgives.type, hgives.countDown,
      hgives.connects⟩,
      fun htype => iff_of_true (hagain htype) hzero⟩

theorem onDataSetupFailed_eq {phone : Phone} {t : Tracker} {apn : ApnSetting}
    {rest : List ApnSetting} (hwaiting : t.waitingApns = some (apn :: rest)) (cause : FailCause)
    (reason : Option Reason) :
    onDataSetupFailed cause reason phone t =
      tryNextApn cause reason phone { t.countDown cause with waitingApns := some rest } := by
  have hremove : removeFirstWaiting phone (t.countDown cause) = _ := removeFirstWaiting_eq hwaiting
  rw [onDataSetupFailed, Traced.update_bind, Traced.bind_eq hremove]
  rfl

/-! ### The list is there -/

def Tracker.Listed (t : Tracker) : Prop :=
  t.allApns = none →
    t.preferredApn = none ∧ t.activeApn = none ∧ t.waitingApns.getD [] = []

/-- The invariant of all messages, as long as the requested type is not DUN. -/
structure Sound (t : Tracker) : Prop where
  type : t.requestedApnType ≠ apnTypeDun
  listed : t.Listed

theorem Tracker.Listed.of_waiting {t : Tracker} (h : t.Listed) {apn : ApnSetting}
    (hnext : t.waitingApns.bind List.head? = some apn) : t.allApns ≠ none := by
  intro hnone
  obtain ⟨waiting, hwaiting, hhead⟩ := Option.bind_eq_some_iff.mp hnext
  have hempty := (h hnone).2.2
  rw [hwaiting, Option.getD_some] at hempty
  rw [hempty] at hhead
  cases hhead

theorem Tracker.allApns_ne_none {phone : Phone} {t : Tracker}
    (htype : t.requestedApnType ≠ apnTypeDun) (hpreferred : t.allApns = none → t.preferredApn = none)
    (hwaiting : phone.waiting t ≠ []) : t.allApns ≠ none := by
  intro hnone
  apply hwaiting
  simp [Phone.waiting, Phone.usable, htype, hnone, hpreferred hnone]

section Keeps
variable {phone : Phone}

abbrev Keeps (phone : Phone) {α : Type} (m : Handler α) : Prop := Traced.Preserves phone Sound m

theorem keeps_update {f : Tracker → Tracker}
    (h : ∀ t, (f t).requestedApnType = t.requestedApnType ∧ (f t).allApns = t.allApns ∧
      (f t).preferredApn = t.preferredApn ∧ (f t).activeApn = t.activeApn ∧
      (f t).waitingApns = t.waitingApns) : Keeps phone (update f) := by
  apply Traced.Preserves.update
  intro t ht
  obtain ⟨htype, hall, hpreferred, hactive, hwaiting⟩ := h t
  refine ⟨htype ▸ ht.type, ?_⟩
  rw [Tracker.Listed, hall, hpreferred, hactive, hwaiting]
  exact ht.listed

theorem keeps_setState (s : State) : Keeps phone (setState s) := by
  apply Traced.Preserves.update
  intro t ht
  refine ⟨ht.type, fun hnone => ?_⟩
  obtain ⟨hpreferred, hactive, hwaiting⟩ := ht.listed hnone
  refine ⟨hpreferred, hactive, ?_⟩
  dsimp only
  split_ifs
  · cases t.waitingApns <;> rfl
  · exact hwaiting

theorem keeps_setPreferredApn (pos : ℤ) : Keeps phone (setPreferredApn pos) :=
  .bind .current (fun _ => .ite (.bind .emit (fun _ => .ite .emit .pure)) .pure)

theorem keeps_onRecordsLoaded : Keeps phone onRecordsLoaded := by
  intro t ht
  rw [onRecordsLoaded_eq, Phone.loaded]
  split_ifs
  · exact ⟨ht.type, fun hnone => absurd hnone (Option.some_ne_none _)⟩
  · exact ⟨ht.type, fun hnone => absurd hnone (Option.some_ne_none _)⟩

theorem keeps_cleanUpConnection (reason : Option Reason) : Keeps phone (cleanUpConnection reason) := by
  intro t ht
  rw [cleanUpConnection_eq]
  exact ⟨ht.type, fun hnone => ⟨(ht.listed hnone).1, rfl, (ht.listed hnone).2.2⟩⟩

theorem keeps_setupData (reason : Option Reason) : Keeps phone (setupData reason) := by
  intro t ht
  rw [setupData, Traced.bind_eq (getNextApn_eq phone t)]
  cases hnext : t.waitingApns.bind List.head? with
  | none => exact ht
  | some apn =>
    simp only [Traced.bind_eq (findFreePdp_eq phone t)]
    split_ifs
    · rw [connectApn_eq]
      exact ⟨ht.type, fun hnone => absurd hnone (ht.listed.of_waiting hnext)⟩
    · exact ht

theorem keeps_setupWaiting (reason : Option Reason) : Keeps phone (setupWaiting reason) :=
  .bind .current (fun _ => .ite .fault (keeps_setupData reason))

theorem keeps_setupFirst (reason : Option Reason) : Keeps phone (setupFirst reason) := by
  intro t ht
  obtain ⟨preferred, es, hpreferred, -, hbuild⟩ := buildWaitingApns_eq phone t
  rw [setupFirst, Traced.current_bind, Traced.bind_eq hbuild, Traced.update_bind]
  have hbuilt : Sound { t with
      preferredApn := preferred, waitingApns := some (phone.waiting t),
      waitingApnsPermanentFailureCountDown := (phone.waiting t).length } := by
    refine ⟨ht.type, fun hnone => ⟨?_, (ht.listed hnone).2.1, ?_⟩⟩
    · rcases hpreferred with rfl | rfl
      · rfl
      · exact (ht.listed hnone).1
    · by_contra hne
      exact Tracker.allApns_ne_none ht.type (fun hnone => (ht.listed hnone).1) hne hnone
  have hrest : Keeps phone (if (phone.waiting t).isEmpty then do notifyNoData; pure false
      else if t.allApns.isNone then fault .nullPointer else setupWaiting reason) :=
    .ite (.bind (keeps_setState _) (fun _ => .pure)) (.ite .fault (keeps_setupWaiting reason))
  exact hrest _ hbuilt

theorem keeps_trySetupData (reason : Option Reason) : Keeps phone (trySetupData reason) :=
  .bind .environment (fun _ => .bind .current (fun _ =>
    .ite (.bind (keeps_setState _) (fun _ => .bind .emit (fun _ => .pure)))
      (.ite (.ite (keeps_setupFirst reason) (keeps_setupWaiting reason)) .pure)))

theorem keeps_startNetStatPoll : Keeps phone startNetStatPoll :=
  .bind .current (fun _ =>
    .ite (.bind (keeps_update (fun _ => ⟨rfl, rfl, rfl, rfl, rfl⟩)) (fun _ => .emit)) .pure)

theorem keeps_onGprsAttached : Keeps phone onGprsAttached :=
  have hsetup : Keeps phone (do let _ ← trySetupData (some .gprsAttached); pure ()) :=
    .bind (keeps_trySetupData _) (fun _ => .pure)
  .bind .current (fun _ => .ite (.bind keeps_startNetStatPoll (fun _ => .emit))
    (.ite (.bind (keeps_cleanUpConnection _) (fun _ => .bind .emit (fun _ => hsetup))) hsetup))

theorem keeps_scheduleReconnect (cause : FailCause) (reason : Option Reason) :
    Keeps phone (scheduleReconnect cause reason) :=
  .bind (keeps_update (fun _ => ⟨rfl, rfl, rfl, rfl, rfl⟩)) (fun _ => .bind .emit (fun _ =>
    .bind .emit (fun _ => .ite .pure (keeps_setState _))))

theorem keeps_reconnectAfterFail (cause : FailCause) (reason : Option Reason) :
    Keeps phone (reconnectAfterFail cause reason) := by
  refine .bind .environment (fun _ => .bind .current (fun _ => .ite ?_ .pure))
  refine .ite (keeps_scheduleReconnect _ _) (.ite (.bind .emit (fun _ => .emit)) (.ite ?_ ?_))
  · exact .bind .emit (fun _ => keeps_scheduleReconnect _ _)
  · exact .bind (keeps_update (fun _ => ⟨rfl, rfl, rfl, rfl, rfl⟩)) (fun _ =>
      .bind .emit (fun _ => .emit))

theorem keeps_removeFirstWaiting : Keeps phone removeFirstWaiting := by
  intro t ht
  rw [removeFirstWaiting, Traced.current_bind]
  cases hwaiting : t.waitingApns with
  | none => exact ht
  | some waiting =>
    cases waiting with
    | nil => exact ht
    | cons apn rest =>
      have hnext : t.waitingApns.bind List.head? = some apn := by simp [hwaiting]
      have hall := ht.listed.of_waiting hnext
      exact ⟨ht.type, fun hnone => absurd hnone hall⟩

theorem keeps_onDataSetupFailed (cause : FailCause) (reason : Option Reason) :
    Keeps phone (onDataSetupFailed cause reason) := by
  have hnext : Keeps phone (tryNextApn cause reason) :=
    .bind .current (fun _ => .ite
      (.ite (.bind (keeps_setState _) (fun _ => .emit))
        (.bind (keeps_setState _) (fun _ => keeps_reconnectAfterFail cause reason)))
      (.bind (keeps_setState _) (fun _ => .emit)))
  exact .bind (keeps_update (fun _ => ⟨rfl, rfl, rfl, rfl, rfl⟩)) (fun _ =>
    .bind keeps_removeFirstWaiting (fun _ => hnext))

theorem keeps_preferActiveApn : Keeps phone preferActiveApn := by
  refine .bind .current (fun t => .ite (.bind (.update ?_) (fun _ => ?_)) .pure)
  · intro t ht
    refine ⟨ht.type, fun hnone => ?_⟩
    obtain ⟨-, hactive, hwaiting⟩ := ht.listed hnone
    exact ⟨hactive, hactive, hwaiting⟩
  · cases t.activeApn with
    | none => exact .fault
    | some apn => exact keeps_setPreferredApn apn.id

theorem keeps_onDataSetupDone (reason : Option Reason) : Keeps phone (onDataSetupDone reason) := by
  have hnotify : Keeps phone (notifyDefaultData reason) :=
    .bind (keeps_setState _) (fun _ => .bind .emit (fun _ => .bind keeps_startNetStatPoll (fun _ =>
      .bind .emit (fun _ => keeps_update (fun _ => ⟨rfl, rfl, rfl, rfl, rfl⟩)))))
  exact .bind .environment (fun _ => .bind .emit (fun _ =>
    .ite (.bind keeps_preferActiveApn (fun _ => hnotify)) hnotify))

theorem keeps_receive (message : Message) : Keeps phone (receive message) := by
  refine .bind (keeps_update (fun _ => ⟨rfl, rfl, rfl, rfl, rfl⟩)) (fun _ => ?_)
  cases message with
  | recordsLoaded => exact keeps_onRecordsLoaded
  | gprsAttached =>
    exact .bind .current (fun _ =>
      .ite (.bind keeps_onRecordsLoaded (fun _ => keeps_onGprsAttached)) keeps_onGprsAttached)
  | trySetupData reason => exact .bind (keeps_trySetupData reason) (fun _ => .pure)
  | dataSetupComplete cause reason =>
    cases cause with
    | none => exact keeps_onDataSetupDone reason
    | some cause => exact keeps_onDataSetupFailed cause reason

end Keeps

/-- In no run from the creation of the tracker an access point is there without a list. -/
theorem sound_run (messages : List (Phone × Message)) :
    Sound (run (fun t m => ((receive m.2 m.1 t).state, (receive m.2 m.1 t).value)) Tracker.created
      messages).1 := by
  apply Along.invariant_run (Q := fun _ _ => True) Sound
  · intro t m ht _
    exact keeps_receive m.2 t ht
  · exact ⟨by decide, fun _ => ⟨rfl, rfl, rfl⟩⟩
  · exact Along.of_forall (P := fun _ => True) (fun _ _ => trivial)

end Fw100.Telephony
