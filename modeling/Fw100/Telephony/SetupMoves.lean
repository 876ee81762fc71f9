import Fw100.Telephony.Scan

/-!
# What the handlers of a setup can do

Every way in which `trySetupData` and `onDataSetupComplete` can end, for every tracker: the
value or the fault, the tracker that is left and what is asked for.
-/
namespace Fw100.Telephony
open Library
open Traced (emit environment current update fault)

/-! ### A setup -/

/-- The ways of `trySetupData`. An idle tracker builds its list first. -/
inductive SetupMove (phone : Phone) (t : Tracker) (reason : Option Reason) :
    Result Effect Fault Tracker Bool → Prop where
  | waits : SetupMove phone t reason ⟨.ok false, t, []⟩
  | simulated (hradio : phone.simulatedRadio = true) :
      SetupMove phone t reason
        ⟨.ok true, { t with state := .connected }, [.notifyDataConnection reason]⟩
  | unscanned (hscanning : t.state = .scanning) (hnone : t.waitingApns = none) :
      SetupMove phone t reason ⟨.error .nullPointer, t, []⟩
  | next (apn : ApnSetting) (rest : List ApnSetting) (hready : phone.isReady t = true)
      (hscanning : t.state = .scanning) (hwaiting : t.waitingApns = some (apn :: rest)) :
      SetupMove phone t reason
        ⟨.ok true, { t with activeApn := some apn, state := .initing },
          [.connect apn reason, .notifyDataConnection reason]⟩
  | nothing (preferred : Option ApnSetting) (es : List Effect)
      (hpreferred : preferred = none ∨ preferred = t.preferredApn) (hes : Quiet es)
      (hidle : t.state = .idle) (hwaiting : phone.waiting t = []) :
      SetupMove phone t reason
        ⟨.ok false, { t with preferredApn := preferred, waitingApns := some [],
                             waitingApnsPermanentFailureCountDown := 0, state := .failed }, es⟩
  | unlisted (preferred : Option ApnSetting) (es : List Effect)
      (hpreferred : preferred = none ∨ preferred = t.preferredApn) (hes : Quiet es)
      (hidle : t.state = .idle) (hwaiting : phone.waiting t ≠ []) (hlist : t.allApns = none) :
      SetupMove phone t reason
        ⟨.error .nullPointer, { t with
          preferredApn := preferred, waitingApns := some (phone.waiting t),
          waitingApnsPermanentFailureCountDown := (phone.waiting t).length }, es⟩
  | busy (preferred : Option ApnSetting) (es : List Effect)
      (hpreferred : preferred = none ∨ preferred = t.preferredApn) (hes : Quiet es)
      (hidle : t.state = .idle) (hlist : t.allApns ≠ none) :
      SetupMove phone t reason
        ⟨.ok false, { t with
          preferredApn := preferred, waitingApns := some (phone.waiting t),
          waitingApnsPermanentFailureCountDown := (phone.waiting t).length }, es⟩
  | first (preferred : Option ApnSetting) (es : List Effect) (apn : ApnSetting)
      (rest : List ApnSetting) (hpreferred : preferred = none ∨ preferred = t.preferredApn)
      (hes : Quiet es) (hready : phone.isReady t = true) (hidle : t.state = .idle)
      (hwaiting : phone.waiting t = apn :: rest) (hlist : t.allApns ≠ none) :
      SetupMove phone t reason
        ⟨.ok true, { t with
          preferredApn := preferred, waitingApns := some (apn :: rest),
          waitingApnsPermanentFailureCountDown := (apn :: rest).length, activeApn := some apn,
          state := .initing }, es ++ [.connect apn reason, .notifyDataConnection reason]⟩

theorem setupFirst_move {phone : Phone} {t : Tracker} (reason : Option Reason)
    (hready : phone.isReady t = true) (hidle : t.state = .idle) :
    SetupMove phone t reason (setupFirst reason phone t) := by
  obtain ⟨preferred, es, hpreferred, hes, hbuild⟩ := buildWaitingApns_eq phone t
  cases hwaiting : phone.waiting t with
  | nil =>
    rw [hwaiting] at hbuild
    have hrun : setupFirst reason phone t =
        ⟨.ok false, { t with preferredApn := preferred, waitingApns := some [],
                             waitingApnsPermanentFailureCountDown := 0, state := .failed }, es⟩ := by
      rw [setupFirst, Traced.current_bind, Traced.bind_eq hbuild]
      simp [notifyNoData, setState, bind, update, pure]
    rw [hrun]
    exact .nothing preferred es hpreferred hes hidle hwaiting
  | cons apn rest =>
    have hne : phone.waiting t ≠ [] := by simp [hwaiting]
    have hcount : (phone.waiting t).isEmpty = false := by simp [hwaiting]
    by_cases hlist : t.allApns = none
    · have hrun : setupFirst reason phone t =
          ⟨.error .nullPointer, { t with
            preferredApn := preferred, waitingApns := some (phone.waiting t),
            waitingApnsPermanentFailureCountDown := (phone.waiting t).length }, es⟩ := by
        rw [setupFirst, Traced.current_bind, Traced.bind_eq hbuild, Traced.update_bind]
        simp [hcount, hlist, fault]
      rw [hrun]
      exact .unlisted preferred es hpreferred hes hidle hne hlist
    · have hsome : ¬ t.allApns.isNone = true := by simpa using hlist
      let built : Tracker := { t with
        preferredApn := preferred, waitingApns := some (phone.waiting t),
        waitingApnsPermanentFailureCountDown := (phone.waiting t).length }
      have hgo : setupFirst reason phone t =
          ⟨(setupWaiting reason phone built).value, (setupWaiting reason phone built).state,
            es ++ (setupWaiting reason phone built).events⟩ := by
        rw [setupFirst, Traced.current_bind, Traced.bind_eq hbuild, Traced.update_bind]
        simp only [hcount, Bool.false_eq_true, if_false, if_neg hsome]
        rfl
      have hbuilt : built.waitingApns = some (apn :: rest) := congrArg some hwaiting
      rw [hgo, setupWaiting_cons hbuilt]
      split_ifs
      · rw [connectApn_eq]
        have hfirst := @SetupMove.first phone t reason preferred es apn rest hpreferred hes hready
          hidle hwaiting hlist
        rw [← hwaiting] at hfirst
        exact hfirst
      · simp only [pure, List.append_nil]
        exact .busy preferred es hpreferred hes hidle hlist

theorem setupWaiting_move {phone : Phone} {t : Tracker} (reason : Option Reason)
    (hready : phone.isReady t = true) (hscanning : t.state = .scanning) :
    SetupMove phone t reason (setupWaiting reason phone t) := by
  cases hwaiting : t.waitingApns with
  | none =>
    have hrun : setupWaiting reason phone t = ⟨.error .nullPointer, t, []⟩ := by
      rw [setupWaiting, Traced.current_bind, if_pos (by simp [hwaiting])]
      rfl
    rw [hrun]
    exact .unscanned hscanning hwaiting
  | some waiting =>
    cases waiting with
    | nil =>
      have hrun : setupWaiting reason phone t = ⟨.ok false, t, []⟩ := by
        rw [setupWaiting, Traced.current_bind, if_neg (by simp [hwaiting]), setupData,
          Traced.bind_eq (getNextApn_eq phone t), hwaiting]
        rfl
      rw [hrun]
      exact .waits
    | cons apn rest =>
      rw [setupWaiting_cons hwaiting]
      split_ifs
      · rw [connectApn_eq]
        exact .next apn rest hready hscanning hwaiting
      · exact .waits

theorem trySetupData_move (phone : Phone) (t : Tracker) (reason : Option Reason) :
    SetupMove phone t reason (trySetupData reason phone t) := by
  cases hradio : phone.simulatedRadio with
  | true =>
    have hrun : trySetupData reason phone t =
        ⟨.ok true, { t with state := .connected }, [.notifyDataConnection reason]⟩ := by
      rw [trySetupData, Traced.environment_bind, Traced.current_bind, if_pos hradio]
      simp [setState, bind, update, emit, pure]
    rw [hrun]
    exact .simulated hradio
  | false =>
    by_cases hgo : (t.state = .idle ∨ t.state = .scanning) ∧ phone.isReady t = true
    · rcases hgo.1 with hidle | hscanning
      · rw [trySetupData_idle hradio hgo.2 hidle]
        exact setupFirst_move reason hgo.2 hidle
      · rw [trySetupData_scanning hradio hgo.2 hscanning]
        exact setupWaiting_move reason hgo.2 hscanning
    · rw [trySetupData_waits hradio hgo]
      exact .waits

/-! ### A failed setup -/

/-- The ways of `onDataSetupComplete` with a cause. -/
inductive FailureMove (t : Tracker) (cause : FailCause) (reason : Option Reason) :
    Result Effect Fault Tracker Unit → Prop where
  | empty (e : Fault) (hwaiting : t.waitingApns.getD [] = []) :
      FailureMove t cause reason ⟨.error e, t.countDown cause, []⟩
  | more (apn : ApnSetting) (rest : List ApnSetting) (hrest : rest ≠ [])
      (hwaiting : t.waitingApns = some (apn :: rest)) :
      FailureMove t cause reason
        ⟨.ok (), { t.countDown cause with waitingApns := some rest, state := .scanning },
          [.sendTrySetup reason true]⟩
  | last (apn : ApnSetting) (es : List Effect) (intent reregister : Bool)
      (hwaiting : t.waitingApns = some [apn]) (hes : es.filterMap Effect.connected = [])
      (hintent : t.reconnectIntent = true → intent = true) :
      FailureMove t cause reason
        ⟨.ok (), { t.countDown cause with
          waitingApns := some [], state := .failed, reconnectIntent := intent,
          reregisterOnReconnectFailure := reregister }, es⟩

theorem tryNextApn_last_move {t : Tracker} {cause : FailCause} {reason : Option Reason}
    {apn : ApnSetting} (phone : Phone) (hwaiting : t.waitingApns = some [apn]) :
    FailureMove t cause reason
      (tryNextApn cause reason phone { t.countDown cause with waitingApns := some [] }) := by
  let removed : Tracker := { t.countDown cause with waitingApns := some [] }
  let failed : Tracker := { removed with state := .failed }
  have hnone : notifyNoData phone removed = ⟨.ok (), failed, []⟩ := notifyNoData_eq rfl
  rw [tryNextApn, Traced.current_bind, if_pos rfl]
  split_ifs with hzero
  · rw [Traced.bind_eq hnone]
    exact .last apn [.notifyDataConnection (some .apnFailed)] t.reconnectIntent
      t.reregisterOnReconnectFailure hwaiting rfl id
  · have hschedule : scheduleReconnect cause reason phone failed =
        ⟨.ok (), { failed with reconnectIntent := true }, [.setAlarm reason, .increaseRetryCount]⟩ :=
      scheduleReconnect_eq rfl rfl cause reason
    rw [startDelayedRetry, Traced.bind_eq hnone, reconnectAfterFail, Traced.environment_bind,
      Traced.current_bind, if_pos rfl]
    split_ifs with hretry hother hregistered
    · rw [hschedule]
      exact .last apn [.setAlarm reason, .increaseRetryCount] true t.reregisterOnReconnectFailure
        hwaiting rfl (fun _ => rfl)
    · exact .last apn [.notifyDataConnection (some .apnFailed), .disableApn t.requestedApnType]
        t.reconnectIntent t.reregisterOnReconnectFailure hwaiting rfl id
    · rw [Traced.emit_bind, hschedule]
      exact .last apn [.retryForever, .setAlarm reason, .increaseRetryCount] true
        t.reregisterOnReconnectFailure hwaiting rfl (fun _ => rfl)
    · exact .last apn [.reRegisterNetwork, .resetRetryCount] t.reconnectIntent true hwaiting rfl id

theorem onDataSetupFailed_move (phone : Phone) (t : Tracker) (cause : FailCause)
    (reason : Option Reason) : FailureMove t cause reason (onDataSetupFailed cause reason phone t) := by
  cases hwaiting : t.waitingApns with
  | none =>
    have hrun : onDataSetupFailed cause reason phone t =
        ⟨.error .nullPointer, t.countDown cause, []⟩ := by
      simp [onDataSetupFailed, removeFirstWaiting, bind, update, current, fault, Tracker.countDown,
        hwaiting]
    rw [hrun]
    exact .empty _ (by simp [hwaiting])
  | some waiting =>
    cases waiting with
    | nil =>
      have hrun : onDataSetupFailed cause reason phone t =
          ⟨.error .indexOutOfBounds, t.countDown cause, []⟩ := by
        simp [onDataSetupFailed, removeFirstWaiting, bind, update, current, fault, Tracker.countDown,
          hwaiting]
      rw [hrun]
      exact .empty _ (by simp [hwaiting])
    | cons apn rest =>
      rw [onDataSetupFailed_eq hwaiting]
      cases rest with
      | nil => exact tryNextApn_last_move phone hwaiting
      | cons apn' rest =>
        rw [tryNextApn_more (by simp)]
        exact .more apn (apn' :: rest) (by simp) hwaiting

/-! ### The preferred access point -/

theorem setPreferredApn_eq (pos : ℤ) (phone : Phone) (t : Tracker) :
    ∃ es, Quiet es ∧ setPreferredApn pos phone t = ⟨.ok (), t, es⟩ := by
  rw [setPreferredApn, Traced.current_bind]
  split_ifs with hset hpos
  · exact ⟨[.deletePreferApn, .insertPreferApn pos], ⟨rfl, rfl⟩, rfl⟩
  · exact ⟨[.deletePreferApn], ⟨rfl, rfl⟩, rfl⟩
  · exact ⟨[], ⟨rfl, rfl⟩, rfl⟩

theorem preferActiveApn_eq (phone : Phone) (t : Tracker) :
    ∃ value preferred es, (preferred = t.preferredApn ∨ preferred = t.activeApn) ∧ Quiet es ∧
      (t.activeApn ≠ none → value = .ok ()) ∧
      preferActiveApn phone t = ⟨value, { t with preferredApn := preferred }, es⟩ := by
  rw [preferActiveApn, Traced.current_bind]
  split_ifs
  · rw [Traced.update_bind]
    cases hactive : t.activeApn with
    | none =>
      exact ⟨.error .nullPointer, none, [], .inr rfl, ⟨rfl, rfl⟩, fun h => absurd rfl h, rfl⟩
    | some apn =>
      obtain ⟨es, hes, hset⟩ :=
        setPreferredApn_eq apn.id phone { t with preferredApn := some apn }
      refine ⟨.ok (), some apn, es, .inr rfl, hes, fun _ => rfl, ?_⟩
      rw [hactive] at hset
      exact hset
  · exact ⟨.ok (), t.preferredApn, [], .inl rfl, ⟨rfl, rfl⟩, fun _ => rfl, rfl⟩

end Fw100.Telephony
