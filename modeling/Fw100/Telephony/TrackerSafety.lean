import Fw100.Telephony.TrackerRuns

/-!
# Safety of the tracker

The invariants of the tracker, put to use: the access points in every state, the only two faults,
the alarm and the polls of a tracker whose connection answers in time, and the conditions under
which a connection is asked for.
-/
namespace Fw100.Telephony.Polled
open Library
open Traced (emit environment current update fault)

/-! ### The access points -/

theorem stable_sane : Stable Tracker.Sane := by
  intro t t' h hsight _
  simp only [sight, Prod.mk.injEq] at hsight
  obtain ⟨hstate, hwaiting, hactive, hall, hpreferred, -⟩ := hsight
  constructor
  · rw [hstate]
    exact h.connecting
  · rw [hstate, hwaiting]
    exact h.failed
  · rw [hstate, hwaiting]
    exact h.scanning
  · rw [hstate, hwaiting, hactive]
    exact h.initing
  · rw [hstate, hwaiting, hactive, hall, hpreferred]
    exact h.unlisted

theorem cleanedUp_sane {t : Tracker} (h : t.Sane) (tearDown : Bool) : (cleanedUp tearDown t).Sane := by
  cases tearDown with
  | true =>
    have hs := h.settle (.inr (.inr rfl)) (.inr rfl)
    exact ⟨hs.connecting, hs.failed, hs.scanning, hs.initing, hs.unlisted⟩
  | false =>
    have hs := h.settle (.inl rfl) (.inl rfl)
    exact ⟨hs.connecting, hs.failed, hs.scanning, hs.initing, hs.unlisted⟩

section Sane
variable (d : Device)

theorem closedSane : Closed d (fun m => Traced.Preserves d (Holds Tracker.Sane) m) :=
  closed_holds stable_sane (fun tearDown _ h => cleanedUp_sane h tearDown)
    (fun _ h => h.rebuilt d.toPhone) (fun _ _ _ h hmove => h.setup hmove)
    (fun _ _ h => h.settle (.inr (.inl rfl)) (.inr rfl))

theorem sane_idle (reason : Option Reason) :
    Traced.Preserves d (Holds Tracker.Sane) (base (gotoIdleAndNotifyDataConnection reason)) :=
  Traced.Preserves.within (p := trackerPart) (fun _ h => h.settle (.inl rfl) (.inl rfl))

theorem sane_prefer : Traced.Preserves d (Holds Tracker.Sane) (base preferActiveApn) := by
  have hprefer : Traced.Preserves d.toPhone Tracker.Sane preferActiveApn := by
    intro t h
    obtain ⟨value, preferred, es, hpreferred, -, -, hrun⟩ := preferActiveApn_eq d.toPhone t
    rw [hrun]
    exact h.prefer hpreferred
  exact Traced.Preserves.within (p := trackerPart) hprefer

theorem sane_reply {m : Message} (h : m.isReply = true) :
    Traced.Preserves d (Holds Tracker.Sane) (handleMessage m) := by
  have hclosed := closedSane d
  cases m with
  | dataSetupComplete cause reason =>
    cases cause with
    | none =>
      exact hclosed.onDataSetupDone (Traced.Preserves.within (p := trackerPart)
        (fun _ h => h.settle (.inr (.inl rfl)) (.inr rfl))) (fun _ _ => sane_prefer d) reason
    | some cause =>
      refine .bind .environment (fun _ => .bind .current (fun _ => ?_))
      apply Traced.Preserves.within (p := trackerPart)
      intro t ht
      exact ht.failure (onDataSetupFailed_move _ t cause reason)
  | disconnectDone reason => exact hclosed.onDisconnectDone (sane_idle d) reason
  | resetDone reason => exact sane_idle d reason
  | _ => cases h

theorem step_sane {s : PolledTracker} (h : s.toTracker.Sane) (e : Event) :
    (step s (d, e)).1.toTracker.Sane :=
  holds_step stable_sane (closedSane d) h (fun _ s' _ hreply hs' _ => sane_reply d hreply s' hs')

end Sane

/-- In every run, whatever comes and whenever the connection answers: a tracker that has failed
has no access point left to try, one that scans has some, and one that sets up a connection does
so with the first of them. -/
theorem tracker_sane (noAutoAttach : Bool) (stats : PollStats) (es : List (Device × Event)) :
    (run step (.created noAutoAttach stats) es).1.toTracker.Sane := by
  have hcreated : (PolledTracker.created noAutoAttach stats).toTracker.Sane := by
    refine ⟨?_, ?_, ?_, ?_, fun _ => ⟨rfl, rfl, Nat.zero_le 1, ?_, ?_⟩⟩ <;> intro h <;> cases h
  exact Along.invariant_run (Q := fun _ _ => True) (fun s : PolledTracker => s.toTracker.Sane)
    (fun s e h _ => step_sane e.1 h e.2) hcreated
    (Along.of_forall (P := fun _ => True) (fun _ _ => trivial))

/-! ### Faults -/

/-- The list is there before an access point for DUN is asked for. -/
def Prepared (t : Tracker) : Prop :=
  t.Sane ∧ (t.allApns = none → t.requestedApnType ≠ apnTypeDun)

abbrev Completes (d : Device) {α : Type} (m : Handler α) : Prop :=
  Traced.Completes d (Holds Prepared) m

section Completes
variable {d : Device}

/-- A program that keeps the list, the type and the invariant. -/
theorem completes_of {α : Type} {m : Handler α} (hvalue : ∀ s, ∃ a, (m d s).value = .ok a)
    (hlist : ∀ s, (m d s).state.allApns = s.allApns ∧
      (m d s).state.requestedApnType = s.requestedApnType)
    (hkeeps : Traced.Preserves d (Holds Tracker.Sane) m) : Completes d m := by
  rintro s ⟨hs, hdun⟩
  obtain ⟨hall, htype⟩ := hlist s
  refine ⟨hvalue s, hkeeps s hs, ?_⟩
  rw [hall, htype]
  exact hdun

theorem pollNetStat_completes (s : PolledTracker) :
    (∃ a, (pollNetStat d s).value = .ok a) ∧ (pollNetStat d s).state.allApns = s.allApns ∧
      (pollNetStat d s).state.requestedApnType = s.requestedApnType := by
  have hmove := pollNetStat_move d s
  generalize pollNetStat d s = r at hmove ⊢
  cases hmove <;> exact ⟨⟨(), rfl⟩, rfl, rfl⟩

theorem completes_poll : Completes d pollNetStat :=
  completes_of (fun s => (pollNetStat_completes s).1) (fun s => (pollNetStat_completes s).2)
    (holds_poll stable_sane)

theorem completes_start : Completes d startNetStatPoll := by
  have hstart (s : PolledTracker) : (∃ a, (startNetStatPoll d s).value = .ok a) ∧
      (startNetStatPoll d s).state.allApns = s.allApns ∧
      (startNetStatPoll d s).state.requestedApnType = s.requestedApnType := by
    by_cases hstart : s.Startable
    · rw [startNetStatPoll_eq hstart]
      exact pollNetStat_completes (s.polling d)
    · rw [startNetStatPoll_still hstart]
      exact ⟨⟨(), rfl⟩, rfl, rfl⟩
  exact completes_of (fun s => (hstart s).1) (fun s => (hstart s).2) (closedSane d).start

theorem completes_setup (reason : Option Reason) : Completes d (trySetupData reason) := by
  have hsetup : Traced.Completes d.toPhone Prepared (Telephony.trySetupData reason) := by
    rintro t ⟨hs, hdun⟩
    have hmove := trySetupData_move d.toPhone t reason
    generalize Telephony.trySetupData reason d.toPhone t = r at hmove ⊢
    have hsane := hs.setup hmove
    cases hmove with
    | unscanned hscanning hnone => exact absurd (by rw [hnone]; rfl) (hs.scanning hscanning)
    | unlisted preferred es hpreferred hes hidle hwaiting hlist =>
      exact absurd hlist (Tracker.allApns_ne_none (hdun hlist) (fun h => (hs.unlisted h).1) hwaiting)
    | _ => exact ⟨⟨_, rfl⟩, hsane, hdun⟩
  exact .bind (Traced.Completes.within (p := trackerPart) hsetup) (fun _ => .pure)

theorem closedCompletes (d : Device) : Closed d (fun m => Completes d m) where
  pure _ := .pure
  bind := .bind
  environment h := by
    intro s hs
    rw [Traced.environment_bind]
    exact h s hs
  current := .current
  emit _ _ _ := .emit
  frame u hu := by
    apply completes_of (fun _ => ⟨(), rfl⟩) _ ((closedSane d).frame u hu)
    intro s
    have h := hu s
    simp only [PolledTracker.core, Prod.mk.injEq] at h
    obtain ⟨-, -, -, -, hall, -, -, -, -, htype⟩ := h
    exact ⟨hall, htype⟩
  cleanUpConnection tearDown reason := by
    apply completes_of _ _ ((closedSane d).cleanUpConnection tearDown reason)
    · intro s
      rw [cleanUpConnection_eq]
      exact ⟨(), rfl⟩
    · intro s
      rw [cleanUpConnection_eq]
      cases tearDown <;> exact ⟨rfl, rfl⟩
  createAllApnList := by
    have hbuild : Traced.Completes d.toPhone Prepared createAllApnList := by
      intro t ht
      rw [createAllApnList_eq]
      exact ⟨⟨(), rfl⟩, ht.1.rebuilt d.toPhone, fun hnone => absurd hnone (Option.some_ne_none _)⟩
    exact Traced.Completes.within (p := trackerPart) hbuild
  trySetupData := completes_setup
  simulate hradio := completes_of (fun _ => ⟨(), rfl⟩) (fun _ => ⟨rfl, rfl⟩) ((closedSane d).simulate hradio)
  stop := completes_of (fun _ => ⟨(), rfl⟩) (fun _ => ⟨rfl, rfl⟩) (closedSane d).stop
  start := completes_start
  reset := completes_of (fun _ => ⟨(), rfl⟩) (fun _ => ⟨rfl, rfl⟩) (closedSane d).reset
  screen isOn := completes_of (fun _ => ⟨(), rfl⟩) (fun _ => ⟨rfl, rfl⟩) ((closedSane d).screen isOn)

theorem completes_done (reason : Option Reason) : Completes d (onDataSetupComplete none reason) := by
  have hclosed := closedCompletes d
  have hnotify : Completes d (notifyDefaultData reason) :=
    .bind (completes_of (fun _ => ⟨(), rfl⟩) (fun _ => ⟨rfl, rfl⟩) (Traced.Preserves.within
        (p := trackerPart) (fun _ h => h.settle (.inr (.inl rfl)) (.inr rfl)))) (fun _ =>
      .bind (hclosed.notify _) (fun _ => .bind completes_start (fun _ => hclosed.resetRetries)))
  intro s hs
  rw [onDataSetupComplete, Traced.environment_bind, Traced.current_bind]
  simp only [Traced.emit_bind]
  split_ifs with hactive
  · have hsome : s.activeApn ≠ none := by
      intro hnone
      rw [isDefaultActive, hnone] at hactive
      cases hactive
    obtain ⟨value, preferred, es, hpreferred, -, hvalue, hrun⟩ :=
      preferActiveApn_eq d.toPhone s.toTracker
    have hprefer : base preferActiveApn d s =
        ⟨.ok (), { s with preferredApn := preferred }, es.map .base⟩ := by
      rw [base, Traced.within]
      simp only [trackerPart, hrun, hvalue hsome]
    rw [Traced.bind_eq hprefer]
    exact hnotify _ ⟨hs.1.prefer hpreferred, hs.2⟩
  · exact hnotify s hs

theorem completes_failed {s : PolledTracker} (hwaiting : s.waitingApns.getD [] ≠ [])
    (cause : FailCause) (reason : Option Reason) :
    ∃ a, (onDataSetupComplete (some cause) reason d s).value = .ok a := by
  have hmove := onDataSetupFailed_move d.toPhone s.toTracker cause reason
  have hrun : (onDataSetupComplete (some cause) reason d s).value =
      (onDataSetupFailed cause reason d.toPhone s.toTracker).value := by
    rw [onDataSetupComplete, Traced.environment_bind, Traced.current_bind]
    rfl
  rw [hrun]
  generalize onDataSetupFailed cause reason d.toPhone s.toTracker = r at hmove ⊢
  cases hmove with
  | empty e hnone => exact absurd hnone hwaiting
  | more apn rest hrest hwaiting => exact ⟨(), rfl⟩
  | last apn es intent reregister hwaiting hes hintent => exact ⟨(), rfl⟩

theorem completes_stats (g : PollStats → PollStats) : Completes d (updateStats g) := by
  apply Traced.Completes.update
  intro s hs
  exact hs

theorem completes_recovery : Completes d doRecovery := by
  have hclosed := closedCompletes d
  exact hclosed.environment (hclosed.test (fun _ => Closed.branch
    (fun _ => Closed.branch
      (fun _ => .bind (completes_stats _) (fun _ =>
        .bind .emit (fun _ => hclosed.cleanUpConnection _ _)))
      (fun _ => .bind (completes_stats _) (fun _ => .bind .emit (fun _ => .emit)))) (fun _ => .pure)))

/-- Only a setup that failed with nothing left to try can fault in a prepared tracker. -/
theorem completes_message {m : Message} {s : PolledTracker} (hs : Prepared s.toTracker)
    (hfailed : ∀ cause reason, m = .dataSetupComplete (some cause) reason →
      s.waitingApns.getD [] ≠ []) : ∃ a, (handleMessage m d s).value = .ok a := by
  have hclosed := closedCompletes d
  have hframe {u : PolledTracker → PolledTracker}
      (hu : ∀ s, sight (u s).toTracker = sight s.toTracker)
      (henabled : ∀ s, (u s).netStatPollEnabled = s.netStatPollEnabled)
      (htype : ∀ s, (u s).requestedApnType = s.requestedApnType) : Completes d (update u) := by
    apply completes_of (fun _ => ⟨(), rfl⟩) _
      (holds_frame stable_sane hu (fun s h => (henabled s).symm.trans h))
    intro s
    have h := hu s
    simp only [sight, Prod.mk.injEq] at h
    exact ⟨h.2.2.2.1, htype s⟩
  have hidle (reason : Option Reason) :
      Completes d (base (gotoIdleAndNotifyDataConnection reason)) :=
    completes_of (fun _ => ⟨(), rfl⟩) (fun _ => ⟨rfl, rfl⟩) (sane_idle d reason)
  cases hspecial : m.isSpecial with
  | false => exact (hclosed.handleMessage hspecial s hs).1
  | true =>
    cases m with
    | startNetstatPoll =>
      have hstart : Completes d (handleMessage .startNetstatPoll) :=
        .bind (hframe (fun _ => rfl) (fun _ => rfl) (fun _ => rfl)) (fun _ => completes_start)
      exact (hstart s hs).1
    | startRecovery =>
      have hstart : Completes d (handleMessage .startRecovery) :=
        .bind (hframe (fun _ => rfl) (fun _ => rfl) (fun _ => rfl)) (fun _ => completes_recovery)
      exact (hstart s hs).1
    | psRestrictEnabled =>
      exact (hclosed.onPsRestrictEnabled (hframe (fun _ => rfl) (fun _ => rfl) (fun _ => rfl)) s hs).1
    | psRestrictDisabled =>
      exact (hclosed.onPsRestrictDisabled (hframe (fun _ => rfl) (fun _ => rfl) (fun _ => rfl)) s hs).1
    | enableNewApn type =>
      have hrun : onEnableNewApn type d s = ⟨.ok (), (onEnableNewApn type d s).state,
          (onEnableNewApn type d s).events⟩ := by
        rw [onEnableNewApn]
        simp only [Traced.update_bind, Traced.emit_bind, resetRetryCount, cleanUpConnection_eq]
      exact ⟨(), congrArg Result.value hrun⟩
    | dataSetupComplete cause reason =>
      cases cause with
      | none => exact (completes_done reason s hs).1
      | some cause => exact completes_failed (hfailed cause reason rfl) cause reason
    | disconnectDone reason => exact (hclosed.onDisconnectDone hidle reason s hs).1
    | resetDone reason => exact (hidle reason s hs).1
    | _ => cases hspecial

/-- With both networks there the check finds nothing. -/
theorem connectivityCheck_eq {m : Message}
    (hnetworks : m.isChecked = true → d.wifiInfo = true ∧ d.mobileInfo = true) (s : PolledTracker) :
    connectivityCheck m d s = ⟨.ok (), s, []⟩ := by
  rw [connectivityCheck]
  split_ifs with hchecked
  · have hboth : (d.wifiInfo && d.mobileInfo) = true := by simp [hnetworks hchecked]
    rw [Traced.environment_bind, if_pos hboth]
    rfl
  · rfl

theorem completes_deliver {m : Message} {s : PolledTracker} (hs : Prepared s.toTracker)
    (hfailed : ∀ cause reason, m = .dataSetupComplete (some cause) reason →
      s.waitingApns.getD [] ≠ [])
    (hnetworks : m.isChecked = true → d.wifiInfo = true ∧ d.mobileInfo = true) :
    ∃ a, (deliver m d s).value = .ok a := by
  rw [deliver, Traced.environment_bind]
  split_ifs
  · obtain ⟨_, hvalue⟩ := completes_message hs hfailed
    have hhandled : handleMessage m d s =
        ⟨.ok (), (handleMessage m d s).state, (handleMessage m d s).events⟩ := by
      rw [← hvalue]
    rw [Traced.bind_eq hhandled, connectivityCheck_eq hnetworks]
    exact ⟨(), rfl⟩
  · exact ⟨(), rfl⟩

theorem completes_queue {u : PolledTracker → PolledTracker}
    (hu : ∀ s, (u s).toTracker = s.toTracker) : Completes d (update u) := by
  apply Traced.Completes.update
  intro s hs
  rw [Holds, hu]
  exact hs

theorem completes_endPing (ok : Bool) : Completes d (endPing ok) := by
  have hanswer : Completes d (do
      updateStats (fun stats => { stats with pdpResetCount := 0 })
      emit .clearPdpReset
      update (fun s => { s with answered := s.answered + 1 })) :=
    .bind (completes_stats _) (fun _ => .bind .emit (fun _ => completes_queue (fun _ => rfl)))
  have hlost : Completes d (update (fun s => { s with startRecoveries := s.startRecoveries + 1 })) :=
    completes_queue (fun _ => rfl)
  exact (closedCompletes d).test (fun _ => Closed.branch (fun _ =>
    .bind (completes_queue (fun _ => rfl)) (fun _ =>
      Closed.branch (fun _ => hanswer) (fun _ => hlost))) (fun _ => .pure))

theorem completes_receive {m : Message} {s : PolledTracker} (hs : Prepared s.toTracker)
    (hfailed : ∀ cause reason, m = .dataSetupComplete (some cause) reason →
      s.waitingApns.getD [] ≠ [])
    (hnetworks : m.isChecked = true → d.wifiInfo = true ∧ d.mobileInfo = true) :
    ∃ a, (receiveMessage m d s).value = .ok a := by
  have hping (m : Message) (hm : m = .startNetstatPoll ∨ m = .startRecovery) {s : PolledTracker}
      (hs : Prepared s.toTracker) : ∃ a, (deliver m d s).value = .ok a := by
    apply completes_deliver hs
    · rintro cause reason rfl
      rcases hm with hm | hm <;> cases hm
    · intro hchecked
      rcases hm with rfl | rfl <;> cases hchecked
  cases m with
  | startNetstatPoll =>
    rw [receiveMessage, Traced.current_bind]
    split_ifs
    · rw [Traced.update_bind]
      exact hping _ (.inl rfl) hs
    · exact ⟨(), rfl⟩
  | startRecovery =>
    rw [receiveMessage, Traced.current_bind]
    split_ifs
    · rw [Traced.update_bind]
      exact hping _ (.inr rfl) hs
    · exact ⟨(), rfl⟩
  | _ => exact completes_deliver hs hfailed hnetworks

theorem completes_react {e : Event} {s : PolledTracker} (hs : Prepared s.toTracker)
    (hfailed : ∀ cause reason, e = .message (.dataSetupComplete (some cause) reason) →
      s.waitingApns.getD [] ≠ [])
    (hnetworks : ∀ m, e = .message m → m.isChecked = true → d.wifiInfo = true ∧ d.mobileInfo = true) :
    (react e d s).value = .ok () := by
  have hclosed := closedCompletes d
  have hwoken : Prepared (s.toTracker.woken) := ⟨stable_sane _ _ hs.1 rfl .inl, hs.2⟩
  rw [react, Traced.update_bind]
  suffices hvalue : ∃ a, (handle e d { s with toTracker := s.woken }).value = .ok a by
    obtain ⟨_, ha⟩ := hvalue
    exact ha
  cases e with
  | intent i => exact (hclosed.onReceive i _ hwoken).1
  | poll =>
    have hdue : Completes d duePoll := hclosed.test (fun _ => Closed.branch
      (fun _ => .bind (completes_queue (fun _ => rfl)) (fun _ => completes_poll)) (fun _ => .pure))
    exact (hdue _ hwoken).1
  | pingEnds ok => exact (completes_endPing ok _ hwoken).1
  | pingReports =>
    have hreports : Completes d reportPing := hclosed.test (fun _ => Closed.branch
      (fun _ => completes_queue (fun _ => rfl)) (fun _ => .pure))
    exact (hreports _ hwoken).1
  | message m =>
    exact completes_receive hwoken
      (fun cause reason h => hfailed cause reason (congrArg Event.message h)) (hnetworks m rfl)

end Completes

/-- In every run a handler faults in three cases at most: a setup is said to have failed when there
is nothing left to try, an access point for DUN is wanted before the list is there, or the log
message about the networks behind two of the messages finds one of them missing. -/
theorem only_faults (noAutoAttach : Bool) (stats : PollStats) (es : List (Device × Event))
    (d : Device) (e : Event)
    (h : (react e d (run step (.created noAutoAttach stats) es).1).value ≠ .ok ()) :
    let s := (run step (.created noAutoAttach stats) es).1
    (∃ cause reason, e = .message (.dataSetupComplete (some cause) reason) ∧
        s.waitingApns.getD [] = []) ∨
      (s.requestedApnType = apnTypeDun ∧ s.allApns = none) ∨
      (∃ m, e = .message m ∧ m.isChecked = true ∧ (d.wifiInfo = false ∨ d.mobileInfo = false)) := by
  intro s
  by_contra hnot
  simp only [not_or, not_exists] at hnot
  obtain ⟨hfailed, hdun, hnetworks⟩ := hnot
  apply h
  apply completes_react ⟨tracker_sane noAutoAttach stats es, fun hnone htype => hdun ⟨htype, hnone⟩⟩
  · intro cause reason he hwaiting
    exact hfailed cause reason ⟨he, hwaiting⟩
  · intro m he hchecked
    have hthere := hnetworks m
    simp only [he, hchecked, true_and, not_or, Bool.not_eq_false] at hthere
    exact hthere

/-- A failure without a setup. -/
theorem only_faults_early :
    let d := Device.impatient 0 0
    let stats : PollStats := ⟨0, 0, 0, 0, 0, 0, .none, true⟩
    let s := (run step (.created false stats) []).1
    let e : Event := .message (.dataSetupComplete (some ⟨false, true⟩) none)
    (react e d s).value ≠ .ok () ∧
      ((∃ cause reason, e = .message (.dataSetupComplete (some cause) reason) ∧
          s.waitingApns.getD [] = []) ∨ (s.requestedApnType = apnTypeDun ∧ s.allApns = none) ∨
        (∃ m, e = .message m ∧ m.isChecked = true ∧
          (d.wifiInfo = false ∨ d.mobileInfo = false))) := by
  intro d stats s e
  have hfault : (react e d s).value ≠ .ok () := by
    intro h
    cases h
  exact ⟨hfault, only_faults false stats [] d e hfault⟩

end Fw100.Telephony.Polled
