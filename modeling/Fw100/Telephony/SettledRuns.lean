import Fw100.Telephony.TrackerSafety

/-!
# Alarms and polls of a tracker whose connection answers in time

An alarm is pending for a tracker that has failed, and polls are for a connection. Neither flag is
taken down by what the connection answers, so it may not answer when the state has moved on: not
with a success after the tracker has failed, not with a failure once it is connected, and with a
disconnection in neither of the two.
-/
namespace Fw100.Telephony.Polled
open Library
open Traced (emit environment current update fault)

structure Settled (t : Tracker) : Prop where
  alarm : t.reconnectIntent = true → t.state = .failed
  polls : t.netStatPollEnabled = true → t.state = .connected

/-- An answer that the state still allows. -/
def Message.inTime (state : State) : Message → Bool
  | .dataSetupComplete none _ => state ≠ .failed
  | .dataSetupComplete (some _) _ => state ≠ .connected
  | .disconnectDone _ | .resetDone _ => state ≠ .failed ∧ state ≠ .connected
  | _ => true

def Event.inTime (state : State) : Event → Bool
  | .message m => m.inTime state
  | _ => true

/-- On a real radio the connection answers in time. -/
abbrev InTime (s : PolledTracker) (e : Device × Event) : Prop :=
  e.1.simulatedRadio = false ∧ e.2.inTime s.state = true

/-- The invariant. With `P` no alarm is pending, which is how a success finds the tracker. -/
structure Calm (P : Prop) (t : Tracker) : Prop where
  sane : t.Sane
  settled : Settled t
  disarmed : P → t.reconnectIntent = false

section Calm
variable {P : Prop} {d : Device}

theorem stable_calm : Stable (Calm P) := by
  intro t t' h hsight henabled
  have hsane := stable_sane t t' h.sane hsight henabled
  simp only [sight, Prod.mk.injEq] at hsight
  obtain ⟨hstate, -, -, -, -, hintent⟩ := hsight
  refine ⟨hsane, ⟨?_, ?_⟩, ?_⟩
  · rw [hstate, hintent]
    exact h.settled.alarm
  · rw [hstate]
    exact fun hon => (henabled hon).elim h.settled.polls id
  · rw [hintent]
    exact h.disarmed

theorem calm_cleanedUp {t : Tracker} (h : Calm P t) (tearDown : Bool) :
    Calm P (cleanedUp tearDown t) := by
  refine ⟨cleanedUp_sane h.sane tearDown, ⟨?_, ?_⟩, fun _ => ?_⟩ <;> cases tearDown
  · exact fun halarm => by cases halarm
  · exact fun halarm => by cases halarm
  · exact fun hpolls => by cases hpolls
  · exact fun hpolls => by cases hpolls
  · rfl
  · rfl

/-- A state in which neither flag is up. -/
theorem Settled.down {t : Tracker} (h : Settled t) (hfailed : t.state ≠ .failed)
    (hconnected : t.state ≠ .connected) :
    t.reconnectIntent = false ∧ t.netStatPollEnabled = false := by
  rw [← Bool.not_eq_true, ← Bool.not_eq_true]
  exact ⟨fun halarm => hfailed (h.alarm halarm), fun hpolls => hconnected (h.polls hpolls)⟩

/-- With both flags down any state will do. -/
theorem settled_of_down {t : Tracker} (halarm : t.reconnectIntent = false)
    (hpolls : t.netStatPollEnabled = false) : Settled t :=
  ⟨fun h => (by cases halarm.symm.trans h), fun h => (by cases hpolls.symm.trans h)⟩

theorem calm_setup {t : Tracker} {phone : Phone} {reason : Option Reason}
    {r : Result Effect Fault Tracker Bool} (hradio : phone.simulatedRadio = false) (h : Calm P t)
    (hmove : SetupMove phone t reason r) : Calm P r.state := by
  have hsane := h.sane.setup hmove
  have hdown (hstate : t.state = .idle ∨ t.state = .scanning) :
      t.reconnectIntent = false ∧ t.netStatPollEnabled = false := by
    apply h.settled.down
    · rcases hstate with hstate | hstate <;> simp [hstate]
    · rcases hstate with hstate | hstate <;> simp [hstate]
  cases hmove with
  | waits => exact h
  | simulated hsimulated => cases hradio.symm.trans hsimulated
  | unscanned hscanning hnone => exact h
  | next apn rest hready hscanning hwaiting =>
    obtain ⟨halarm, hpolls⟩ := hdown (.inr hscanning)
    exact ⟨hsane, settled_of_down halarm hpolls, fun _ => halarm⟩
  | nothing preferred es hpreferred hes hidle hwaiting =>
    obtain ⟨halarm, hpolls⟩ := hdown (.inl hidle)
    exact ⟨hsane, settled_of_down halarm hpolls, fun _ => halarm⟩
  | unlisted preferred es hpreferred hes hidle hwaiting hlist =>
    exact ⟨hsane, ⟨h.settled.alarm, h.settled.polls⟩, h.disarmed⟩
  | busy preferred es hpreferred hes hidle hlist =>
    exact ⟨hsane, ⟨h.settled.alarm, h.settled.polls⟩, h.disarmed⟩
  | first preferred es apn rest hpreferred hes hready hidle hwaiting hlist =>
    obtain ⟨halarm, hpolls⟩ := hdown (.inl hidle)
    exact ⟨hsane, settled_of_down halarm hpolls, fun _ => halarm⟩

theorem closedCalm (hradio : d.simulatedRadio = false) :
    Closed d (fun m => Traced.Preserves d (Holds (Calm P)) m) :=
  closed_holds stable_calm (fun tearDown _ h => calm_cleanedUp h tearDown)
    (fun _ h => ⟨h.sane.rebuilt d.toPhone, ⟨h.settled.alarm, h.settled.polls⟩, h.disarmed⟩)
    (fun _ _ _ h hmove => calm_setup hradio h hmove)
    (fun hsimulated => by cases hradio.symm.trans hsimulated)

theorem calm_prefer : Traced.Preserves d (Holds (Calm P)) (base preferActiveApn) := by
  have hprefer : Traced.Preserves d.toPhone (Calm P) preferActiveApn := by
    intro t h
    obtain ⟨value, preferred, es, hpreferred, -, -, hrun⟩ := preferActiveApn_eq d.toPhone t
    rw [hrun]
    exact ⟨h.sane.prefer hpreferred, ⟨h.settled.alarm, h.settled.polls⟩, h.disarmed⟩
  exact Traced.Preserves.within (p := trackerPart) hprefer

theorem calm_done (hradio : d.simulatedRadio = false) {s : PolledTracker}
    (h : Calm False s.toTracker) (hfailed : s.state ≠ .failed) (reason : Option Reason) :
    Calm False (onDataSetupComplete none reason d s).state.toTracker := by
  have hdisarmed : Calm True s.toTracker := by
    refine ⟨h.sane, h.settled, fun _ => ?_⟩
    rw [← Bool.not_eq_true]
    exact fun halarm => hfailed (h.settled.alarm halarm)
  have hconnected : Traced.Preserves d (Holds (Calm True)) (base (setState .connected)) := by
    apply Traced.Preserves.within (p := trackerPart)
    intro t ht
    have hnone := ht.disarmed trivial
    exact ⟨ht.sane.settle (.inr (.inl rfl)) (.inr rfl),
      ⟨fun halarm => (by cases hnone.symm.trans halarm), fun _ => rfl⟩, ht.disarmed⟩
  have hdone := (closedCalm hradio).onDataSetupDone hconnected (fun _ _ => calm_prefer) reason s
    hdisarmed
  exact ⟨hdone.sane, hdone.settled, False.elim⟩

theorem calm_failure {t : Tracker} {cause : FailCause} {reason : Option Reason}
    {r : Result Effect Fault Tracker Unit} (h : Calm False t) (hconnected : t.state ≠ .connected)
    (hmove : FailureMove t cause reason r) : Calm False r.state := by
  have hsane := h.sane.failure hmove
  have hpolls : t.netStatPollEnabled = false := by
    rw [← Bool.not_eq_true]
    exact fun hpolls => hconnected (h.settled.polls hpolls)
  cases hmove with
  | empty e hwaiting => exact ⟨hsane, ⟨h.settled.alarm, h.settled.polls⟩, False.elim⟩
  | more apn rest hrest hwaiting =>
    have halarm : t.reconnectIntent = false := by
      rw [← Bool.not_eq_true]
      intro halarm
      have hnone := h.sane.failed (h.settled.alarm halarm)
      rw [hwaiting] at hnone
      cases hnone
    exact ⟨hsane, settled_of_down halarm hpolls, False.elim⟩
  | last apn es intent reregister hwaiting hes hintent =>
    exact ⟨hsane, ⟨fun _ => rfl, fun hon => by cases hpolls.symm.trans hon⟩, False.elim⟩

theorem calm_idle {s : PolledTracker} (h : Calm False s.toTracker) (hfailed : s.state ≠ .failed)
    (hconnected : s.state ≠ .connected) (reason : Option Reason) :
    Calm False (base (gotoIdleAndNotifyDataConnection reason) d s).state.toTracker := by
  obtain ⟨halarm, hpolls⟩ := h.settled.down hfailed hconnected
  exact ⟨h.sane.settle (.inl rfl) (.inl rfl), settled_of_down halarm hpolls, False.elim⟩

theorem calm_reply (hradio : d.simulatedRadio = false) {m : Message} {s : PolledTracker}
    (h : Calm False s.toTracker) (hreply : m.isReply = true) (htime : m.inTime s.state = true) :
    Calm False (handleMessage m d s).state.toTracker := by
  cases m with
  | dataSetupComplete cause reason =>
    cases cause with
    | none => exact calm_done hradio h (of_decide_eq_true htime) reason
    | some cause =>
      exact calm_failure h (of_decide_eq_true htime)
        (onDataSetupFailed_move d.toPhone s.toTracker cause reason)
  | disconnectDone reason =>
    obtain ⟨hfailed, hconnected⟩ := of_decide_eq_true htime
    have hidle := calm_idle (d := d) h hfailed hconnected reason
    have hrun : base (gotoIdleAndNotifyDataConnection reason) d s =
        ⟨.ok (), (base (gotoIdleAndNotifyDataConnection reason) d s).state,
          (base (gotoIdleAndNotifyDataConnection reason) d s).events⟩ := rfl
    rw [handleMessage, onDisconnectDone, Traced.bind_eq hrun]
    split_ifs
    · exact (closedCalm hradio).trySetupData reason _ hidle
    · exact hidle
  | resetDone reason =>
    obtain ⟨hfailed, hconnected⟩ := of_decide_eq_true htime
    exact calm_idle h hfailed hconnected reason
  | _ => cases hreply

theorem calm_step {s : PolledTracker} {e : Device × Event} (h : Calm False s.toTracker)
    (he : InTime s e) : Calm False (step s e).1.toTracker := by
  obtain ⟨hradio, htime⟩ := he
  apply holds_step stable_calm (closedCalm hradio) h
  rintro m s' hm hreply hs' hstate
  rw [hm] at htime
  exact calm_reply hradio hs' hreply (hstate ▸ htime)

end Calm

/-- While the connection answers in time an alarm is pending for a tracker that has failed only,
and a poll is in the queue for one that is connected only. -/
theorem flags_settled (noAutoAttach : Bool) (stats : PollStats) (es : List (Device × Event))
    (h : Along step InTime (.created noAutoAttach stats) es) :
    let s := (run step (.created noAutoAttach stats) es).1
    (s.reconnectIntent = true → s.state = .failed) ∧ (0 < s.polls → s.state = .connected) := by
  intro s
  have hcreated : Calm False (PolledTracker.created noAutoAttach stats).toTracker :=
    ⟨tracker_sane noAutoAttach stats [], settled_of_down rfl rfl, False.elim⟩
  have hcalm := Along.invariant_run (fun s : PolledTracker => Calm False s.toTracker)
    (fun _ _ hs he => calm_step hs he) hcreated h
  refine ⟨hcalm.settled.alarm, fun hqueued => hcalm.settled.polls ?_⟩
  have hpolls : s.polls = if s.netStatPollEnabled then 1 else 0 :=
    (polls_single noAutoAttach stats es).polls
  by_contra hoff
  rw [if_neg hoff] at hpolls
  omega

/-- A connection that drops and then cannot be set up again, with the alarm at the end. -/
theorem flags_settled_dropped :
    let d := Device.impatient 0 0
    let stats : PollStats := ⟨0, 0, 0, 0, 0, 0, .none, true⟩
    let up : List (Device × Event) :=
      [(d, .message .recordsLoaded), (d, .message (.trySetupData none)),
        (d, .message (.dataSetupComplete none none))]
    let es := up ++ [(d, .message (.dataStateChanged (some []))),
      (d, .message (.disconnectDone none)), (d, .message (.dataSetupComplete (some ⟨false, true⟩) none))]
    (run step (.created false stats) es).1.reconnectIntent = true ∧
      (run step (.created false stats) es).1.state = .failed ∧
      0 < (run step (.created false stats) up).1.polls ∧
      (run step (.created false stats) up).1.state = .connected := by
  intro d stats up es
  have halarm : (run step (.created false stats) es).1.reconnectIntent = true := by decide +kernel
  have hpolls : 0 < (run step (.created false stats) up).1.polls := by decide +kernel
  have hall := flags_settled false stats es (by decide +kernel)
  have hup := flags_settled false stats up (by decide +kernel)
  exact ⟨halarm, hall.1 halarm, hpolls, hup.2 hpolls⟩

end Fw100.Telephony.Polled
