import Fw100.Telephony.PollRuns

/-!
# The tracker over whole runs

What the state says about the access points in every run, which handlers can fault, when a
connection may be asked for, and what an alarm and a poll in the queue say about the state as
long as the connection answers in time.
-/
namespace Fw100.Telephony
open Library

structure Tracker.Sane (t : Tracker) : Prop where
  connecting : t.state ≠ .connecting
  failed : t.state = .failed → t.waitingApns.getD [] = []
  scanning : t.state = .scanning → t.waitingApns.getD [] ≠ []
  initing : t.state = .initing →
    ∃ apn rest, t.waitingApns = some (apn :: rest) ∧ t.activeApn = some apn
  unlisted : t.allApns = none → t.preferredApn = none ∧ t.activeApn = none ∧
    (t.waitingApns.getD []).length ≤ 1 ∧ t.state ≠ .initing ∧ t.state ≠ .scanning

namespace Tracker.Sane
variable {t : Tracker}

theorem settle (h : t.Sane) {s : State} {active : Option ApnSetting}
    (hs : s = .idle ∨ s = .connected ∨ s = .disconnecting)
    (hactive : active = none ∨ active = t.activeApn) :
    ({ t with state := s, activeApn := active } : Tracker).Sane := by
  have hnone (hlist : t.allApns = none) : active = none := by
    rcases hactive with hactive | hactive
    · exact hactive
    · exact hactive.trans (h.unlisted hlist).2.1
  constructor
  · rcases hs with rfl | rfl | rfl <;> simp
  · rcases hs with rfl | rfl | rfl <;> simp
  · rcases hs with rfl | rfl | rfl <;> simp
  · rcases hs with rfl | rfl | rfl <;> simp
  · intro hlist
    obtain ⟨hpreferred, -, hwaiting, -, -⟩ := h.unlisted hlist
    refine ⟨hpreferred, hnone hlist, hwaiting, ?_, ?_⟩
    · rcases hs with rfl | rfl | rfl <;> simp
    · rcases hs with rfl | rfl | rfl <;> simp

theorem rebuilt (h : t.Sane) (phone : Phone) : (phone.rebuilt t).Sane :=
  ⟨h.connecting, h.failed, h.scanning, h.initing, fun hlist => absurd hlist (Option.some_ne_none _)⟩

/-- Without a list there is at most the one access point for DUN. -/
theorem length_waiting (h : t.Sane) (phone : Phone) (hlist : t.allApns = none) :
    (phone.waiting t).length ≤ 1 := by
  obtain ⟨hpreferred, -⟩ := h.unlisted hlist
  rw [Phone.waiting]
  split_ifs
  · cases phone.dunApn <;> simp
  · have hnone : phone.usable t = none := by
      rw [Phone.usable]
      split_ifs
      · rw [hpreferred]
        rfl
      · rfl
    rw [hnone, hlist]
    exact Nat.zero_le 1

theorem setup (h : t.Sane) {phone : Phone} {reason : Option Reason}
    {r : Result Effect Fault Tracker Bool} (hmove : SetupMove phone t reason r) : r.state.Sane := by
  have hforget {preferred : Option ApnSetting} (hlist : t.allApns = none)
      (hpreferred : preferred = none ∨ preferred = t.preferredApn) : preferred = none :=
    hpreferred.elim id (fun hsame => hsame.trans (h.unlisted hlist).1)
  cases hmove with
  | waits => exact h
  | simulated hradio => exact h.settle (.inr (.inl rfl)) (.inr rfl)
  | unscanned hscanning hnone => exact h
  | next apn rest hready hscanning hwaiting =>
    refine ⟨by simp, by simp, by simp, fun _ => ⟨apn, rest, hwaiting, rfl⟩, fun hlist => ?_⟩
    exact absurd hscanning (h.unlisted hlist).2.2.2.2
  | nothing preferred es hpreferred hes hidle hwaiting =>
    refine ⟨by simp, fun _ => rfl, by simp, by simp, fun hlist => ?_⟩
    exact ⟨hforget hlist hpreferred, (h.unlisted hlist).2.1, Nat.zero_le 1, by simp, by simp⟩
  | unlisted preferred es hpreferred hes hidle hwaiting hlist =>
    refine ⟨by simp [hidle], by simp [hidle], by simp [hidle], by simp [hidle], fun _ => ?_⟩
    exact ⟨hforget hlist hpreferred, (h.unlisted hlist).2.1, h.length_waiting phone hlist,
      by simp [hidle], by simp [hidle]⟩
  | busy preferred es hpreferred hes hidle hlist =>
    exact ⟨by simp [hidle], by simp [hidle], by simp [hidle], by simp [hidle],
      fun hnone => absurd hnone hlist⟩
  | first preferred es apn rest hpreferred hes hready hidle hwaiting hlist =>
    exact ⟨by simp, by simp, by simp, fun _ => ⟨apn, rest, rfl, rfl⟩,
      fun hnone => absurd hnone hlist⟩

theorem failure (h : t.Sane) {cause : FailCause} {reason : Option Reason}
    {r : Result Effect Fault Tracker Unit} (hmove : FailureMove t cause reason r) : r.state.Sane := by
  cases hmove with
  | empty e hwaiting => exact ⟨h.connecting, h.failed, h.scanning, h.initing, h.unlisted⟩
  | more apn rest hrest hwaiting =>
    refine ⟨by simp, by simp, fun _ => hrest, by simp, fun hlist => ?_⟩
    have hone := (h.unlisted hlist).2.2.1
    rw [hwaiting, Option.getD_some, List.length_cons] at hone
    exact absurd (List.length_eq_zero_iff.mp (by omega)) hrest
  | last apn es intent reregister hwaiting hes hintent =>
    refine ⟨by simp, fun _ => rfl, by simp, by simp, fun hlist => ?_⟩
    obtain ⟨hpreferred, hactive, -⟩ := h.unlisted hlist
    exact ⟨hpreferred, hactive, Nat.zero_le 1, by simp, by simp⟩

theorem prefer (h : t.Sane) {preferred : Option ApnSetting}
    (hpreferred : preferred = t.preferredApn ∨ preferred = t.activeApn) :
    ({ t with preferredApn := preferred } : Tracker).Sane := by
  refine ⟨h.connecting, h.failed, h.scanning, h.initing, fun hlist => ?_⟩
  obtain ⟨hnone, hactive, hrest⟩ := h.unlisted hlist
  exact ⟨hpreferred.elim (fun hsame => hsame.trans hnone) (fun hsame => hsame.trans hactive),
    hactive, hrest⟩

end Tracker.Sane

namespace Polled
open Traced (emit environment current update fault)

/-! ### Invariants of the tracker -/

def cleanedUp (tearDown : Bool) (t : Tracker) : Tracker :=
  if tearDown then
    { t with state := .disconnecting, reconnectIntent := false, netStatPollEnabled := false }
  else t.cleaned

def cleanUpOutputs (tearDown : Bool) (reason : Option Reason) (t : Tracker) : List Output :=
  (if t.reconnectIntent then [.base .cancelAlarm] else []) ++
    if tearDown then [.disconnect reason, .base .stopPoll]
    else [.base .resetSynchronously, .base .stopPoll, .base (.notifyDataConnection reason)]

theorem cleanUpConnection_eq (tearDown : Bool) (reason : Option Reason) (d : Device)
    (s : PolledTracker) :
    cleanUpConnection tearDown reason d s =
      ⟨.ok (), { s with toTracker := cleanedUp tearDown s.toTracker, polls := 0 },
        cleanUpOutputs tearDown reason s.toTracker⟩ := by
  have halarm : clearReconnectAlarm d s =
      ⟨.ok (), { s with reconnectIntent := false },
        if s.reconnectIntent then [.base .cancelAlarm] else []⟩ := by
    rw [clearReconnectAlarm, Traced.current_bind]
    split_ifs with hset
    · rfl
    · simp only [Bool.not_eq_true] at hset
      rw [← hset]
      rfl
  rw [cleanUpConnection, Traced.bind_eq halarm]
  cases tearDown <;> rfl

/-- What an invariant of the tracker may depend on. -/
def sight (t : Tracker) : State × Option (List ApnSetting) × Option ApnSetting ×
    Option (List ApnSetting) × Option ApnSetting × Bool :=
  (t.state, t.waitingApns, t.activeApn, t.allApns, t.preferredApn, t.reconnectIntent)

/-- The invariant sees nothing else, and of the polls that they may only be enabled while there is
a connection. -/
def Stable (I : Tracker → Prop) : Prop :=
  ∀ t t', I t → sight t' = sight t →
    (t'.netStatPollEnabled = true → t.netStatPollEnabled = true ∨ t.state = .connected) → I t'

theorem pollNetStat_sight (d : Device) (s : PolledTracker) :
    sight (pollNetStat d s).state.toTracker = sight s.toTracker ∧
      ((pollNetStat d s).state.netStatPollEnabled = true → s.netStatPollEnabled = true) := by
  have hmove := pollNetStat_move d s
  generalize pollNetStat d s = r at hmove ⊢
  cases hmove with
  | calm hover => exact ⟨rfl, id⟩
  | asks hover hmore => exact ⟨rfl, id⟩
  | pings hover hlimit => exact ⟨rfl, fun henabled => by cases henabled⟩

section Invariants
variable {I : Tracker → Prop} {d : Device}

abbrev Holds (I : Tracker → Prop) (s : PolledTracker) : Prop := I s.toTracker

theorem holds_frame (hI : Stable I) {u : PolledTracker → PolledTracker}
    (hsight : ∀ s, sight (u s).toTracker = sight s.toTracker)
    (henabled : ∀ s, (u s).netStatPollEnabled = true → s.netStatPollEnabled = true) :
    Traced.Preserves (ε := Output) (φ := Fault) d (Holds I) (update u) :=
  .update (fun s hs => hI _ _ hs (hsight s) (fun h => .inl (henabled s h)))

theorem holds_poll (hI : Stable I) : Traced.Preserves d (Holds I) pollNetStat := by
  intro s hs
  obtain ⟨hsight, henabled⟩ := pollNetStat_sight d s
  exact hI _ _ hs hsight (fun h => .inl (henabled h))

theorem holds_start (hI : Stable I) : Traced.Preserves d (Holds I) startNetStatPoll := by
  intro s hs
  by_cases hstart : s.Startable
  · rw [startNetStatPoll_eq hstart]
    obtain ⟨hsight, -⟩ := pollNetStat_sight d (s.polling d)
    exact hI _ _ hs hsight (fun _ => .inr hstart.1)
  · rw [startNetStatPoll_still hstart]
    exact hs

/-- An invariant that a clean-up, a new list and a setup keep. -/
theorem closed_holds (hI : Stable I) (hclean : ∀ tearDown t, I t → I (cleanedUp tearDown t))
    (hrebuilt : ∀ t, I t → I (d.toPhone.rebuilt t))
    (hsetup : ∀ t reason r, I t → SetupMove d.toPhone t reason r → I r.state)
    (hsimulate : d.simulatedRadio = true → ∀ t, I t → I { t with state := .connected }) :
    Closed d (fun m => Traced.Preserves d (Holds I) m) where
  pure _ := .pure
  bind := .bind
  environment h := by
    intro s hs
    rw [Traced.environment_bind]
    exact h s hs
  current := .current
  emit _ _ _ := .emit
  frame u hu := by
    have hcore (s : PolledTracker) : sight (u s).toTracker = sight s.toTracker ∧
        (u s).netStatPollEnabled = s.netStatPollEnabled := by
      have h := hu s
      simp only [PolledTracker.core, PolledTracker.pollPart, Prod.mk.injEq, PollPart.mk.injEq] at h
      obtain ⟨⟨henabled, -⟩, hstate, hwaiting, hactive, hall, hpreferred, hintent, -⟩ := h
      exact ⟨by simp only [sight, hstate, hwaiting, hactive, hall, hpreferred, hintent], henabled⟩
    exact holds_frame hI (fun s => (hcore s).1) (fun s h => (hcore s).2 ▸ h)
  cleanUpConnection tearDown reason := by
    intro s hs
    rw [cleanUpConnection_eq]
    exact hclean tearDown _ hs
  createAllApnList := by
    apply Traced.Preserves.within (p := trackerPart)
    intro t ht
    rw [createAllApnList_eq]
    exact hrebuilt t ht
  trySetupData reason := by
    refine .bind (Traced.Preserves.within (p := trackerPart) ?_) (fun _ => .pure)
    intro t ht
    exact hsetup t reason _ ht (trySetupData_move _ t reason)
  simulate hradio := Traced.Preserves.within (p := trackerPart) (hsimulate hradio)
  stop := .bind (Traced.Preserves.within (p := trackerPart) (fun t ht =>
    hI t _ ht rfl (fun h => by cases h))) (fun _ => .update (fun _ hs => hs))
  start := holds_start hI
  reset := .bind .environment (fun _ => .update (fun _ hs => hs))
  screen _ := .update (fun _ hs => hs)

def Message.isReply : Message → Bool
  | .dataSetupComplete _ _ | .disconnectDone _ | .resetDone _ => true
  | _ => false

theorem holds_message (hI : Stable I) (h : Closed d (fun m => Traced.Preserves d (Holds I) m))
    {m : Message} (hreply : m.isReply = false) : Traced.Preserves d (Holds I) (handleMessage m) := by
  have hlower : Traced.Preserves (ε := Output) (φ := Fault) d (Holds I)
      (update (fun s => { s with pingTestActive := false })) :=
    holds_frame hI (fun _ => rfl) (fun _ => id)
  cases hspecial : m.isSpecial with
  | false => exact h.handleMessage hspecial
  | true =>
    cases m with
    | startNetstatPoll => exact .bind hlower (fun _ => h.start)
    | startRecovery =>
      refine .bind hlower (fun _ => .bind .environment (fun _ => .bind .current (fun _ => ?_)))
      exact .ite (.ite
        (.bind (.update (fun _ hs => hs)) (fun _ => .bind .emit (fun _ => h.cleanUpConnection _ _)))
        (.bind (.update (fun _ hs => hs)) (fun _ => .bind .emit (fun _ => .emit)))) .pure
    | psRestrictEnabled =>
      exact h.onPsRestrictEnabled (holds_frame hI (fun _ => rfl) (fun _ => id))
    | psRestrictDisabled =>
      exact h.onPsRestrictDisabled (holds_frame hI (fun _ => rfl) (fun _ => id))
    | enableNewApn type => exact h.onEnableNewApn type (holds_frame hI (fun _ => rfl) (fun _ => id))
    | dataSetupComplete cause reason => cases hreply
    | disconnectDone reason => cases hreply
    | resetDone reason => cases hreply
    | _ => cases hspecial

/-- The answers of the connection are left to each invariant. -/
theorem holds_step (hI : Stable I) (h : Closed d (fun m => Traced.Preserves d (Holds I) m))
    {s : PolledTracker} (hs : Holds I s) {e : Event}
    (hreply : ∀ m s', e = .message m → m.isReply = true → Holds I s' → s'.state = s.state →
      Holds I (handleMessage m d s').state) : Holds I (step s (d, e)).1 := by
  have hwoken : Holds I { s with toTracker := s.woken } := hI _ _ hs rfl .inl
  have hrun : (step s (d, e)).1 = (handle e d { s with toTracker := s.woken }).state := by
    rw [step, react, Traced.update_bind]
  have hqueue {u : PolledTracker → PolledTracker} (hu : ∀ s, (u s).toTracker = s.toTracker) :
      Traced.Preserves (ε := Output) (φ := Fault) d (Holds I) (update u) := by
    apply Traced.Preserves.update
    intro s hs
    rw [Holds, hu]
    exact hs
  rw [hrun]
  cases e with
  | intent i => exact h.onReceive i _ hwoken
  | poll =>
    have hdue : Traced.Preserves d (Holds I) duePoll :=
      .bind .current (fun _ => .ite (.bind (hqueue (fun _ => rfl)) (fun _ => holds_poll hI)) .pure)
    exact hdue _ hwoken
  | pingEnds ok =>
    have hends : Traced.Preserves d (Holds I) (endPing ok) :=
      .bind .current (fun _ => .ite (.bind (hqueue (fun _ => rfl)) (fun _ => .ite
        (.bind (hqueue (fun _ => rfl)) (fun _ => .bind .emit (fun _ => hqueue (fun _ => rfl))))
        (hqueue (fun _ => rfl)))) .pure)
    exact hends _ hwoken
  | pingReports =>
    have hreports : Traced.Preserves d (Holds I) reportPing :=
      .bind .current (fun _ => .ite (hqueue (fun _ => rfl)) .pure)
    exact hreports _ hwoken
  | message m =>
    cases hanswer : m.isReply with
    | true =>
      have hother : handle (.message m) = deliver m := by
        cases m <;> first | rfl | cases hanswer
      rw [hother, deliver, Traced.environment_bind]
      split_ifs
      · exact Traced.Preserves.after (fun _ => h.connectivityCheck .fault m)
          (hreply m _ rfl hanswer hwoken rfl)
      · exact hwoken
    | false =>
      have hhandled := h.deliver .fault (holds_message hI h hanswer)
      by_cases hpoll : m = .startNetstatPoll
      · subst hpoll
        have hqueued : Traced.Preserves d (Holds I) (receiveMessage .startNetstatPoll) :=
          .bind .current (fun _ => .ite (.bind (hqueue (fun _ => rfl)) (fun _ => hhandled)) .pure)
        exact hqueued _ hwoken
      · by_cases hrecovery : m = .startRecovery
        · subst hrecovery
          have hqueued : Traced.Preserves d (Holds I) (receiveMessage .startRecovery) :=
            .bind .current (fun _ => .ite (.bind (hqueue (fun _ => rfl)) (fun _ => hhandled)) .pure)
          exact hqueued _ hwoken
        · rw [handle_message hpoll hrecovery]
          exact hhandled _ hwoken

end Invariants

end Polled

end Fw100.Telephony
