import Fw100.Telephony.TrackerSafety

/-!
# When a connection is asked for

Whatever leads to a setup, the connection is asked for only if the phone allows data at that
moment, and not between the message that restricts the packet service and the one that lifts the
restriction.
-/
namespace Fw100.Telephony.Polled
open Library
open Traced (emit environment current update fault)

/-- What `trySetupData` looks at, with the restriction as it is in force. -/
def allows (d : Device) (restricted noAutoAttach : Bool) : Bool :=
  (d.gprsInService || noAutoAttach) && d.phoneIdle && d.isDataAllowed && !restricted &&
    d.desiredPowerState

/-- The restriction behind an event. A phone that is not active drops the message. -/
def restrictedNext (restricted : Bool) (e : Device × Event) : Bool :=
  if e.1.isTheCurrentActivePhone then
    if e.2 = .message .psRestrictEnabled then true
    else if e.2 = .message .psRestrictDisabled then false
    else restricted
  else restricted

def restrictedAfter (es : List (Device × Event)) : Bool := es.foldl restrictedNext false

/-- An observer that refuses a connection where it is not allowed. -/
def allowedNext (d : Device) (t : Bool × Bool) (o : Output) : Option (Bool × Bool) :=
  if o.isConnect = true ∧ allows d t.1 t.2 = false then none else some t

abbrev Permits (s : PolledTracker) (t : Bool × Bool) : Prop := (s.isPsRestricted, s.noAutoAttach) = t

section Permits
variable {d : Device} {t t' : Bool × Bool}

theorem allowedNext_other {o : Output} (h : o.isConnect = false) : allowedNext d t o = some t :=
  if_neg (by simp [h])

theorem observe_others {os : List Output} (h : ∀ o ∈ os, o.isConnect = false) :
    observe (allowedNext d) t os = some t := by
  induction os with
  | nil => rfl
  | cons o os ih =>
    rw [observe_cons, allowedNext_other (h o (.head _)), Option.bind_some]
    exact ih (fun o ho => h o (.tail _ ho))

/-- The observer never moves, and what it has not refused was allowed. -/
theorem observe_allowed {os : List Output} (h : observe (allowedNext d) t os = some t') :
    t' = t ∧ ∀ o ∈ os, o.isConnect = true → allows d t.1 t.2 = true := by
  induction os with
  | nil =>
    obtain rfl := Option.some.inj h
    exact ⟨rfl, fun o ho => by cases ho⟩
  | cons o os ih =>
    rw [observe_cons, allowedNext] at h
    split_ifs at h with hrefused
    · cases h
    · obtain ⟨ht, hos⟩ := ih h
      refine ⟨ht, fun o' ho' hconnect => ?_⟩
      rcases List.mem_cons.mp ho' with rfl | ho'
      · by_contra hnot
        exact hrefused ⟨hconnect, by simpa using hnot⟩
      · exact hos o' ho' hconnect

abbrev FollowsAllowed (d : Device) {α : Type} (m : Handler α) : Prop :=
  Traced.Follows d (allowedNext d) Permits m

/-- Programs that connect to nothing and leave the restriction alone. -/
theorem allowed_of {α : Type} {m : Handler α}
    (hevents : ∀ s, ∀ o ∈ (m d s).events, o.isConnect = false)
    (hflags : ∀ s, (m d s).state.isPsRestricted = s.isPsRestricted ∧
      (m d s).state.noAutoAttach = s.noAutoAttach) : FollowsAllowed d m := by
  rintro s t rfl
  obtain ⟨hrestricted, hattach⟩ := hflags s
  exact ⟨_, observe_others (hevents s), by rw [Permits, hrestricted, hattach]⟩

theorem unconnected_base {es : List Effect} (h : es.filterMap Effect.connected = []) :
    ∀ o ∈ es.map Output.base, o.isConnect = false := by
  intro o ho
  obtain ⟨e, he, rfl⟩ := List.mem_map.mp ho
  have hnone := (List.filterMap_eq_nil_iff.mp h) e he
  cases e <;> first | rfl | cases hnone

theorem unconnected_read (s : PolledTracker) : ∀ o ∈ s.readOutputs d, o.isConnect = false := by
  simp only [PolledTracker.readOutputs, PollStats.readOutputs, PollStats.countOutputs]
  intro o ho
  split_ifs at ho <;> simp at ho
  · rcases ho with rfl | rfl <;> rfl
  · subst ho
    rfl
  · subst ho
    rfl

theorem unconnected_post (s : PolledTracker) : ∀ o ∈ s.postOutputs, o.isConnect = false := by
  intro o ho
  rw [PolledTracker.postOutputs] at ho
  split_ifs at ho
  · obtain rfl := List.mem_singleton.mp ho
    rfl
  · cases ho

theorem pollNetStat_unconnected (s : PolledTracker) :
    (∀ o ∈ (pollNetStat d s).events, o.isConnect = false) ∧
      (pollNetStat d s).state.isPsRestricted = s.isPsRestricted ∧
      (pollNetStat d s).state.noAutoAttach = s.noAutoAttach := by
  have hmove := pollNetStat_move d s
  generalize pollNetStat d s = r at hmove ⊢
  have hread := unconnected_read (d := d) s
  cases hmove with
  | calm hover =>
    refine ⟨fun o ho => ?_, rfl, rfl⟩
    exact (List.mem_append.mp ho).elim (hread o) (unconnected_post _ o)
  | asks hover hmore =>
    refine ⟨fun o ho => ?_, rfl, rfl⟩
    rcases List.mem_append.mp ho with ho | ho
    · exact hread o ho
    · rcases List.mem_cons.mp ho with rfl | ho
      · rfl
      · exact unconnected_post _ o ho
  | pings hover hlimit =>
    refine ⟨fun o ho => ?_, rfl, rfl⟩
    rcases List.mem_append.mp ho with ho | ho
    · exact hread o ho
    · simp only [List.mem_cons, List.not_mem_nil, or_false] at ho
      rcases ho with rfl | rfl <;> rfl

theorem allowed_start : FollowsAllowed d startNetStatPoll := by
  have hstart (s : PolledTracker) : (∀ o ∈ (startNetStatPoll d s).events, o.isConnect = false) ∧
      (startNetStatPoll d s).state.isPsRestricted = s.isPsRestricted ∧
      (startNetStatPoll d s).state.noAutoAttach = s.noAutoAttach := by
    by_cases hstart : s.Startable
    · rw [startNetStatPoll_eq hstart]
      exact pollNetStat_unconnected (s.polling d)
    · rw [startNetStatPoll_still hstart]
      exact ⟨fun o ho => (by cases ho), rfl, rfl⟩
  exact allowed_of (fun s => (hstart s).1) (fun s => (hstart s).2)

theorem unconnected_one {o : Output} (h : o.isConnect = false) : ∀ o' ∈ [o], o'.isConnect = false := by
  intro o' ho'
  rw [List.mem_singleton.mp ho', h]

/-- A setup asks for the connection only if the tracker is ready. -/
theorem allowed_setup (reason : Option Reason) : FollowsAllowed d (trySetupData reason) := by
  have hconnect {s : PolledTracker} (hready : d.toPhone.isReady s.toTracker = true)
      (apn : ApnSetting) :
      observe (allowedNext d) (s.isPsRestricted, s.noAutoAttach)
        [.base (.connect apn reason), .base (.notifyDataConnection reason)] =
          some (s.isPsRestricted, s.noAutoAttach) := by
    have hallows : allows d s.isPsRestricted s.noAutoAttach = true := hready
    simp [allowedNext, hallows, Output.isConnect]
  have hbase : FollowsAllowed d (base (Telephony.trySetupData reason)) := by
    rintro s t rfl
    have hmove := trySetupData_move d.toPhone s.toTracker reason
    simp only [base, Traced.within, trackerPart]
    generalize Telephony.trySetupData reason d.toPhone s.toTracker = r at hmove ⊢
    cases hmove with
    | waits => exact ⟨_, rfl, rfl⟩
    | simulated hradio => exact ⟨_, observe_others (unconnected_one rfl), rfl⟩
    | unscanned hscanning hnone => exact ⟨_, rfl, rfl⟩
    | next apn rest hready hscanning hwaiting => exact ⟨_, hconnect hready apn, rfl⟩
    | nothing preferred es hpreferred hes hidle hwaiting =>
      exact ⟨_, observe_others (unconnected_base hes.1), rfl⟩
    | unlisted preferred es hpreferred hes hidle hwaiting hlist =>
      exact ⟨_, observe_others (unconnected_base hes.1), rfl⟩
    | busy preferred es hpreferred hes hidle hlist =>
      exact ⟨_, observe_others (unconnected_base hes.1), rfl⟩
    | first preferred es apn rest hpreferred hes hready hidle hwaiting hlist =>
      refine ⟨_, ?_, rfl⟩
      rw [List.map_append, observe_append, observe_others (unconnected_base hes.1)]
      exact hconnect hready apn
  exact .bind hbase (fun _ => .pure)

theorem closedAllowed (d : Device) : Closed d (fun m => FollowsAllowed d m) where
  pure _ := .pure
  bind := .bind
  environment h := by
    intro s t hst
    rw [Traced.environment_bind]
    exact h s t hst
  current := .current
  emit _ _ ho := allowed_of (fun _ => unconnected_one ho) (fun _ => ⟨rfl, rfl⟩)
  frame u hu := by
    apply allowed_of (fun _ o ho => by cases ho)
    intro s
    have h := hu s
    simp only [PolledTracker.core, Prod.mk.injEq] at h
    obtain ⟨-, -, -, -, -, -, -, hrestricted, hattach, -⟩ := h
    exact ⟨hrestricted, hattach⟩
  cleanUpConnection tearDown reason := by
    apply allowed_of
    · intro s o ho
      rw [cleanUpConnection_eq] at ho
      simp only [cleanUpOutputs] at ho
      cases tearDown <;> cases halarm : s.reconnectIntent <;> simp [halarm] at ho
      · rcases ho with rfl | rfl | rfl <;> rfl
      · rcases ho with rfl | rfl | rfl | rfl <;> rfl
      · rcases ho with rfl | rfl <;> rfl
      · rcases ho with rfl | rfl | rfl <;> rfl
    · intro s
      rw [cleanUpConnection_eq]
      cases tearDown <;> exact ⟨rfl, rfl⟩
  createAllApnList := by
    have hrun (s : PolledTracker) : base createAllApnList d s =
        ⟨.ok (), { s with toTracker := d.toPhone.rebuilt s.toTracker },
          (d.toPhone.rebuildEffects s.requestedApnType).map .base⟩ := by
      rw [base, Traced.within]
      simp only [trackerPart, createAllApnList_eq]
    apply allowed_of
    · intro s
      rw [hrun]
      apply unconnected_base
      simp only [Phone.rebuildEffects]
      split_ifs <;> rfl
    · intro s
      rw [hrun]
      exact ⟨rfl, rfl⟩
  trySetupData := allowed_setup
  simulate _ := allowed_of (fun _ o ho => by cases ho) (fun _ => ⟨rfl, rfl⟩)
  stop := allowed_of (fun _ => unconnected_one rfl) (fun _ => ⟨rfl, rfl⟩)
  start := allowed_start
  reset := allowed_of (fun _ o ho => by cases ho) (fun _ => ⟨rfl, rfl⟩)
  screen _ := allowed_of (fun _ o ho => by cases ho) (fun _ => ⟨rfl, rfl⟩)

theorem allowed_update {u : PolledTracker → PolledTracker}
    (h : ∀ s, (u s).isPsRestricted = s.isPsRestricted ∧ (u s).noAutoAttach = s.noAutoAttach) :
    FollowsAllowed d (update u) := allowed_of (fun _ o ho => by cases ho) h

theorem allowed_emit {o : Output} (h : o.isConnect = false) : FollowsAllowed d (emit o) :=
  allowed_of (fun _ => unconnected_one h) (fun _ => ⟨rfl, rfl⟩)

/-- All messages but the two about the restriction. -/
theorem allowed_message {m : Message} (henabled : m ≠ .psRestrictEnabled)
    (hdisabled : m ≠ .psRestrictDisabled) : FollowsAllowed d (handleMessage m) := by
  have hclosed := closedAllowed d
  have hidle (reason : Option Reason) :
      FollowsAllowed d (base (gotoIdleAndNotifyDataConnection reason)) :=
    allowed_of (fun _ => unconnected_one rfl) (fun _ => ⟨rfl, rfl⟩)
  cases hspecial : m.isSpecial with
  | false => exact hclosed.handleMessage hspecial
  | true =>
    cases m with
    | startNetstatPoll => exact .bind (allowed_update (fun _ => ⟨rfl, rfl⟩)) (fun _ => allowed_start)
    | startRecovery =>
      have hstats (g : PollStats → PollStats) : FollowsAllowed d (updateStats g) :=
        allowed_update (fun _ => ⟨rfl, rfl⟩)
      have hrecover : FollowsAllowed d doRecovery :=
        hclosed.environment (hclosed.test (fun _ => .ite (fun _ => .ite
          (fun _ => .bind (hstats _) (fun _ =>
            .bind (allowed_emit rfl) (fun _ => hclosed.cleanUpConnection _ _)))
          (fun _ => .bind (hstats _) (fun _ =>
            .bind (allowed_emit rfl) (fun _ => allowed_emit rfl)))) (fun _ => .pure)))
      exact .bind (allowed_update (fun _ => ⟨rfl, rfl⟩)) (fun _ => hrecover)
    | psRestrictEnabled => exact absurd rfl henabled
    | psRestrictDisabled => exact absurd rfl hdisabled
    | enableNewApn type => exact hclosed.onEnableNewApn type (allowed_update (fun _ => ⟨rfl, rfl⟩))
    | dataSetupComplete cause reason =>
      cases cause with
      | none =>
        apply hclosed.onDataSetupDone
        · exact allowed_of (fun _ o ho => by cases ho) (fun _ => ⟨rfl, rfl⟩)
        · intro _ _
          rintro s t rfl
          obtain ⟨value, preferred, es, -, hes, -, hrun⟩ := preferActiveApn_eq d.toPhone s.toTracker
          simp only [base, Traced.within, trackerPart, hrun]
          exact ⟨_, observe_others (unconnected_base hes.1), rfl⟩
      | some cause =>
        refine hclosed.environment (hclosed.test (fun _ => ?_))
        rintro s t rfl
        have hmove := onDataSetupFailed_move d.toPhone s.toTracker cause reason
        simp only [base, Traced.within, trackerPart]
        generalize onDataSetupFailed cause reason d.toPhone s.toTracker = r at hmove ⊢
        cases hmove with
        | empty e hwaiting => exact ⟨_, rfl, rfl⟩
        | more apn rest hrest hwaiting => exact ⟨_, observe_others (unconnected_one rfl), rfl⟩
        | last apn es intent reregister hwaiting hes hintent =>
          exact ⟨_, observe_others (unconnected_base hes), rfl⟩
    | disconnectDone reason => exact hclosed.onDisconnectDone hidle reason
    | resetDone reason => exact hidle reason
    | _ => cases hspecial

/-- What an event asks for is allowed, with the restriction as the event leaves it. -/
structure Allowed (s : PolledTracker) (e : Device × Event) (r : PolledTracker × List Output) :
    Prop where
  connects : ∀ o ∈ r.2, o.isConnect = true →
    allows e.1 (restrictedNext s.isPsRestricted e) s.noAutoAttach = true
  restricted : r.1.isPsRestricted = restrictedNext s.isPsRestricted e
  attach : r.1.noAutoAttach = s.noAutoAttach

theorem Allowed.of_follows {s : PolledTracker} {e : Event} {m : Handler Unit}
    (h : FollowsAllowed d m)
    (hsame : restrictedNext s.isPsRestricted (d, e) = s.isPsRestricted) :
    Allowed s (d, e) ((m d { s with toTracker := s.woken }).state,
      (m d { s with toTracker := s.woken }).events) := by
  obtain ⟨t, hobs, hstate⟩ := h { s with toTracker := s.woken } _ rfl
  obtain ⟨rfl, hconnects⟩ := observe_allowed hobs
  obtain ⟨hrestricted, hattach⟩ := Prod.mk.inj hstate
  refine ⟨fun o ho hc => ?_, hrestricted.trans hsame.symm, hattach⟩
  rw [hsame]
  exact hconnects o ho hc

def Event.isPlain : Event → Bool
  | .message .psRestrictEnabled | .message .psRestrictDisabled => false
  | _ => true

theorem restrictedNext_plain {e : Event} (he : e.isPlain = true) (restricted : Bool) :
    restrictedNext restricted (d, e) = restricted := by
  rw [restrictedNext]
  split_ifs with hactive henabled hdisabled
  · dsimp only at henabled
    subst henabled
    cases he
  · dsimp only at hdisabled
    subst hdisabled
    cases he
  · rfl
  · rfl

theorem allowed_queue {u : PolledTracker → PolledTracker} (hu : ∀ s, (u s).toTracker = s.toTracker) :
    FollowsAllowed d (update u) :=
  allowed_update (fun s =>
    ⟨congrArg Tracker.isPsRestricted (hu s), congrArg Tracker.noAutoAttach (hu s)⟩)

theorem allowed_deliver {m : Message} (hm : FollowsAllowed d (handleMessage m)) :
    FollowsAllowed d (deliver m) := (closedAllowed d).deliver .fault hm

theorem allowed_duePoll : FollowsAllowed d duePoll := by
  have hpoll : FollowsAllowed d pollNetStat :=
    allowed_of (fun s => (pollNetStat_unconnected s).1) (fun s => (pollNetStat_unconnected s).2)
  exact (closedAllowed d).test (fun _ => .ite
    (fun _ => .bind (allowed_queue (fun _ => rfl)) (fun _ => hpoll)) (fun _ => .pure))

theorem allowed_endPing (ok : Bool) : FollowsAllowed d (endPing ok) := by
  have hanswer : FollowsAllowed d (do
      updateStats (fun stats => { stats with pdpResetCount := 0 })
      emit .clearPdpReset
      update (fun s => { s with answered := s.answered + 1 })) :=
    .bind (allowed_queue (fun _ => rfl)) (fun _ =>
      .bind (allowed_emit rfl) (fun _ => allowed_queue (fun _ => rfl)))
  have hlost : FollowsAllowed d
      (update (fun s => { s with startRecoveries := s.startRecoveries + 1 })) :=
    allowed_queue (fun _ => rfl)
  exact (closedAllowed d).test (fun _ => .ite (fun _ => .bind (allowed_queue (fun _ => rfl))
    (fun _ => .ite (fun _ => hanswer) (fun _ => hlost))) (fun _ => .pure))

theorem allowed_receive {m : Message} (henabled : m ≠ .psRestrictEnabled)
    (hdisabled : m ≠ .psRestrictDisabled) : FollowsAllowed d (receiveMessage m) := by
  have hhandled := allowed_deliver (allowed_message (d := d) henabled hdisabled)
  cases m with
  | startNetstatPoll =>
    exact (closedAllowed d).test (fun _ => .ite
      (fun _ => .bind (allowed_queue (fun _ => rfl)) (fun _ => hhandled)) (fun _ => .pure))
  | startRecovery =>
    exact (closedAllowed d).test (fun _ => .ite
      (fun _ => .bind (allowed_queue (fun _ => rfl)) (fun _ => hhandled)) (fun _ => .pure))
  | _ => exact hhandled

theorem allowed_handle {e : Event} (he : e.isPlain = true) : FollowsAllowed d (handle e) := by
  cases e with
  | intent i => exact (closedAllowed d).onReceive i
  | poll => exact allowed_duePoll
  | pingEnds ok => exact allowed_endPing ok
  | pingReports =>
    exact (closedAllowed d).test (fun _ => .ite
      (fun _ => allowed_queue (fun _ => rfl)) (fun _ => .pure))
  | message m =>
    apply allowed_receive
    · rintro rfl
      cases he
    · rintro rfl
      cases he

theorem allowed_inactive (hinactive : ¬ d.isTheCurrentActivePhone = true) (s : PolledTracker)
    (m : Message) :
    Allowed s (d, .message m) ({ s with toTracker := s.woken }, []) :=
  ⟨fun o ho => (by cases ho), (if_neg hinactive).symm, rfl⟩

theorem allowed_restrictEnabled (hactive : d.isTheCurrentActivePhone = true) (s : PolledTracker) :
    let r := deliver .psRestrictEnabled d { s with toTracker := s.woken }
    Allowed s (d, .message .psRestrictEnabled) (r.state, r.events) := by
  intro r
  have hrun : r = ⟨.ok (), { s with toTracker := { s.woken with
      netStatPollEnabled := false, isPsRestricted := true }, polls := 0 }, [.base .stopPoll]⟩ :=
    (deliver_active hactive _ rfl _).trans rfl
  rw [hrun]
  refine ⟨fun o ho hc => ?_, ?_, rfl⟩
  · rw [List.mem_singleton.mp ho] at hc
    cases hc
  · rw [restrictedNext, if_pos hactive, if_pos rfl]

theorem allowed_restrictDisabled (hactive : d.isTheCurrentActivePhone = true) (s : PolledTracker) :
    let r := deliver .psRestrictDisabled d { s with toTracker := s.woken }
    Allowed s (d, .message .psRestrictDisabled) (r.state, r.events) := by
  intro r
  have hlift : r = onPsRestrictLifted d
      { s with toTracker := { s.woken with isPsRestricted := false } } := by
    refine (deliver_active hactive _ rfl _).trans ?_
    rw [handleMessage, onPsRestrictDisabled_eq, Traced.update_bind]
  have hnext : restrictedNext s.isPsRestricted (d, .message .psRestrictDisabled) = false := by
    rw [restrictedNext, if_pos hactive, if_neg (by simp), if_pos rfl]
  obtain ⟨t, hobs, hstate⟩ := (closedAllowed d).onPsRestrictLifted
    { s with toTracker := { s.woken with isPsRestricted := false } } _ rfl
  obtain ⟨rfl, hconnects⟩ := observe_allowed hobs
  obtain ⟨hrestricted, hattach⟩ := Prod.mk.inj hstate
  rw [hlift]
  refine ⟨fun o ho hc => ?_, hrestricted.trans hnext.symm, hattach⟩
  rw [hnext]
  exact hconnects o ho hc

theorem step_eq (s : PolledTracker) (d : Device) (e : Event) :
    step s (d, e) = ((handle e d { s with toTracker := s.woken }).state,
      (handle e d { s with toTracker := s.woken }).events) := by
  rw [step, react, Traced.update_bind]

theorem step_allowed (s : PolledTracker) (e : Device × Event) : Allowed s e (step s e) := by
  obtain ⟨d, e⟩ := e
  rw [step_eq]
  cases hplain : e.isPlain with
  | true => exact .of_follows (allowed_handle hplain) (restrictedNext_plain hplain _)
  | false =>
    obtain ⟨m, rfl, hm⟩ : ∃ m, e = .message m ∧
        (m = .psRestrictEnabled ∨ m = .psRestrictDisabled) := by
      cases e with
      | message m =>
        cases m with
        | psRestrictEnabled => exact ⟨_, rfl, .inl rfl⟩
        | psRestrictDisabled => exact ⟨_, rfl, .inr rfl⟩
        | _ => cases hplain
      | _ => cases hplain
    have hdeliver : handle (.message m) = deliver m := by rcases hm with rfl | rfl <;> rfl
    rw [hdeliver]
    by_cases hactive : d.isTheCurrentActivePhone = true
    · rcases hm with rfl | rfl
      · exact allowed_restrictEnabled hactive s
      · exact allowed_restrictDisabled hactive s
    · rw [deliver_inactive hactive]
      exact allowed_inactive hactive s m

end Permits

theorem restricted_run (s : PolledTracker) (es : List (Device × Event)) :
    (run step s es).1.isPsRestricted = es.foldl restrictedNext s.isPsRestricted ∧
      (run step s es).1.noAutoAttach = s.noAutoAttach := by
  induction es generalizing s with
  | nil => exact ⟨rfl, rfl⟩
  | cons e es ih =>
    obtain ⟨-, hrestricted, hattach⟩ := step_allowed s e
    obtain ⟨hrun, hkept⟩ := ih (step s e).1
    rw [run_cons, List.foldl_cons, ← hrestricted]
    exact ⟨hrun, hkept.trans hattach⟩

/-- Whatever has happened, a connection is asked for only where the phone allows data and the
packet service is not restricted. -/
theorem connect_allowed (noAutoAttach : Bool) (stats : PollStats) (es : List (Device × Event))
    (e : Device × Event) {o : Output}
    (ho : o ∈ (step (run step (.created noAutoAttach stats) es).1 e).2) (hconnect : o.isConnect = true) :
    allows e.1 (restrictedAfter (es ++ [e])) noAutoAttach = true := by
  obtain ⟨hrestricted, hattach⟩ := restricted_run (.created noAutoAttach stats) es
  have hallowed := (step_allowed (run step (.created noAutoAttach stats) es).1 e).connects o ho hconnect
  rw [hrestricted, hattach] at hallowed
  rw [restrictedAfter, List.foldl_append]
  exact hallowed

/-- The restriction is lifted, and the connection is asked for at once. -/
theorem connect_allowed_lifted :
    let d := Device.impatient 0 0
    let stats : PollStats := ⟨0, 0, 0, 0, 0, 0, .none, true⟩
    let es : List (Device × Event) := [(d, .message .recordsLoaded), (d, .message .psRestrictEnabled)]
    let e : Device × Event := (d, .message .psRestrictDisabled)
    (∃ o ∈ (step (run step (.created false stats) es).1 e).2, o.isConnect = true) ∧
      allows d (restrictedAfter (es ++ [e])) false = true := by
  intro d stats es e
  have hasked : ∃ o ∈ (step (run step (.created false stats) es).1 e).2, o.isConnect = true := by
    decide +kernel
  obtain ⟨o, ho, hconnect⟩ := hasked
  exact ⟨⟨o, ho, hconnect⟩, connect_allowed false stats es e ho hconnect⟩

end Fw100.Telephony.Polled
