import Fw100.Telephony.Handlers

/-!
# One poll, one ping, and resets in turn

In every order of messages, intents, polls and threads there is at most one poll in the queue,
and exactly if polls are enabled; at most one ping is under way, and never beside a poll. A ping
without an answer resets the connection, but only so many times in a row.
-/
namespace Fw100.Telephony.Polled
open Library
open Traced (emit environment current update fault)

/-! ### One poll and one ping -/

def PollPart.underWay (p : PollPart) : ℕ := p.pings + p.answered + p.startPolls + p.startRecoveries

structure PollPart.Single (p : PollPart) : Prop where
  polls : p.polls = if p.enabled then 1 else 0
  underWay : p.underWay ≤ if p.pinging then 1 else 0
  apart : p.pinging = true → p.enabled = false

section Relations
variable {τ : Type} {d : Device} {f : τ → Output → Option τ} {Q : PollPart → τ → Prop}

/-- What leaves the poll alone keeps every relation of it. -/
theorem follows_plain (hstill : ∀ t o, o.isPlain = true → f t o = some t) {α : Type} {m : Handler α}
    (hm : Plain d m) : Traced.Follows d f (fun s t => Q s.pollPart t) m := by
  apply Traced.Follows.of_still hm.emits hstill
  intro t s hs
  rw [hm.keeps s.pollPart s rfl]
  exact hs

theorem closed_follows (hstill : ∀ t o, o.isPlain = true → f t o = some t)
    (hstop : Traced.Follows d f (fun s t => Q s.pollPart t) stopNetStatPoll)
    (hstart : Traced.Follows d f (fun s t => Q s.pollPart t) startNetStatPoll)
    (hreset : Traced.Follows d f (fun s t => Q s.pollPart t) resetPollStats)
    (hscreen : ∀ isOn, Traced.Follows d f (fun s t => Q s.pollPart t)
      (updateStats (fun stats => { stats with isScreenOn := isOn }))) :
    Closed d (fun m => Traced.Follows d f (fun s t => Q s.pollPart t) m) where
  pure _ := .pure
  bind := .bind
  environment h := by
    intro s t hst
    rw [Traced.environment_bind]
    exact h s t hst
  current := .current
  emit _ hplain _ := follows_plain hstill (.emit hplain)
  frame _ hu := follows_plain hstill (.update (fun s => congrArg Prod.fst (hu s)))
  cleanUpConnection tearDown reason :=
    .bind (follows_plain hstill plain_clearReconnectAlarm) (fun _ =>
      .bind (follows_plain hstill (plain_setState _)) (fun _ =>
        .bind (follows_plain hstill (plain_release tearDown reason)) (fun _ =>
          .bind hstop (fun _ => follows_plain hstill (plain_cleanUpConnection_rest tearDown reason)))))
  createAllApnList := follows_plain hstill plain_createAllApnList
  trySetupData reason := follows_plain hstill (plain_trySetupData reason)
  simulate _ := follows_plain hstill (plain_setState _)
  stop := hstop
  start := hstart
  reset := hreset
  screen := hscreen

theorem follows_deliver (hstill : ∀ t o, o.isPlain = true → f t o = some t)
    (h : Closed d (fun m => Traced.Follows d f (fun s t => Q s.pollPart t) m)) {m : Message}
    (hpoll : m ≠ .startNetstatPoll) (hrecovery : m ≠ .startRecovery) :
    Traced.Follows d f (fun s t => Q s.pollPart t) (deliver m) := by
  apply h.deliver .fault
  cases hspecial : m.isSpecial with
  | false => exact h.handleMessage hspecial
  | true =>
    cases m with
    | startNetstatPoll => exact absurd rfl hpoll
    | startRecovery => exact absurd rfl hrecovery
    | psRestrictEnabled =>
      exact h.onPsRestrictEnabled (follows_plain hstill (.update (fun _ => rfl)))
    | enableNewApn type =>
      exact h.onEnableNewApn type (follows_plain hstill (.update (fun _ => rfl)))
    | psRestrictDisabled =>
      exact h.onPsRestrictDisabled (follows_plain hstill (.update (fun _ => rfl)))
    | dataSetupComplete cause reason =>
      cases cause with
      | none =>
        exact h.onDataSetupDone (follows_plain hstill (plain_setState _))
          (fun _ _ => follows_plain hstill plain_preferActiveApn) reason
      | some cause =>
        exact h.environment (h.test (fun _ =>
          follows_plain hstill (plain_onDataSetupFailed cause reason)))
    | disconnectDone reason =>
      exact h.onDisconnectDone (fun _ => follows_plain hstill (plain_gotoIdle _)) reason
    | resetDone reason => exact follows_plain hstill (plain_gotoIdle reason)
    | _ => cases hspecial

theorem follows_react (hstill : ∀ t o, o.isPlain = true → f t o = some t) {e : Event}
    (h : Traced.Follows d f (fun s t => Q s.pollPart t) (handle e)) :
    Traced.Follows d f (fun s t => Q s.pollPart t) (react e) := by
  have hwoken : Plain d (update (fun s => { s with toTracker := s.woken })) :=
    .update (fun _ => rfl)
  exact .bind (follows_plain hstill hwoken) (fun _ => h)

end Relations

theorem handle_message {m : Message} (hpoll : m ≠ .startNetstatPoll)
    (hrecovery : m ≠ .startRecovery) : handle (.message m) = deliver m := by
  cases m <;> first | rfl | exact absurd rfl hpoll | exact absurd rfl hrecovery

def anything : Unit → Output → Option Unit := fun _ _ => some ()

abbrev FollowsSingle (d : Device) {α : Type} (m : Handler α) : Prop :=
  Traced.Follows d anything (fun s _ => s.pollPart.Single) m

/-- Without outputs to look at, the state alone has to be seen to. -/
theorem followsSingle_of {d : Device} {α : Type} {m : Handler α}
    (h : ∀ s : PolledTracker, s.pollPart.Single → (m d s).state.pollPart.Single) :
    FollowsSingle d m := fun s t hs => ⟨t, observe_total (fun t _ => t) t _, h s hs⟩

structure PolledTracker.Running (s : PolledTracker) : Prop where
  enabled : s.netStatPollEnabled = true
  polls : s.polls = 0
  pinging : s.pingTestActive = false
  underWay : s.pollPart.underWay = 0

theorem posted_single {s : PolledTracker} (h : s.Running) (stats : PollStats) :
    (s.withStats stats).posted.pollPart.Single := by
  have hnone : s.pollPart.underWay = 0 := h.underWay
  refine ⟨?_, ?_, ?_⟩
  · simp [PolledTracker.pollPart, PolledTracker.posted, PolledTracker.withStats, h.polls]
  · exact hnone.le.trans (Nat.zero_le _)
  · intro hpinging
    cases h.pinging.symm.trans hpinging

theorem pollNetStat_single {d : Device} {s : PolledTracker} (h : s.Running) :
    (pollNetStat d s).state.pollPart.Single := by
  have hmove := pollNetStat_move d s
  generalize pollNetStat d s = r at hmove ⊢
  cases hmove with
  | calm hover => exact posted_single h _
  | asks hover hmore => exact posted_single h _
  | pings hover hlimit =>
    refine ⟨rfl, ?_, fun _ => rfl⟩
    have hnone := h.underWay
    simp only [PollPart.underWay, PolledTracker.pollPart] at hnone
    simp only [PollPart.underWay, PolledTracker.pollPart, PolledTracker.pinged,
      PolledTracker.stopped, PolledTracker.withStats, if_true]
    omega

theorem stopped_single {s : PolledTracker} (h : s.pollPart.Single) : s.stopped.pollPart.Single :=
  ⟨rfl, h.underWay, fun _ => rfl⟩

/-- With the flags down nothing is under way. -/
theorem polling_running {s : PolledTracker} (h : s.pollPart.Single) (hstart : s.Startable)
    (d : Device) : (s.polling d).Running := by
  obtain ⟨-, hpinging, henabled⟩ := hstart
  have hpolls := h.polls
  have hunder := h.underWay
  simp only [PolledTracker.pollPart, henabled, hpinging, Bool.false_eq_true, if_false] at hpolls hunder
  exact ⟨rfl, hpolls, hpinging, Nat.le_zero.mp hunder⟩

theorem startNetStatPoll_single {d : Device} {s : PolledTracker} (h : s.pollPart.Single) :
    (startNetStatPoll d s).state.pollPart.Single := by
  by_cases hstart : s.Startable
  · rw [startNetStatPoll_eq hstart]
    exact pollNetStat_single (polling_running h hstart d)
  · rw [startNetStatPoll_still hstart]
    exact h

theorem closedSingle (d : Device) : Closed d (fun m => FollowsSingle d m) :=
  closed_follows (Q := fun p _ => p.Single) (fun _ _ _ => rfl)
    (followsSingle_of (fun _ h => stopped_single h))
    (followsSingle_of (fun _ h => startNetStatPoll_single h))
    (followsSingle_of (fun _ h => ⟨h.polls, h.underWay, h.apart⟩))
    (fun _ => followsSingle_of (fun _ h => ⟨h.polls, h.underWay, h.apart⟩))

theorem doRecovery_single (d : Device) : FollowsSingle d doRecovery := by
  have hstats (g : PollStats → PollStats) : FollowsSingle d (updateStats g) :=
    followsSingle_of (fun _ h => ⟨h.polls, h.underWay, h.apart⟩)
  have hlog (o : Output) : FollowsSingle d (emit o) := .emit (fun _ t h => ⟨t, rfl, h⟩)
  have hclosed := closedSingle d
  exact .bind .environment (fun _ => .bind .current (fun _ => .ite (fun _ => .ite
    (fun _ => .bind (hstats _) (fun _ => .bind (hlog _) (fun _ => hclosed.cleanUpConnection _ _)))
    (fun _ => .bind (hstats _) (fun _ => .bind (hlog _) (fun _ => hlog _)))) (fun _ => .pure)))

/-- The message of a ping takes the flag down with the last thing that was under way. -/
theorem unpinged_single {s : PolledTracker} (h : s.pollPart.Single) (hnone : s.pollPart.underWay = 0) :
    ({ s with pingTestActive := false } : PolledTracker).pollPart.Single :=
  ⟨h.polls, hnone.le, fun hpinging => by cases hpinging⟩

theorem duePoll_single {d : Device} {s : PolledTracker} (h : s.pollPart.Single) :
    (duePoll d s).state.pollPart.Single := by
  rw [duePoll, Traced.current_bind]
  split_ifs with hdue
  · rw [Traced.update_bind]
    apply pollNetStat_single
    have hpolls : s.polls = if s.netStatPollEnabled then 1 else 0 := h.polls
    have henabled : s.netStatPollEnabled = true := by
      by_contra hoff
      rw [if_neg hoff] at hpolls
      omega
    have hpinging : s.pingTestActive = false := by
      rw [← Bool.not_eq_true]
      intro hon
      cases henabled.symm.trans (h.apart hon)
    have hunder : s.pollPart.underWay ≤ if s.pingTestActive then 1 else 0 := h.underWay
    rw [if_pos henabled] at hpolls
    rw [hpinging] at hunder
    refine ⟨henabled, ?_, hpinging, Nat.le_zero.mp hunder⟩
    simp only [hpolls]
  · exact h

theorem startNetstatPoll_single (d : Device) :
    FollowsSingle d (handle (.message .startNetstatPoll)) := by
  apply followsSingle_of
  intro s h
  have hunder : s.pings + s.answered + s.startPolls + s.startRecoveries ≤
      if s.pingTestActive then 1 else 0 := h.underWay
  rw [handle, receiveMessage, Traced.current_bind]
  split_ifs with hqueued
  · rw [Traced.update_bind]
    have hnone : s.pings + s.answered + (s.startPolls - 1) + s.startRecoveries = 0 := by
      split_ifs at hunder <;> omega
    have htaken : ({ s with startPolls := s.startPolls - 1 } : PolledTracker).pollPart.Single :=
      ⟨h.polls, hnone.le.trans (Nat.zero_le _), h.apart⟩
    by_cases hactive : d.isTheCurrentActivePhone = true
    · rw [deliver_active hactive .startNetstatPoll rfl, handleMessage, Traced.update_bind]
      exact startNetStatPoll_single (unpinged_single htaken hnone)
    · rw [deliver_inactive hactive]
      exact htaken
  · exact h

theorem startRecovery_single (d : Device) :
    FollowsSingle d (handle (.message .startRecovery)) := by
  apply followsSingle_of
  intro s h
  have hunder : s.pings + s.answered + s.startPolls + s.startRecoveries ≤
      if s.pingTestActive then 1 else 0 := h.underWay
  rw [handle, receiveMessage, Traced.current_bind]
  split_ifs with hqueued
  · rw [Traced.update_bind]
    have hnone : s.pings + s.answered + s.startPolls + (s.startRecoveries - 1) = 0 := by
      split_ifs at hunder <;> omega
    have htaken :
        ({ s with startRecoveries := s.startRecoveries - 1 } : PolledTracker).pollPart.Single :=
      ⟨h.polls, hnone.le.trans (Nat.zero_le _), h.apart⟩
    by_cases hactive : d.isTheCurrentActivePhone = true
    · rw [deliver_active hactive .startRecovery rfl, handleMessage, Traced.update_bind]
      obtain ⟨-, -, hrecovered⟩ := doRecovery_single d _ () (unpinged_single htaken hnone)
      exact hrecovered
    · rw [deliver_inactive hactive]
      exact htaken
  · exact h

theorem handle_single (d : Device) (e : Event) : FollowsSingle d (handle e) := by
  have hclosed := closedSingle d
  cases e with
  | intent i => exact hclosed.onReceive i
  | poll => exact followsSingle_of (fun _ h => duePoll_single h)
  | pingEnds ok =>
    apply followsSingle_of
    intro s h
    have hunder : s.pings + s.answered + s.startPolls + s.startRecoveries ≤ _ := h.underWay
    rw [handle, endPing, Traced.current_bind]
    by_cases hping : 0 < s.pings
    · rw [if_pos hping]
      cases ok with
      | true =>
        refine ⟨h.polls, le_trans ?_ hunder, h.apart⟩
        show s.pings - 1 + (s.answered + 1) + s.startPolls + s.startRecoveries ≤ _
        omega
      | false =>
        refine ⟨h.polls, le_trans ?_ hunder, h.apart⟩
        show s.pings - 1 + s.answered + s.startPolls + (s.startRecoveries + 1) ≤ _
        omega
    · rw [if_neg hping]
      exact h
  | pingReports =>
    apply followsSingle_of
    intro s h
    have hunder : s.pings + s.answered + s.startPolls + s.startRecoveries ≤ _ := h.underWay
    rw [handle, reportPing, Traced.current_bind]
    split_ifs with hanswered
    · refine ⟨h.polls, le_trans ?_ hunder, h.apart⟩
      show s.pings + (s.answered - 1) + (s.startPolls + 1) + s.startRecoveries ≤ _
      omega
    · exact h
  | message m =>
    by_cases hpoll : m = .startNetstatPoll
    · subst hpoll
      exact startNetstatPoll_single d
    · by_cases hrecovery : m = .startRecovery
      · subst hrecovery
        exact startRecovery_single d
      · rw [handle_message hpoll hrecovery]
        exact follows_deliver (Q := fun p _ => p.Single) (fun _ _ _ => rfl) hclosed hpoll hrecovery

/-- In every run there is one poll in the queue if polls are enabled and none if not, at most one
ping is under way, from its thread to its message, and none while polls are enabled. -/
theorem polls_single (noAutoAttach : Bool) (stats : PollStats) (es : List (Device × Event)) :
    (run step (.created noAutoAttach stats) es).1.pollPart.Single := by
  have hstep (s : PolledTracker) (t : Unit) (e : Device × Event) (hs : s.pollPart.Single) :
      ∃ t', observe anything t (step s e).2 = some t' ∧ (step s e).1.pollPart.Single :=
    follows_react (Q := fun p _ => p.Single) (fun _ _ _ => rfl) (handle_single e.1 e.2) s t hs
  have hcreated : (PolledTracker.created noAutoAttach stats).pollPart.Single :=
    ⟨rfl, le_rfl, fun hpinging => by cases hpinging⟩
  obtain ⟨-, -, hsingle⟩ := observe_every_run (t := ()) hstep es hcreated
  exact hsingle

/-! ### When the count of resets is cleared -/

/-- An observer that is there as long as the count is not cleared. -/
def unclearedNext : Unit → Output → Option Unit
  | _, .clearPdpReset => none
  | _, _ => some ()

abbrev Uncleared (d : Device) {α : Type} (m : Handler α) : Prop :=
  Traced.Follows d unclearedNext (fun _ _ => True) m

section Uncleared
variable {d : Device}

theorem unclearedNext_plain (t : Unit) (o : Output) (h : o.isPlain = true) :
    unclearedNext t o = some t := by
  cases o <;> first | rfl | cases h

theorem observe_uncleared_iff {os : List Output} :
    observe unclearedNext () os = some () ↔ .clearPdpReset ∉ os := by
  induction os with
  | nil => simp
  | cons o os ih =>
    rw [observe_cons, List.mem_cons, not_or, ← ih]
    cases o <;> simp [unclearedNext]

theorem Uncleared.not_mem {α : Type} {m : Handler α} (h : Uncleared d m) (s : PolledTracker) :
    .clearPdpReset ∉ (m d s).events := by
  obtain ⟨_, hobs, -⟩ := h s () trivial
  exact observe_uncleared_iff.mp hobs

/-- Packets that come in show in the counters of a poll with something to compare them with. -/
theorem clears_readOutputs_iff (s : PolledTracker) :
    .clearPdpReset ∈ s.readOutputs d ↔
      s.netStatPollEnabled = true ∧ (0 < s.stats.txPkts ∨ 0 < s.stats.rxPkts) ∧
        s.stats.txPkts ≤ d.mobileTxPackets ∧ s.stats.rxPkts < d.mobileRxPackets := by
  have hactivity : (s.stats.compared d).2 = .dataIn ∨ (s.stats.compared d).2 = .dataInAndOut ↔
      s.stats.txPkts ≤ d.mobileTxPackets ∧ s.stats.rxPkts < d.mobileRxPackets := by
    simp only [PollStats.compared, PollStats.counted]
    split_ifs <;> simp <;> omega
  have hmem (stats : PollStats) (activity : Activity) :
      .clearPdpReset ∈ stats.countOutputs activity ↔
        activity = .dataIn ∨ activity = .dataInAndOut := by
    simp only [PollStats.countOutputs]
    split_ifs with hin <;> simp [hin]
  simp only [PolledTracker.readOutputs, PollStats.readOutputs]
  split_ifs with hread
  · rw [hmem, hactivity]
    simp [hread]
  · exact iff_of_false List.not_mem_nil (fun h => hread ⟨h.1, h.2.1⟩)

theorem clears_poll_iff (s : PolledTracker) :
    .clearPdpReset ∈ (pollNetStat d s).events ↔ .clearPdpReset ∈ s.readOutputs d := by
  have hpost (s' : PolledTracker) : .clearPdpReset ∉ s'.postOutputs := by
    rw [PolledTracker.postOutputs]
    split_ifs <;> simp
  have hmove := pollNetStat_move d s
  generalize pollNetStat d s = r at hmove ⊢
  cases hmove with
  | calm hover => simp [hpost]
  | asks hover hmore => simp [hpost]
  | pings hover hlimit => simp

theorem uncleared_start : Uncleared d startNetStatPoll := by
  intro s _ _
  refine ⟨(), observe_uncleared_iff.mpr (fun hmem => ?_), trivial⟩
  by_cases hstart : s.Startable
  · rw [startNetStatPoll_eq hstart, clears_poll_iff, clears_readOutputs_iff] at hmem
    obtain ⟨-, hcounted, -⟩ := hmem
    simp [PolledTracker.polling, PollStats.reset] at hcounted
  · rw [startNetStatPoll_still hstart] at hmem
    cases hmem

theorem closedUncleared (d : Device) : Closed d (fun m => Uncleared d m) :=
  closed_follows (Q := fun _ _ => True) unclearedNext_plain (fun _ _ _ => ⟨(), rfl, trivial⟩)
    uncleared_start (fun _ _ _ => ⟨(), rfl, trivial⟩) (fun _ _ _ _ => ⟨(), rfl, trivial⟩)

theorem uncleared_update {u : PolledTracker → PolledTracker} : Uncleared d (update u) :=
  .update (fun _ _ _ => trivial)

theorem uncleared_doRecovery : Uncleared d doRecovery := by
  have hstats (g : PollStats → PollStats) : Uncleared d (updateStats g) := uncleared_update
  have hlog (o : Output) (ho : unclearedNext () o = some ()) : Uncleared d (emit o) :=
    .emit (fun _ _ h => ⟨(), ho, h⟩)
  exact .bind .environment (fun _ => .bind .current (fun _ => .ite (fun _ => .ite
    (fun _ => .bind (hstats _) (fun _ => .bind (hlog _ rfl) (fun _ =>
      (closedUncleared d).cleanUpConnection _ _)))
    (fun _ => .bind (hstats _) (fun _ => .bind (hlog _ rfl) (fun _ => hlog _ rfl)))) (fun _ => .pure)))

theorem uncleared_message (m : Message) : Uncleared d (handle (.message m)) := by
  have hclosed := closedUncleared d
  by_cases hpoll : m = .startNetstatPoll
  · subst hpoll
    have hstart : Uncleared d (handleMessage .startNetstatPoll) :=
      .bind uncleared_update (fun _ => uncleared_start)
    exact .bind .current (fun _ => .ite (fun _ =>
      .bind uncleared_update (fun _ => hclosed.deliver .fault hstart)) (fun _ => .pure))
  by_cases hrecovery : m = .startRecovery
  · subst hrecovery
    have hrecover : Uncleared d (handleMessage .startRecovery) :=
      .bind uncleared_update (fun _ => uncleared_doRecovery)
    exact .bind .current (fun _ => .ite (fun _ =>
      .bind uncleared_update (fun _ => hclosed.deliver .fault hrecover)) (fun _ => .pure))
  rw [handle_message hpoll hrecovery]
  exact follows_deliver (Q := fun _ _ => True) unclearedNext_plain hclosed hpoll hrecovery

end Uncleared

/-- The count is cleared by a ping that is answered and by a poll that sees packets come in, and by
nothing else. -/
theorem step_clears_iff (s : PolledTracker) (d : Device) (e : Event) :
    .clearPdpReset ∈ (step s (d, e)).2 ↔
      (e = .pingEnds true ∧ 0 < s.pings) ∨
        (e = .poll ∧ 0 < s.polls ∧ s.netStatPollEnabled = true ∧
          (0 < s.stats.txPkts ∨ 0 < s.stats.rxPkts) ∧
          s.stats.txPkts ≤ d.mobileTxPackets ∧ s.stats.rxPkts < d.mobileRxPackets) := by
  have hstep : (step s (d, e)).2 = (handle e d { s with toTracker := s.woken }).events := by
    rw [step, react, Traced.update_bind]
  rw [hstep]
  cases e with
  | message m => exact iff_of_false ((uncleared_message m).not_mem _) (by simp)
  | intent i => exact iff_of_false (((closedUncleared d).onReceive i).not_mem _) (by simp)
  | poll =>
    simp only [handle, duePoll, Traced.current_bind]
    split_ifs with hdue
    · rw [Traced.update_bind, clears_poll_iff, clears_readOutputs_iff]
      simp [hdue, Tracker.woken]
    · exact iff_of_false List.not_mem_nil (by simp [hdue])
  | pingEnds ok =>
    simp only [handle, endPing, Traced.current_bind]
    split_ifs with hping hok
    · simp [Traced.update_bind, updateStats, Traced.emit_bind, hok, hping]
    · exact iff_of_false List.not_mem_nil (by simp [hok])
    · exact iff_of_false List.not_mem_nil (by simp [hping])
  | pingReports =>
    simp only [handle, reportPing, Traced.current_bind]
    split_ifs
    · exact iff_of_false List.not_mem_nil (by simp)
    · exact iff_of_false List.not_mem_nil (by simp)

/-! ### Resets in turn -/

/-- After `M` resets in a row without packets coming in the phone registers anew. -/
def recoveryNext (M n : ℤ) : Output → Option ℤ
  | .pdpRadioReset => if n < M then some (n + 1) else none
  | .pdpReregisterNetwork => if n < M then none else some 0
  | .clearPdpReset => some 0
  | _ => some n

abbrev Counts (s : PolledTracker) (n : ℤ) : Prop := s.pollPart.stats.pdpResetCount = n

theorem recoveryNext_plain (M : ℤ) (n : ℤ) (o : Output) (h : o.isPlain = true) :
    recoveryNext M n o = some n := by
  cases o <;> first | rfl | cases h

section Recovery
variable {M : ℤ} {d : Device}

theorem observe_plain {n : ℤ} {os : List Output} (h : ∀ o ∈ os, o.isPlain = true) :
    observe (recoveryNext M) n os = some n := by
  induction os with
  | nil => rfl
  | cons o os ih =>
    rw [observe_cons, recoveryNext_plain M n o (h o (.head _)), Option.bind_some]
    exact ih (fun o ho => h o (.tail _ ho))

/-- Packets that come in clear the count, and nothing else of the counters does. -/
theorem counted_pdpResetCount (stats : PollStats) (phoneIdle : Bool) (sent received : ℤ) :
    let c := stats.counted phoneIdle sent received
    c.1.pdpResetCount =
      if c.2 = .dataIn ∨ c.2 = .dataInAndOut then 0 else stats.pdpResetCount := by
  simp only [PollStats.counted]
  split_ifs <;> simp_all

theorem observe_countOutputs (stats : PollStats) (newActivity : Activity) (n : ℤ) :
    observe (recoveryNext M) n (stats.countOutputs newActivity) =
      some (if newActivity = .dataIn ∨ newActivity = .dataInAndOut then 0 else n) := by
  simp only [PollStats.countOutputs]
  split_ifs <;> rfl

theorem observe_readOutputs (s : PolledTracker) :
    observe (recoveryNext M) s.stats.pdpResetCount (s.readOutputs d) =
      some (s.read d).pdpResetCount := by
  simp only [PolledTracker.readOutputs, PolledTracker.read, PollStats.readOutputs, PollStats.read]
  split_ifs
  · rw [observe_countOutputs]
    congr 1
    exact (counted_pdpResetCount _ _ _ _).symm
  · rfl

/-- Behind the first part a poll leaves the count alone. -/
theorem pollNetStat_counts (s : PolledTracker) :
    ∃ n, observe (recoveryNext M) s.stats.pdpResetCount (pollNetStat d s).events = some n ∧
      Counts (pollNetStat d s).state n := by
  have hmove := pollNetStat_move d s
  have hpost (s' : PolledTracker) : ∀ o ∈ s'.postOutputs, o.isPlain = true := by
    intro o ho
    rw [PolledTracker.postOutputs] at ho
    split_ifs at ho
    · obtain rfl := List.mem_singleton.mp ho
      rfl
    · cases ho
  generalize pollNetStat d s = r at hmove ⊢
  cases hmove with
  | calm hover =>
    refine ⟨(s.read d).pdpResetCount, ?_, rfl⟩
    rw [observe_append, observe_readOutputs, Option.bind_some, observe_plain (hpost _)]
  | asks hover hmore =>
    refine ⟨(s.read d).pdpResetCount, ?_, rfl⟩
    rw [observe_append, observe_readOutputs, Option.bind_some, observe_cons]
    exact observe_plain (hpost _)
  | pings hover hlimit =>
    refine ⟨(s.read d).pdpResetCount, ?_, rfl⟩
    rw [observe_append, observe_readOutputs]
    rfl

theorem startNetStatPoll_counts : Traced.Follows d (recoveryNext M) Counts startNetStatPoll := by
  rintro s n rfl
  by_cases hstart : s.Startable
  · rw [startNetStatPoll_eq hstart]
    exact pollNetStat_counts (s.polling d)
  · rw [startNetStatPoll_still hstart]
    exact ⟨_, rfl, rfl⟩

theorem closedCounts (M : ℤ) (d : Device) :
    Closed d (fun m => Traced.Follows d (recoveryNext M) Counts m) :=
  closed_follows (Q := fun p n => p.stats.pdpResetCount = n) (recoveryNext_plain M)
    (fun _ n h => ⟨n, rfl, h⟩) startNetStatPoll_counts (fun _ n h => ⟨n, rfl, h⟩)
    (fun _ _ n h => ⟨n, rfl, h⟩)

theorem doRecovery_counts (h : d.maxPdpReset = M) :
    Traced.Follows d (recoveryNext M) Counts doRecovery := by
  rintro s n rfl
  rw [doRecovery, Traced.environment_bind, Traced.current_bind, h]
  split_ifs with hconnected hmore
  · rw [updateStats, Traced.update_bind, Traced.emit_bind]
    obtain ⟨n, hobs, hcounts⟩ := (closedCounts M d).cleanUpConnection true (some reasonPdpReset)
      { s with stats := { s.stats with pdpResetCount := s.stats.pdpResetCount + 1 } } _ rfl
    refine ⟨n, ?_, hcounts⟩
    rw [observe_cons]
    exact (congrArg (Option.bind · _) (if_pos hmore)).trans hobs
  · refine ⟨0, ?_, rfl⟩
    exact congrArg (Option.bind · _) (if_neg hmore)
  · exact ⟨_, rfl, rfl⟩

theorem handle_counts (h : d.maxPdpReset = M) (e : Event) :
    Traced.Follows d (recoveryNext M) Counts (handle e) := by
  have hclosed := closedCounts M d
  have hqueue {u : PolledTracker → PolledTracker} (hu : ∀ s, (u s).stats = s.stats) :
      Traced.Follows (φ := Fault) d (recoveryNext M) Counts (update u) :=
    .update (fun s n hn => (congrArg PollStats.pdpResetCount (hu s)).trans hn)
  have hdeliver {m : Message} (hm : Traced.Follows d (recoveryNext M) Counts (handleMessage m)) :
      Traced.Follows d (recoveryNext M) Counts (deliver m) := hclosed.deliver .fault hm
  cases e with
  | intent i => exact hclosed.onReceive i
  | poll =>
    have hpoll : Traced.Follows d (recoveryNext M) Counts pollNetStat := by
      rintro s n rfl
      exact pollNetStat_counts s
    exact .bind .current (fun _ => .ite (fun _ =>
      .bind (hqueue (fun _ => rfl)) (fun _ => hpoll)) (fun _ => .pure))
  | pingEnds ok =>
    have hanswer : Traced.Follows d (recoveryNext M) Counts (do
        updateStats (fun stats => { stats with pdpResetCount := 0 })
        emit .clearPdpReset
        update (fun s => { s with answered := s.answered + 1 })) := fun _ _ _ => ⟨0, rfl, rfl⟩
    exact .bind .current (fun _ => .ite (fun _ => .bind (hqueue (fun _ => rfl)) (fun _ =>
      .ite (fun _ => hanswer) (fun _ => hqueue (fun _ => rfl)))) (fun _ => .pure))
  | pingReports =>
    exact .bind .current (fun _ => .ite (fun _ => hqueue (fun _ => rfl)) (fun _ => .pure))
  | message m =>
    by_cases hpoll : m = .startNetstatPoll
    · subst hpoll
      have hstart : Traced.Follows d (recoveryNext M) Counts (handleMessage .startNetstatPoll) :=
        .bind (hqueue (fun _ => rfl)) (fun _ => hclosed.start)
      exact .bind .current (fun _ => .ite (fun _ =>
        .bind (hqueue (fun _ => rfl)) (fun _ => hdeliver hstart)) (fun _ => .pure))
    · by_cases hrecovery : m = .startRecovery
      · subst hrecovery
        have hrecover : Traced.Follows d (recoveryNext M) Counts (handleMessage .startRecovery) :=
          .bind (hqueue (fun _ => rfl)) (fun _ => doRecovery_counts h)
        exact .bind .current (fun _ => .ite (fun _ =>
          .bind (hqueue (fun _ => rfl)) (fun _ => hdeliver hrecover)) (fun _ => .pure))
      · rw [handle_message hpoll hrecovery]
        exact follows_deliver (Q := fun p n => p.stats.pdpResetCount = n) (recoveryNext_plain M)
          hclosed hpoll hrecovery

end Recovery

/-- While the setting stays the same, pings without an answer reset the connection as often as it
says and then make the phone register anew, and so on, unless packets come in or a ping is
answered, which begins the count again. -/
theorem resets_in_turn (noAutoAttach : Bool) (stats : PollStats) (M : ℤ)
    (es : List (Device × Event)) (h : ∀ e ∈ es, e.1.maxPdpReset = M) :
    ∃ n, observe (recoveryNext M) 0 (run step (.created noAutoAttach stats) es).2.flatten = some n := by
  have hstep (s : PolledTracker) (n : ℤ) (e : Device × Event) (hs : Counts s n)
      (he : e.1.maxPdpReset = M) :
      ∃ n', observe (recoveryNext M) n (step s e).2 = some n' ∧ Counts (step s e).1 n' :=
    follows_react (Q := fun p n => p.stats.pdpResetCount = n) (recoveryNext_plain M)
      (handle_counts he e.2) s n hs
  have hcreated : Counts (.created noAutoAttach stats) 0 := rfl
  obtain ⟨n, hobs, -⟩ := observe_run
    (P := fun (_ : PolledTracker) (e : Device × Event) => e.1.maxPdpReset = M) hstep hcreated
    (Along.of_forall h)
  exact ⟨n, hobs⟩

/-- A device on which ten packets without an answer call for a ping at once. -/
def Device.impatient (tx rx : ℤ) : Device :=
  { Phone.simless "310004" none none with
    isTheCurrentActivePhone := true, isConcurrentVoiceAndData := false, cidActive := 1,
    wifiInfo := true, mobileInfo := true, mobileTxPackets := tx, mobileRxPackets := rx, watchdogTrigger := 10, noRecvPollLimit := 0,
    errorPollInterval := 5000, pollInterval := 5000, longPollInterval := 600000, maxPdpReset := 1,
    pollNetstatMillis := 1000 }

/-- Two pings without an answer: a reset first and then a registration. -/
theorem resets_in_turn_twice :
    let d := Device.impatient
    let stats : PollStats := ⟨0, 0, 0, 0, 0, 0, .none, true⟩
    let unanswered : List (Device × Event) :=
      [(d 5 1, .message (.dataSetupComplete none none)), (d 20 1, .poll), (d 20 1, .pingEnds false),
        (d 20 1, .message .startRecovery)]
    let es := [(d 0 0, .message .recordsLoaded), (d 0 0, .message (.trySetupData none))] ++
      unanswered ++ (d 20 1, .message (.disconnectDone none)) :: unanswered
    let outs := (run step (.created false stats) es).2.flatten
    outs.filter (fun o => !o.isPlain) = [.pdpRadioReset, .pdpReregisterNetwork] ∧
      ∃ n, observe (recoveryNext 1) 0 outs = some n := by
  intro d stats unanswered es outs
  have hsetting : ∀ e ∈ es, e.1.maxPdpReset = 1 := by
    intro e he
    simp only [es, unanswered, List.cons_append, List.nil_append, List.mem_cons,
      List.not_mem_nil, or_false] at he
    rcases he with rfl | rfl | rfl | rfl | rfl | rfl | rfl | rfl | rfl | rfl | rfl <;> rfl
  exact ⟨by decide +kernel, resets_in_turn false stats 1 es hsetting⟩

end Fw100.Telephony.Polled
