import Fw100.Telephony.PollRuns

/-!
# When the watchdog sends a ping

The poll adds up the packets that were sent since one came in, and counts how often in a row they
were too many. Both are functions of the counters that the polls have read: the sum is the
difference to an earlier poll, and the count is the length of a streak.
-/
namespace Fw100.Telephony.Polled
open Library
open Traced (emit environment current update fault)

/-! ### What the counters say -/

/-- Between two polls no packet came in, and if any were sent then outside a call. Polls before
the first packet do not count. -/
def Continues (prev d : Device) : Prop :=
  (0 < prev.mobileTxPackets ∨ 0 < prev.mobileRxPackets) ∧
    d.mobileRxPackets = prev.mobileRxPackets ∧
    (prev.mobileTxPackets < d.mobileTxPackets ∧ d.phoneIdle = true ∨
      d.mobileTxPackets = prev.mobileTxPackets)

instance (prev d : Device) : Decidable (Continues prev d) := inferInstanceAs (Decidable (_ ∧ _))

/-- The poll since which nothing was answered; the polls before `d` are listed backwards. -/
def since : Device → List Device → Device
  | d, [] => d
  | d, prev :: older => if Continues prev d then since prev older else d

/-- The packets that were sent without an answer, up to the newest poll. -/
def unanswered : List Device → ℤ
  | [] => 0
  | d :: older => d.mobileTxPackets - (since d older).mobileTxPackets

/-- The number of polls up to now that found too many packets without an answer, in a row. -/
def streak (T : ℤ) : List Device → ℕ
  | [] => 0
  | d :: older => if T ≤ unanswered (d :: older) then streak T older + 1 else 0

def Overdue (T L : ℤ) (polls : List Device) : Prop := 0 < streak T polls ∧ L < streak T polls

instance (T L : ℤ) (polls : List Device) : Decidable (Overdue T L polls) :=
  inferInstanceAs (Decidable (_ ∧ _))

theorem unanswered_continues {prev d : Device} (h : Continues prev d) (older : List Device) :
    unanswered (d :: prev :: older) =
      unanswered (prev :: older) + (d.mobileTxPackets - prev.mobileTxPackets) := by
  simp only [unanswered, since, if_pos h]
  ring

theorem unanswered_restarts {prev d : Device} (h : ¬ Continues prev d) (older : List Device) :
    unanswered (d :: prev :: older) = 0 := by
  simp only [unanswered, since, if_neg h, sub_self]

theorem unanswered_of_none {d : Device} (h : ¬ (0 < d.mobileTxPackets ∨ 0 < d.mobileRxPackets))
    (older : List Device) : unanswered (d :: older) = 0 := by
  cases older with
  | nil => exact sub_self _
  | cons prev older =>
    apply unanswered_restarts
    rintro ⟨hprev, hrx, htx⟩
    omega

/-! ### One poll -/

/-- The sum of the poll, with what it depends on. -/
theorem counted_sentSinceLastRecv (stats : PollStats) (phoneIdle : Bool) (sent received : ℤ) :
    (stats.counted phoneIdle sent received).1.sentSinceLastRecv =
      if received = 0 ∧ (0 < sent ∧ phoneIdle = true ∨ sent = 0) then
        stats.sentSinceLastRecv + sent
      else 0 := by
  cases phoneIdle with
  | false =>
    simp only [PollStats.counted, Bool.false_eq_true, and_false, false_or, if_false]
    split_ifs <;> simp_all
  | true =>
    simp only [PollStats.counted, and_true, if_true]
    split_ifs <;> simp_all
    omega

/-- What the polls so far have left in the fields. -/
structure PollStats.Records (stats : PollStats) (T : ℤ) (d : Device) (older : List Device) : Prop where
  txPkts : stats.txPkts = d.mobileTxPackets
  rxPkts : stats.rxPkts = d.mobileRxPackets
  sent : stats.sentSinceLastRecv = unanswered (d :: older)
  count : stats.noRecvPollCount = streak T (d :: older)

theorem shows_compared (stats : PollStats) (d : Device) :
    let shown := (stats.compared d).1.shows (stats.compared d).2
    shown.txPkts = d.mobileTxPackets ∧ shown.rxPkts = d.mobileRxPackets ∧
      shown.noRecvPollCount = stats.noRecvPollCount := by
  simp only [PollStats.compared, PollStats.counted, PollStats.shows, PollStats.sampled]
  split_ifs <;> exact ⟨rfl, rfl, rfl⟩

/-- The first part of a poll. -/
theorem PollStats.Records.read {stats : PollStats} {T : ℤ} {prev : Device} {older : List Device}
    (h : stats.Records T prev older) (d : Device) :
    let read := stats.read d true
    read.txPkts = d.mobileTxPackets ∧ read.rxPkts = d.mobileRxPackets ∧
      read.sentSinceLastRecv = unanswered (d :: prev :: older) ∧
      read.noRecvPollCount = streak T (prev :: older) := by
  intro read
  by_cases hany : 0 < prev.mobileTxPackets ∨ 0 < prev.mobileRxPackets
  · have hread : read = (stats.compared d).1.shows (stats.compared d).2 := by
      simp only [read, PollStats.read]
      rw [if_pos]
      rw [h.txPkts, h.rxPkts]
      exact ⟨trivial, hany⟩
    obtain ⟨htx, hrx, hcount⟩ := shows_compared stats d
    rw [hread]
    refine ⟨htx, hrx, ?_, hcount.trans h.count⟩
    have hsum : ((stats.compared d).1.shows (stats.compared d).2).sentSinceLastRecv =
        (stats.compared d).1.sentSinceLastRecv := rfl
    have hold : (stats.sampled d).sentSinceLastRecv = unanswered (prev :: older) := h.sent
    rw [hsum, PollStats.compared, counted_sentSinceLastRecv, hold, h.txPkts, h.rxPkts]
    by_cases hgo : Continues prev d
    · rw [unanswered_continues hgo, if_pos]
      obtain ⟨-, hrx', htx'⟩ := hgo
      refine ⟨sub_eq_zero.mpr hrx', htx'.imp (fun h => ⟨sub_pos.mpr h.1, h.2⟩) sub_eq_zero.mpr⟩
    · rw [unanswered_restarts hgo, if_neg]
      rintro ⟨hrx', htx'⟩
      exact hgo ⟨hany, sub_eq_zero.mp hrx',
        htx'.imp (fun h => ⟨sub_pos.mp h.1, h.2⟩) sub_eq_zero.mp⟩
  · have hread : read = stats.sampled d := by
      simp only [read, PollStats.read]
      rw [if_neg]
      rw [h.txPkts, h.rxPkts]
      exact fun hboth => hany hboth.2
    have hrestarts : ¬ Continues prev d := fun hgo => hany hgo.1
    rw [hread, unanswered_restarts hrestarts]
    exact ⟨rfl, rfl, h.sent.trans (unanswered_of_none hany older), h.count⟩

theorem read_reset (stats : PollStats) (d d' : Device) :
    let read := (stats.reset d).read d' true
    read.txPkts = d'.mobileTxPackets ∧ read.rxPkts = d'.mobileRxPackets ∧
      read.sentSinceLastRecv = unanswered [d'] ∧ read.noRecvPollCount = 0 := by
  have hread : (stats.reset d).read d' true = (stats.reset d).sampled d' := by
    simp only [PollStats.read, PollStats.reset]
    rw [if_neg]
    rintro ⟨-, h | h⟩
    · exact absurd h (by decide)
    · exact absurd h (by decide)
  rw [hread]
  exact ⟨rfl, rfl, (sub_self _).symm, rfl⟩

section Polls
variable {T L : ℤ}

structure Watching (T : ℤ) (d : Device) (older : List Device) (s : PolledTracker) : Prop where
  enabled : s.netStatPollEnabled = true
  polls : s.polls = 1
  records : s.stats.Records T d older

theorem startPing_readOutputs (s : PolledTracker) (d : Device) : .startPing ∉ s.readOutputs d := by
  simp only [PolledTracker.readOutputs, PollStats.readOutputs, PollStats.countOutputs]
  split_ifs <;> simp

theorem startPing_postOutputs (s : PolledTracker) : .startPing ∉ s.postOutputs := by
  simp only [PolledTracker.postOutputs]
  split_ifs <;> simp

/-- A poll sends a ping if the streak is too long with it, and polls go on otherwise. -/
theorem poll_watches {d : Device} {older : List Device} {s : PolledTracker}
    (henabled : s.netStatPollEnabled = true) (hpolls : s.polls = 0)
    (htx : (s.read d).txPkts = d.mobileTxPackets) (hrx : (s.read d).rxPkts = d.mobileRxPackets)
    (hsent : (s.read d).sentSinceLastRecv = unanswered (d :: older))
    (hcount : (s.read d).noRecvPollCount = streak T older) (htrigger : d.watchdogTrigger = T)
    (hlimit : d.noRecvPollLimit = L) :
    (.startPing ∈ (pollNetStat d s).events ↔ Overdue T L (d :: older)) ∧
      (¬ Overdue T L (d :: older) → Watching T d older (pollNetStat d s).state) := by
  have hmove := pollNetStat_move d s
  generalize pollNetStat d s = r at hmove ⊢
  have hqueued (stats : PollStats) : (s.withStats stats).posted.polls = 1 := by
    simp [PolledTracker.posted, PolledTracker.withStats, henabled, hpolls]
  have hquiet := startPing_readOutputs s d
  cases hmove with
  | calm hover =>
    rw [hsent, htrigger] at hover
    have hstreak : streak T (d :: older) = 0 := if_neg (not_le.mpr hover)
    have hnot : ¬ Overdue T L (d :: older) := fun h => h.1.ne' hstreak
    refine ⟨iff_of_false ?_ hnot, fun _ => ⟨henabled, hqueued _, htx, hrx, hsent, ?_⟩⟩
    · rw [List.mem_append, not_or]
      exact ⟨hquiet, startPing_postOutputs _⟩
    · rw [hstreak]
      rfl
  | asks hover hmore =>
    rw [hsent, htrigger] at hover
    rw [hcount, hlimit] at hmore
    have hstreak : streak T (d :: older) = streak T older + 1 := if_pos hover
    have hnot : ¬ Overdue T L (d :: older) := by
      rintro ⟨-, hlong⟩
      rw [hstreak] at hlong
      push_cast at hlong
      omega
    refine ⟨iff_of_false ?_ hnot, fun _ => ⟨henabled, hqueued _, htx, hrx, hsent, ?_⟩⟩
    · rw [List.mem_append, List.mem_cons, not_or, not_or]
      exact ⟨hquiet, by simp, startPing_postOutputs _⟩
    · rw [hstreak, Nat.cast_add, Nat.cast_one, ← hcount]
      rfl
  | pings hover hlong =>
    rw [hsent, htrigger] at hover
    rw [hcount, hlimit] at hlong
    have hstreak : streak T (d :: older) = streak T older + 1 := if_pos hover
    have hoverdue : Overdue T L (d :: older) := by
      rw [Overdue, hstreak]
      push_cast
      omega
    exact ⟨iff_of_true (by simp) hoverdue, fun hnot => absurd hoverdue hnot⟩

theorem due_watches {d : Device} {prev : Device} {older : List Device} {s : PolledTracker}
    (h : Watching T prev older s) (htrigger : d.watchdogTrigger = T) (hlimit : d.noRecvPollLimit = L) :
    (.startPing ∈ (step s (d, .poll)).2 ↔ Overdue T L (d :: prev :: older)) ∧
      (¬ Overdue T L (d :: prev :: older) → Watching T d (prev :: older) (step s (d, .poll)).1) := by
  let taken : PolledTracker := { s with toTracker := s.woken, polls := s.polls - 1 }
  have hrun : react .poll d s = pollNetStat d taken := by
    have hdue : 0 < s.polls := by
      rw [h.polls]
      exact one_pos
    rw [react, Traced.update_bind, handle, duePoll, Traced.current_bind, if_pos hdue,
      Traced.update_bind]
  have henabled : taken.netStatPollEnabled = true := h.enabled
  have hpolls : taken.polls = 0 := by
    simp only [taken, h.polls]
  have hread : taken.read d = s.stats.read d true :=
    congrArg (fun enabled => s.stats.read d enabled) henabled
  obtain ⟨htx, hrx, hsent, hcount⟩ := h.records.read d
  rw [← hread] at htx hrx hsent hcount
  simp only [step, hrun]
  exact poll_watches henabled hpolls htx hrx hsent hcount htrigger hlimit

/-- The polls that are in the queue one after the other. -/
def polls (ds : List Device) : List (Device × Event) := ds.map (fun d => (d, .poll))

theorem polls_watch {ds : List Device} {d : Device} {older : List Device} {s : PolledTracker}
    (h : Watching T d older s)
    (hset : ∀ d' ∈ ds, d'.watchdogTrigger = T ∧ d'.noRecvPollLimit = L) :
    .startPing ∈ (run step s (polls ds)).2.flatten ↔
      ∃ more, more <+: ds ∧ more ≠ [] ∧ Overdue T L (more.reverse ++ d :: older) := by
  induction ds generalizing d older s with
  | nil =>
    refine iff_of_false (by simp [polls]) ?_
    rintro ⟨more, hprefix, hne, -⟩
    exact hne (List.prefix_nil.mp hprefix)
  | cons d' ds ih =>
    obtain ⟨htrigger, hlimit⟩ := hset d' (.head _)
    obtain ⟨hping, hgoes⟩ := due_watches h htrigger hlimit
    have hrun : (run step s (polls (d' :: ds))).2.flatten =
        (step s (d', .poll)).2 ++ (run step (step s (d', .poll)).1 (polls ds)).2.flatten := rfl
    rw [hrun, List.mem_append, hping]
    by_cases hover : Overdue T L (d' :: d :: older)
    · refine iff_of_true (.inl hover) ⟨[d'], ⟨ds, rfl⟩, by simp, hover⟩
    · rw [ih (hgoes hover) (fun d'' hd => hset d'' (.tail _ hd))]
      constructor
      · rintro (hnow | ⟨more, hprefix, hne, hlater⟩)
        · exact absurd hnow hover
        · refine ⟨d' :: more, (List.prefix_cons_inj d').mpr hprefix, by simp, ?_⟩
          simpa using hlater
      · rintro ⟨more, hprefix, hne, hlater⟩
        obtain ⟨first, more, rfl⟩ := List.exists_cons_of_ne_nil hne
        obtain ⟨rfl, hrest⟩ := List.cons_prefix_cons.mp hprefix
        refine .inr ⟨more, hrest, ?_, by simpa using hlater⟩
        rintro rfl
        exact hover hlater

end Polls

/-- Polls that start and are not disturbed send a ping exactly if at one of them, and at the `L`
ones before it, at least `T` packets had gone out since one came in. -/
theorem ping_started_iff {s : PolledTracker} (hsingle : s.pollPart.Single) (hstart : s.Startable)
    (d : Device) (ds : List Device) (T L : ℤ)
    (hset : ∀ d' ∈ d :: ds, d'.watchdogTrigger = T ∧ d'.noRecvPollLimit = L) :
    .startPing ∈ (startNetStatPoll d s).events ++
        (run step (startNetStatPoll d s).state (polls ds)).2.flatten ↔
      ∃ before, before <+: d :: ds ∧ Overdue T L before.reverse := by
  obtain ⟨htrigger, hlimit⟩ := hset d (.head _)
  have hrunning := polling_running hsingle hstart d
  have hread : (s.polling d).read d = (s.stats.reset d).read d true := rfl
  obtain ⟨htx, hrx, hsent, hcount⟩ := read_reset s.stats d d
  rw [← hread] at htx hrx hsent hcount
  have hzero : ((s.polling d).read d).noRecvPollCount = streak T [] := hcount
  obtain ⟨hping, hgoes⟩ := poll_watches hrunning.enabled hrunning.polls htx hrx hsent hzero htrigger
    hlimit
  have hnone : ¬ Overdue T L [] := fun h => absurd h.1 (lt_irrefl 0)
  rw [startNetStatPoll_eq hstart, List.mem_append, hping]
  by_cases hover : Overdue T L [d]
  · exact iff_of_true (.inl hover) ⟨[d], ⟨ds, rfl⟩, hover⟩
  · rw [polls_watch (hgoes hover) (fun d' hd => hset d' (.tail _ hd))]
    constructor
    · rintro (hnow | ⟨more, hprefix, -, hlater⟩)
      · exact absurd hnow hover
      · refine ⟨d :: more, (List.prefix_cons_inj d).mpr hprefix, ?_⟩
        simpa using hlater
    · rintro ⟨before, hprefix, hlater⟩
      cases before with
      | nil => exact absurd hlater hnone
      | cons first more =>
        obtain ⟨rfl, hrest⟩ := List.cons_prefix_cons.mp hprefix
        refine .inr ⟨more, hrest, ?_, by simpa using hlater⟩
        rintro rfl
        exact hover hlater

/-- Seven packets and then ten, with none coming in. -/
theorem ping_started_tenth :
    let d := Device.impatient
    let stats : PollStats := ⟨0, 0, 0, 0, 0, 0, .none, true⟩
    let s := { PolledTracker.created false stats with state := .connected }
    .startPing ∈ (startNetStatPoll (d 5 1) s).events ++
      (run step (startNetStatPoll (d 5 1) s).state (polls [d 12 1, d 15 1])).2.flatten := by
  intro d stats s
  have hsingle : s.pollPart.Single := ⟨rfl, le_rfl, fun hpinging => by cases hpinging⟩
  have hset : ∀ d' ∈ d 5 1 :: [d 12 1, d 15 1], d'.watchdogTrigger = 10 ∧ d'.noRecvPollLimit = 0 := by
    intro d' hd
    simp only [List.mem_cons, List.not_mem_nil, or_false] at hd
    rcases hd with rfl | rfl | rfl <;> exact ⟨rfl, rfl⟩
  exact (ping_started_iff hsingle ⟨rfl, rfl, rfl⟩ (d 5 1) [d 12 1, d 15 1] 10 0 hset).mpr
    ⟨[d 5 1, d 12 1, d 15 1], List.prefix_rfl, by decide +kernel⟩

end Fw100.Telephony.Polled
