import Fw100.Telephony.Polled
import Fw100.Telephony.SetupMoves

/-!
# What a poll does

One poll reads the packet counters and then does one of three things. What the handlers do to the
poll beyond that is to stop it and to start it; the rest of what they do leaves it alone.
-/
namespace Fw100.Telephony.Polled
open Library
open Traced (emit environment current update fault)

/-! ### One poll -/

/-- The outputs of a comparison of the counters. -/
def PollStats.countOutputs (stats : PollStats) (newActivity : Activity) : List Output :=
  (if newActivity = .dataIn ∨ newActivity = .dataInAndOut then [.clearPdpReset] else []) ++
    if stats.activity ≠ newActivity ∧ stats.isScreenOn = true then [.notifyDataActivity newActivity]
    else []

/-- The activity is kept while the screen is off. -/
def PollStats.shows (stats : PollStats) (newActivity : Activity) : PollStats :=
  { stats with
    activity := if stats.activity ≠ newActivity ∧ stats.isScreenOn = true then newActivity
      else stats.activity }

def PollStats.sampled (stats : PollStats) (d : Device) : PollStats :=
  { stats with txPkts := d.mobileTxPackets, rxPkts := d.mobileRxPackets }

def PollStats.compared (stats : PollStats) (d : Device) : PollStats × Activity :=
  (stats.sampled d).counted d.phoneIdle (d.mobileTxPackets - stats.txPkts)
    (d.mobileRxPackets - stats.rxPkts)

def PollStats.read (stats : PollStats) (d : Device) (enabled : Bool) : PollStats :=
  if enabled = true ∧ (0 < stats.txPkts ∨ 0 < stats.rxPkts) then
    (stats.compared d).1.shows (stats.compared d).2
  else stats.sampled d

def PollStats.readOutputs (stats : PollStats) (d : Device) (enabled : Bool) : List Output :=
  if enabled = true ∧ (0 < stats.txPkts ∨ 0 < stats.rxPkts) then
    (stats.compared d).1.countOutputs (stats.compared d).2
  else []

theorem countPackets_eq (sent received : ℤ) (d : Device) (s : PolledTracker) :
    let c := s.stats.counted d.phoneIdle sent received
    countPackets sent received d s =
      ⟨.ok (), { s with stats := c.1.shows c.2 }, c.1.countOutputs c.2⟩ := by
  intro c
  have hc : s.stats.counted d.phoneIdle sent received = c := rfl
  rw [countPackets, Traced.environment_bind, Traced.current_bind, hc]
  simp only [PollStats.shows, PollStats.countOutputs, updateStats]
  split_ifs <;> simp [bind, update, emit, pure]

theorem readPackets_eq (d : Device) (s : PolledTracker) :
    readPackets d s =
      ⟨.ok (), { s with stats := s.stats.read d s.netStatPollEnabled },
        s.stats.readOutputs d s.netStatPollEnabled⟩ := by
  rw [readPackets, Traced.environment_bind, Traced.current_bind, updateStats, Traced.update_bind]
  simp only [PollStats.read, PollStats.readOutputs]
  split_ifs
  · exact countPackets_eq _ _ d _
  · rfl

def PollStats.calm (stats : PollStats) (d : Device) : PollStats :=
  { stats with noRecvPollCount := 0,
               netStatPollPeriod := if stats.isScreenOn then d.pollInterval else d.longPollInterval }

def PollStats.asked (stats : PollStats) (d : Device) : PollStats :=
  { stats with noRecvPollCount := stats.noRecvPollCount + 1,
               netStatPollPeriod := d.errorPollInterval }

def PolledTracker.posted (s : PolledTracker) : PolledTracker :=
  { s with polls := s.polls + if s.netStatPollEnabled then 1 else 0 }

def PolledTracker.postOutputs (s : PolledTracker) : List Output :=
  if s.netStatPollEnabled then [.postPoll s.stats.netStatPollPeriod] else []

theorem postPoll_eq (d : Device) (s : PolledTracker) :
    postPoll d s = ⟨.ok (), s.posted, s.postOutputs⟩ := by
  rw [postPoll, Traced.current_bind]
  simp only [PolledTracker.posted, PolledTracker.postOutputs]
  split_ifs <;> rfl

def PolledTracker.stopped (s : PolledTracker) : PolledTracker :=
  { s with netStatPollEnabled := false, polls := 0 }

theorem stopNetStatPoll_eq (d : Device) (s : PolledTracker) :
    stopNetStatPoll d s = ⟨.ok (), s.stopped, [.base .stopPoll]⟩ := rfl

def PolledTracker.pinged (s : PolledTracker) : PolledTracker :=
  { s.stopped with pingTestActive := true, pings := s.pings + 1 }

def PolledTracker.withStats (s : PolledTracker) (stats : PollStats) : PolledTracker :=
  { s with stats := stats }

def PolledTracker.read (s : PolledTracker) (d : Device) : PollStats :=
  s.stats.read d s.netStatPollEnabled

def PolledTracker.readOutputs (s : PolledTracker) (d : Device) : List Output :=
  s.stats.readOutputs d s.netStatPollEnabled

inductive PollMove (d : Device) (s : PolledTracker) :
    Result Output Fault PolledTracker Unit → Prop where
  | calm (hover : (s.read d).sentSinceLastRecv < d.watchdogTrigger) :
      PollMove d s ⟨.ok (), (s.withStats ((s.read d).calm d)).posted,
        s.readOutputs d ++ (s.withStats ((s.read d).calm d)).postOutputs⟩
  | asks (hover : d.watchdogTrigger ≤ (s.read d).sentSinceLastRecv)
      (hmore : (s.read d).noRecvPollCount < d.noRecvPollLimit) :
      PollMove d s ⟨.ok (), (s.withStats ((s.read d).asked d)).posted,
        s.readOutputs d ++ .getDataCallList :: (s.withStats ((s.read d).asked d)).postOutputs⟩
  | pings (hover : d.watchdogTrigger ≤ (s.read d).sentSinceLastRecv)
      (hlimit : d.noRecvPollLimit ≤ (s.read d).noRecvPollCount) :
      PollMove d s ⟨.ok (), (s.withStats (s.read d)).pinged,
        s.readOutputs d ++ [.base .stopPoll, .startPing]⟩

theorem pollNetStat_move (d : Device) (s : PolledTracker) : PollMove d s (pollNetStat d s) := by
  let read : PolledTracker := s.withStats (s.read d)
  have hread : readPackets d s = ⟨.ok (), read, s.readOutputs d⟩ := readPackets_eq d s
  have hgo {s' : PolledTracker} {es : List Output}
      (hwatch : watchPackets d read = ⟨.ok (), s', es⟩) :
      pollNetStat d s = ⟨.ok (), s'.posted, s.readOutputs d ++ (es ++ s'.postOutputs)⟩ := by
    rw [pollNetStat, Traced.bind_eq hread, Traced.bind_eq hwatch, postPoll_eq]
  by_cases hover : d.watchdogTrigger ≤ read.stats.sentSinceLastRecv
  · by_cases hmore : read.stats.noRecvPollCount < d.noRecvPollLimit
    · have hwatch : watchPackets d read =
          ⟨.ok (), read.withStats (read.stats.asked d), [.getDataCallList]⟩ := by
        rw [watchPackets, Traced.environment_bind, Traced.current_bind, if_pos hover, if_pos hmore]
        rfl
      rw [hgo hwatch]
      exact .asks hover hmore
    · have hwatch : watchPackets d read =
          ⟨.ok (), read.pinged, [.base .stopPoll, .startPing]⟩ := by
        rw [watchPackets, Traced.environment_bind, Traced.current_bind, if_pos hover, if_neg hmore,
          Traced.bind_eq (stopNetStatPoll_eq d read)]
        rfl
      rw [hgo hwatch]
      exact .pings hover (not_lt.mp hmore)
  · have hwatch : watchPackets d read = ⟨.ok (), read.withStats (read.stats.calm d), []⟩ := by
      rw [watchPackets, Traced.environment_bind, Traced.current_bind, if_neg hover]
      rfl
    rw [hgo hwatch]
    exact .calm (not_le.mp hover)

/-! ### Starting it -/

def PollStats.reset (stats : PollStats) (d : Device) : PollStats :=
  { stats with txPkts := -1, rxPkts := -1, sentSinceLastRecv := 0,
               netStatPollPeriod := d.pollNetstatMillis, noRecvPollCount := 0 }

def PolledTracker.polling (s : PolledTracker) (d : Device) : PolledTracker :=
  { s with stats := s.stats.reset d, netStatPollEnabled := true }

abbrev PolledTracker.Startable (s : PolledTracker) : Prop :=
  s.state = .connected ∧ s.pingTestActive = false ∧ s.netStatPollEnabled = false

theorem startNetStatPoll_eq {s : PolledTracker} (h : s.Startable) (d : Device) :
    startNetStatPoll d s = pollNetStat d (s.polling d) := by
  rw [startNetStatPoll, Traced.current_bind, if_pos h, resetPollStats]
  rfl

theorem startNetStatPoll_still {s : PolledTracker} (h : ¬ s.Startable) (d : Device) :
    startNetStatPoll d s = ⟨.ok (), s, []⟩ := by
  rw [startNetStatPoll, Traced.current_bind, if_neg h]
  rfl

/-! ### Leaving it alone -/

/-- The part of the tracker that the poll has to do with. -/
structure PollPart where
  enabled : Bool
  pinging : Bool
  stats : PollStats
  polls : ℕ
  pings : ℕ
  answered : ℕ
  startPolls : ℕ
  startRecoveries : ℕ
deriving DecidableEq

def PolledTracker.pollPart (s : PolledTracker) : PollPart :=
  ⟨s.netStatPollEnabled, s.pingTestActive, s.stats, s.polls, s.pings, s.answered, s.startPolls,
    s.startRecoveries⟩

def Output.isPlain : Output → Bool
  | .pdpRadioReset | .pdpReregisterNetwork | .clearPdpReset => false
  | _ => true

def Output.isConnect : Output → Bool
  | .base (.connect _ _) => true
  | _ => false

/-- A program that has nothing to do with the poll. -/
structure Plain (d : Device) {α : Type} (m : Handler α) : Prop where
  emits : Traced.Emits d (fun o => o.isPlain = true) m
  keeps : ∀ c, Traced.Preserves d (fun s => s.pollPart = c) m

namespace Plain
variable {d : Device} {α β : Type}

theorem pure {a : α} : Plain d (Pure.pure a) := ⟨.pure, fun _ => .pure⟩

theorem bind {m : Handler α} {g : α → Handler β} (hm : Plain d m) (hg : ∀ a, Plain d (g a)) :
    Plain d (m >>= g) :=
  ⟨.bind hm.emits (fun a => (hg a).emits), fun c => .bind (hm.keeps c) (fun a => (hg a).keeps c)⟩

theorem emit {o : Output} (h : o.isPlain = true) : Plain d (Traced.emit o) :=
  ⟨.emit h, fun _ => .emit⟩

theorem current : Plain d (Traced.current : Handler PolledTracker) := ⟨.current, fun _ => .current⟩

theorem update {u : PolledTracker → PolledTracker} (h : ∀ s, (u s).pollPart = s.pollPart) :
    Plain d (Traced.update u : Handler Unit) :=
  ⟨.update, fun _ => .update (fun s hs => (h s).trans hs)⟩

theorem ite {p : Prop} [Decidable p] {m m' : Handler α} (h : Plain d m) (h' : Plain d m') :
    Plain d (if p then m else m') := by
  split
  · exact h
  · exact h'

theorem base {m : Telephony.Handler α}
    (h : ∀ t, (m d.toPhone t).state.netStatPollEnabled = t.netStatPollEnabled ∧
      (m d.toPhone t).state.pingTestActive = t.pingTestActive) : Plain d (Polled.base m) := by
  constructor
  · have hall : Traced.Emits d.toPhone (fun _ => True) m := fun _ _ _ => trivial
    exact hall.within (fun _ _ => rfl)
  · rintro c s rfl
    obtain ⟨henabled, hpinging⟩ := h s.toTracker
    simp only [PolledTracker.pollPart, PollPart.mk.injEq]
    exact ⟨henabled, hpinging, rfl, rfl, rfl, rfl, rfl, rfl⟩

end Plain

section PlainHandlers
variable {d : Device}

theorem plain_setState (s : State) : Plain d (base (setState s)) := .base (fun _ => ⟨rfl, rfl⟩)

theorem plain_gotoIdle (reason : Option Reason) :
    Plain d (base (gotoIdleAndNotifyDataConnection reason)) := .base (fun _ => ⟨rfl, rfl⟩)

theorem plain_createAllApnList : Plain d (base createAllApnList) := by
  apply Plain.base
  intro t
  rw [createAllApnList_eq]
  exact ⟨rfl, rfl⟩

theorem plain_trySetupData (reason : Option Reason) : Plain d (trySetupData reason) := by
  have hbase : Plain d (base (Telephony.trySetupData reason)) := by
    apply Plain.base
    intro t
    have hmove := trySetupData_move d.toPhone t reason
    generalize Telephony.trySetupData reason d.toPhone t = r at hmove ⊢
    cases hmove <;> exact ⟨rfl, rfl⟩
  exact .bind hbase (fun _ => .pure)

theorem plain_onDataSetupFailed (cause : FailCause) (reason : Option Reason) :
    Plain d (base (onDataSetupFailed cause reason)) := by
  apply Plain.base
  intro t
  have hmove := onDataSetupFailed_move d.toPhone t cause reason
  generalize onDataSetupFailed cause reason d.toPhone t = r at hmove ⊢
  cases hmove <;> exact ⟨rfl, rfl⟩

theorem plain_preferActiveApn : Plain d (base preferActiveApn) := by
  apply Plain.base
  intro t
  obtain ⟨value, preferred, es, -, -, -, hrun⟩ := preferActiveApn_eq d.toPhone t
  rw [hrun]
  exact ⟨rfl, rfl⟩

theorem plain_clearReconnectAlarm : Plain d clearReconnectAlarm :=
  .bind .current (fun _ => .ite (.bind (.emit rfl) (fun _ => .update (fun _ => rfl))) .pure)

theorem plain_release (tearDown : Bool) (reason : Option Reason) : Plain d (release tearDown reason) :=
  .ite (.emit rfl) (.bind (.emit rfl) (fun _ => .update (fun _ => rfl)))

theorem plain_cleanUpConnection_rest (tearDown : Bool) (reason : Option Reason) :
    Plain d (if tearDown then pure () else base (gotoIdleAndNotifyDataConnection reason)) :=
  .ite .pure (plain_gotoIdle reason)

end PlainHandlers

end Fw100.Telephony.Polled
