import Fw100.Telephony.TrackerRuns

/-!
# The tracker without its polls

The messages that lead to the setup of a connection are handled by the whole tracker as they are
by the tracker without polls. What is left out there of the poll changes two flags only.
-/
namespace Fw100.Telephony.Polled
open Library
open Traced (emit environment current update fault)

def setupMessage : Telephony.Message → Message
  | .recordsLoaded => .recordsLoaded
  | .gprsAttached => .gprsAttached
  | .trySetupData reason => .trySetupData reason
  | .dataSetupComplete cause reason => .dataSetupComplete cause reason

def unpolled : Effect → Option Effect
  | .startPoll | .stopPoll => none
  | e => some e

def Output.unpolled : Output → Option Effect
  | .base e => Polled.unpolled e
  | _ => none

def withoutPoll (t : Tracker) : Tracker :=
  { t with netStatPollEnabled := false, pingTestActive := false }

abbrev Same (s : PolledTracker) (t : Tracker) : Prop := s.toTracker = t

abbrev Alike (s : PolledTracker) (t : Tracker) : Prop :=
  withoutPoll s.toTracker = withoutPoll t

theorem Same.alike {s : PolledTracker} {t : Tracker} (h : Same s t) : Alike s t :=
  congrArg withoutPoll h

section Handlers
variable {d : Device}

abbrev Refines (d : Device) (R R' : PolledTracker → Tracker → Prop) {α : Type} (m : Handler α)
    (m' : Telephony.Handler α) : Prop :=
  Traced.Agrees d d.toPhone Output.unpolled unpolled R R' m m'

theorem refines_base {α : Type} (m : Telephony.Handler α) : Refines d Same Same (base m) m :=
  Traced.Agrees.within (p := trackerPart) m (fun _ => rfl)

/-- What a poll shows is not about the connection. -/
theorem unpolled_poll (s : PolledTracker) :
    (pollNetStat d s).value = .ok () ∧
      (pollNetStat d s).events.filterMap Output.unpolled = [] ∧
      withoutPoll (pollNetStat d s).state.toTracker = withoutPoll s.toTracker := by
  have hread : (s.readOutputs d).filterMap Output.unpolled = [] := by
    simp only [PolledTracker.readOutputs, PollStats.readOutputs, PollStats.countOutputs]
    split_ifs <;> rfl
  have hpost (s : PolledTracker) : s.postOutputs.filterMap Output.unpolled = [] := by
    rw [PolledTracker.postOutputs]
    split_ifs <;> rfl
  have hmove := pollNetStat_move d s
  generalize pollNetStat d s = r at hmove ⊢
  cases hmove with
  | calm hover => exact ⟨rfl, by rw [List.filterMap_append, hread, hpost]; rfl, rfl⟩
  | asks hover hmore =>
    refine ⟨rfl, ?_, rfl⟩
    rw [List.filterMap_append, hread]
    exact hpost _
  | pings hover hlimit => exact ⟨rfl, by rw [List.filterMap_append, hread]; rfl, rfl⟩

theorem refines_start : Refines d Same Alike startNetStatPoll Telephony.startNetStatPoll := by
  rintro s _ rfl
  rw [Telephony.startNetStatPoll, Traced.current_bind]
  by_cases hstart : s.Startable
  · obtain ⟨hvalue, hevents, hstate⟩ := unpolled_poll (d := d) (s.polling d)
    rw [startNetStatPoll_eq hstart, if_pos hstart]
    exact ⟨hvalue, hevents, hstate⟩
  · rw [startNetStatPoll_still hstart, if_neg hstart]
    exact ⟨rfl, rfl, rfl⟩

theorem refines_cleanUp (reason : Option Reason) :
    Refines d Same Same (cleanUpConnection false reason) (Telephony.cleanUpConnection reason) := by
  rintro s _ rfl
  rw [cleanUpConnection_eq, Telephony.cleanUpConnection_eq]
  refine ⟨rfl, ?_, rfl⟩
  simp only [cleanUpOutputs, Tracker.cleanEffects, Bool.false_eq_true, if_false]
  split_ifs <;> rfl

theorem refines_emit {R : PolledTracker → Tracker → Prop} (e : Effect) :
    Refines d R R (emit (.base e)) (emit e) := .emit rfl

theorem refines_recordsLoaded : Refines d Same Same onRecordsLoaded Telephony.onRecordsLoaded := by
  refine .bind (refines_base _) (fun _ => ?_) (fun _ _ h => h)
  refine .current_bind (fun s t h => .ite (by rw [← h]) ?_ (refines_emit _))
  exact .bind (refines_cleanUp none) (fun _ => refines_emit _) (fun _ _ h => h)

theorem refines_trySetup (reason : Option Reason) :
    Refines d Same Alike (trySetupData reason) (do let _ ← Telephony.trySetupData reason; pure ()) :=
  (Traced.Agrees.bind (refines_base _) (fun _ => .pure) (fun _ _ h => h)).mono
    (fun _ _ h => Same.alike h)

theorem refines_gprsAttached : Refines d Same Alike onGprsAttached Telephony.onGprsAttached := by
  have hsetup := refines_trySetup (d := d) (some .gprsAttached)
  have hsame (s : PolledTracker) (t : Tracker) (h : Same s t) : Alike s t := h.alike
  refine .current_bind (fun s t h => .ite (by rw [← h]) ?_ (.ite (by rw [← h]) ?_ hsetup))
  · exact .bind refines_start (fun _ => refines_emit _) (fun _ _ h => h)
  · exact .bind (refines_cleanUp _) (fun _ => .bind (refines_emit _) (fun _ => hsetup) hsame) hsame

theorem refines_notifyDefaultData (reason : Option Reason) :
    Refines d Same Alike (notifyDefaultData reason) (Telephony.notifyDefaultData reason) := by
  have hsame (s : PolledTracker) (t : Tracker) (h : Same s t) : Alike s t := h.alike
  have hretries : Refines d Alike Alike resetRetries (do
      emit .resetRetryCount
      update (fun t => { t with reregisterOnReconnectFailure := false })) := by
    refine .bind (refines_emit _) (fun _ => .update (fun s t h => ?_)) (fun _ _ h => h)
    exact congrArg (fun t : Tracker => { t with reregisterOnReconnectFailure := false }) h
  exact .bind (refines_base _) (fun _ => .bind (refines_emit _) (fun _ =>
    .bind refines_start (fun _ => hretries) (fun _ _ h => h)) hsame) hsame

/-- The connection for the default type is up exactly if the access point is for that type. -/
theorem refines_dataSetupDone {s : PolledTracker} (hactive : d.defaultTypeActive = isDefaultActive d s)
    (reason : Option Reason) :
    Refines d (fun s' t => s' = s ∧ Same s' t) Alike (onDataSetupComplete none reason)
      (onDataSetupDone reason) := by
  rintro _ t ⟨rfl, rfl⟩
  have hsame (s : PolledTracker) (t : Tracker) (h : Same s t) : Alike s t := h.alike
  have hnotify := refines_notifyDefaultData (d := d) reason
  have hrest (active : Bool) : Refines d Same Alike
      (do
        emit (.base (.setDefaultPdpActive active))
        if active then base preferActiveApn else pure ()
        notifyDefaultData reason)
      (do
        emit (.setDefaultPdpActive active)
        if active then preferActiveApn else pure ()
        Telephony.notifyDefaultData reason) :=
    .bind (refines_emit _) (fun _ => .ite Iff.rfl
      (.bind (refines_base _) (fun _ => hnotify) hsame) hnotify) hsame
  rw [onDataSetupComplete, Traced.environment_bind, Traced.current_bind, onDataSetupDone,
    Traced.environment_bind, hactive]
  exact hrest _ _ _ rfl

/-- **The whole tracker refines the one without polls.** A message of the setup leads to the same
fault or none, the same effects on the connection and the same tracker but for the flags of the
poll. -/
theorem handleMessage_refines (m : Telephony.Message) (d : Device) (s : PolledTracker)
    (hactive : d.defaultTypeActive = isDefaultActive d s) :
    let full := handleMessage (setupMessage m) d s
    let simple := Telephony.handleMessage m d.toPhone s.toTracker
    full.value = simple.value ∧
      full.events.filterMap Output.unpolled = simple.events.filterMap unpolled ∧
      withoutPoll full.state.toTracker = withoutPoll simple.state := by
  have hsame (s : PolledTracker) (t : Tracker) (h : Same s t) : Alike s t := h.alike
  cases m with
  | recordsLoaded => exact refines_recordsLoaded.mono hsame s _ rfl
  | gprsAttached =>
    have hboth : Refines d Same Alike (handleMessage .gprsAttached)
        (Telephony.handleMessage .gprsAttached) :=
      .current_bind (fun s t h => .ite (by rw [← h])
        (.bind refines_recordsLoaded (fun _ => refines_gprsAttached) hsame) refines_gprsAttached)
    exact hboth s _ rfl
  | trySetupData reason => exact refines_trySetup reason s _ rfl
  | dataSetupComplete cause reason =>
    cases cause with
    | none => exact refines_dataSetupDone hactive reason s _ ⟨rfl, rfl⟩
    | some cause =>
      have hfailed : Refines d Same Alike (base (onDataSetupFailed cause reason))
          (onDataSetupFailed cause reason) := (refines_base _).mono hsame
      have hrun : handleMessage (.dataSetupComplete (some cause) reason) d s =
          base (onDataSetupFailed cause reason) d s := by
        rw [handleMessage, onDataSetupComplete, Traced.environment_bind, Traced.current_bind]
      dsimp only [setupMessage]
      rw [hrun]
      exact hfailed s _ rfl

/-- A setup that is done starts the poll, which the two show in different ways. -/
theorem handleMessage_refines_done :
    let d := { Device.impatient 0 0 with defaultTypeActive := true }
    let stats : PollStats := ⟨0, 0, 0, 0, 0, 0, .none, true⟩
    let s := (run step (.created false stats)
      [(d, .message .recordsLoaded), (d, .message (.trySetupData none))]).1
    let full := handleMessage (.dataSetupComplete none none) d s
    let simple := Telephony.handleMessage (.dataSetupComplete none none) d.toPhone s.toTracker
    full.events ≠ simple.events.map .base ∧
      full.events.filterMap Output.unpolled = simple.events.filterMap unpolled ∧
      withoutPoll full.state.toTracker = withoutPoll simple.state := by
  intro d stats s full simple
  have hdiffer : full.events ≠ simple.events.map .base := by decide +kernel
  have hrefines := handleMessage_refines (.dataSetupComplete none none) d s (by decide +kernel)
  exact ⟨hdiffer, hrefines.2⟩

end Handlers

end Fw100.Telephony.Polled
