import Mathlib.Data.Finset.Insert
import Fw100.Session.Gps

/-!
# The master side of the pseudo-terminal

`rilWriteGPSTty` opens a master descriptor when none is recorded and tries again with
every sentence after a failure. The state of a run is the descriptor recorded in the
session context together with the master descriptors that the process holds open.
-/
namespace Fw100.Session
open Library Text

/-- One call of `rilWriteGPSTty` with what the calls inside it return. -/
structure TtyRequest where
  outcome : TtyOutcome
  gpsinfo : Option CString
  options : Bool
deriving DecidableEq, Repr

structure MasterState where
  gpsTtyFD : ℤ
  /-- Descriptors that `getpt` returned and that were not closed. -/
  masters : Finset ℤ

def MasterState.initial : MasterState := ⟨-1, ∅⟩

/-- The effect of one system call on the open descriptors. -/
def TtyCall.update (getpt : ℤ) (masters : Finset ℤ) : TtyCall → Finset ℤ
  | .getpt => if getpt = -1 then masters else insert getpt masters
  | .close fd => masters.erase fd
  | _ => masters

/-- What a call that returned leaves behind. -/
def TtyResult.after (result : TtyResult) (getpt : ℤ) (masters : Finset ℤ) : MasterState :=
  ⟨result.gpsTtyFD, result.calls.foldl (TtyCall.update getpt) masters⟩

/-- The output is `none` if the call crashes. -/
def ttyStep (state : MasterState) (request : TtyRequest) : MasterState × Option TtyResult :=
  let result := rilWriteGPSTty request.outcome state.gpsTtyFD request.gpsinfo request.options
  (result.elim state (fun r => r.after request.outcome.getpt state.masters), result)

def TtyRequest.Creates (request : TtyRequest) (state : MasterState) : Prop :=
  state.gpsTtyFD ≤ 0 ∧ request.options = true

/-- The sentence was passed to `write` and taken as a whole. -/
def TtyRequest.Wrote (request : TtyRequest) (calls : List TtyCall) : Prop :=
  ∃ s, request.gpsinfo = some s ∧ (∃ fd, TtyCall.write fd s ∈ calls) ∧
    request.outcome.numw = s.length

/-- The recorded descriptor is the only one that is open. -/
def MasterState.Recorded (state : MasterState) : Prop :=
  state.masters = if 0 < state.gpsTtyFD then {state.gpsTtyFD} else ∅

/-- The call returns, and with -1 if it did not write the sentence. -/
def Reports (state : MasterState) (request : TtyRequest) : Prop :=
  ∃ result, (ttyStep state request).2 = some result ∧
    (request.Creates state ∨ request.Wrote result.calls ∨ result.rc = -1)

/-- The sentence can be written to `fd`, where a short write is reported as `rc`. -/
def WritesTo (fd rc : ℤ) (request : TtyRequest) : Prop :=
  ∃ s, request.gpsinfo = some s ∧ (request.outcome.numw < 0 ∨
    0 < fd ∧ (request.outcome.numw = s.length ∨ rc = -1))

/-- No step behind `getpt` fails, `getpt` itself only in the create call, the descriptor is
not 0 and no sentence is written in part. -/
def Succeeds (state : MasterState) (request : TtyRequest) : Prop :=
  if 0 < state.gpsTtyFD then WritesTo state.gpsTtyFD 0 request
  else if request.outcome.getpt = -1 then request.options = true
  else request.outcome.grantpt ≠ -1 ∧ request.outcome.unlockpt ≠ -1 ∧
    if request.options then 0 < request.outcome.getpt
    else WritesTo request.outcome.getpt request.outcome.propertySet request

theorem recorded_singleton (fd : ℤ) : MasterState.Recorded ⟨fd, {fd}⟩ ↔ 0 < fd := by
  unfold MasterState.Recorded
  split <;> simp [*]

theorem recorded_empty (fd : ℤ) : MasterState.Recorded ⟨fd, ∅⟩ ↔ fd ≤ 0 := by
  unfold MasterState.Recorded
  split <;> simp_all

def openCalls (outcome : TtyOutcome) : List TtyCall :=
  [.getpt, .grantpt outcome.getpt, .unlockpt outcome.getpt, .ptsname outcome.getpt,
    .chmod outcome.device, .propertySet outcome.device]

section Step
variable {state : MasterState} {request : TtyRequest}

theorem wrote_iff {s : CString} {fd : ℤ} {calls : List TtyCall} (hinfo : request.gpsinfo = some s)
    (hcall : .write fd s ∈ calls) : request.Wrote calls ↔ request.outcome.numw = s.length := by
  simp only [TtyRequest.Wrote, hinfo, Option.some.injEq, exists_eq_left', and_iff_right_iff_imp]
  exact fun _ => ⟨fd, hcall⟩

/-- The part behind the open, from calls that left `fd` as the only open descriptor. -/
theorem writeTtySentence_iff {fd rc : ℤ} {calls : List TtyCall} {masters : Finset ℤ}
    (hmasters : calls.foldl (TtyCall.update request.outcome.getpt) masters = {fd}) :
    (∃ result, writeTtySentence request.outcome fd rc calls request.gpsinfo = some result ∧
      (result.after request.outcome.getpt masters).Recorded ∧
      (request.Wrote result.calls ∨ result.rc = -1)) ↔ WritesTo fd rc request := by
  cases hinfo : request.gpsinfo with
  | none => simp [writeTtySentence, WritesTo, hinfo]
  | some s =>
    by_cases hwrite : request.outcome.numw < 0
    · simp [writeTtySentence, WritesTo, hinfo, hwrite, TtyResult.after, hmasters, TtyCall.update,
        recorded_empty]
    · have hcall : TtyCall.write fd s ∈ calls ++ [.write fd s, .write fd (ascii "\n")] := by simp
      have hwrote := wrote_iff hinfo hcall
      simp [writeTtySentence, WritesTo, hinfo, hwrite, TtyResult.after, hmasters, TtyCall.update,
        recorded_singleton, hwrote]

theorem ttyStep_snd (state : MasterState) (request : TtyRequest) :
    (ttyStep state request).2 =
      rilWriteGPSTty request.outcome state.gpsTtyFD request.gpsinfo request.options := rfl

theorem ttyStep_fst {result : TtyResult} (h : (ttyStep state request).2 = some result) :
    (ttyStep state request).1 = result.after request.outcome.getpt state.masters := by
  rw [ttyStep_snd] at h
  simp [ttyStep, h]

theorem step_iff_of_some {result : TtyResult} (h : (ttyStep state request).2 = some result) :
    (ttyStep state request).1.Recorded ∧ Reports state request ↔
      (result.after request.outcome.getpt state.masters).Recorded ∧
        (request.Creates state ∨ request.Wrote result.calls ∨ result.rc = -1) := by
  simp [Reports, h, ttyStep_fst h]

theorem step_iff_of_open (hrecorded : state.Recorded) (hfd : 0 < state.gpsTtyFD) :
    (ttyStep state request).1.Recorded ∧ Reports state request ↔
      WritesTo state.gpsTtyFD 0 request := by
  have hmasters : List.foldl (TtyCall.update request.outcome.getpt) state.masters [] =
      {state.gpsTtyFD} := by simpa [MasterState.Recorded, hfd] using hrecorded
  have hcreates : ¬ request.Creates state := fun h => absurd h.1 (not_le.mpr hfd)
  rw [← writeTtySentence_iff hmasters]
  have hresult : (ttyStep state request).2 =
      writeTtySentence request.outcome state.gpsTtyFD 0 [] request.gpsinfo := by
    simp [ttyStep_snd, rilWriteGPSTty, hfd]
  cases hsome : (ttyStep state request).2 with
  | none => simp [Reports, hsome, ← hresult]
  | some result => simp [step_iff_of_some hsome, ← hresult, hsome, hcreates]

/-- Without one, and with a new descriptor from `getpt` that can be handed to the slave. -/
theorem step_iff_of_opened (hrecorded : state.Recorded) (hfd : state.gpsTtyFD ≤ 0)
    (hgetpt : request.outcome.getpt ≠ -1) (hgrantpt : request.outcome.grantpt ≠ -1)
    (hunlockpt : request.outcome.unlockpt ≠ -1) :
    (ttyStep state request).1.Recorded ∧ Reports state request ↔
      if request.options then 0 < request.outcome.getpt
      else WritesTo request.outcome.getpt request.outcome.propertySet request := by
  have hempty : state.masters = ∅ := by
    simpa [MasterState.Recorded, not_lt.mpr hfd] using hrecorded
  have hmasters : (openCalls request.outcome).foldl (TtyCall.update request.outcome.getpt)
      state.masters = {request.outcome.getpt} := by
    simp [openCalls, TtyCall.update, hgetpt, hempty]
  have hopen : ¬ 0 < state.gpsTtyFD := not_lt.mpr hfd
  cases hoptions : request.options with
  | true =>
    have hresult : (ttyStep state request).2 = some ⟨request.outcome.propertySet,
        request.outcome.getpt, openCalls request.outcome⟩ := by
      simp [ttyStep_snd, rilWriteGPSTty, openCalls, hopen, hgetpt, hgrantpt, hunlockpt, hoptions]
    rw [step_iff_of_some hresult]
    simp [TtyResult.after, hmasters, recorded_singleton, TtyRequest.Creates, hfd, hoptions]
  | false =>
    have hresult : (ttyStep state request).2 = writeTtySentence request.outcome
        request.outcome.getpt request.outcome.propertySet (openCalls request.outcome)
        request.gpsinfo := by
      simp [ttyStep_snd, rilWriteGPSTty, openCalls, hopen, hgetpt, hgrantpt, hunlockpt, hoptions]
    have hcreates : ¬ request.Creates state := by simp [TtyRequest.Creates, hoptions]
    rw [if_neg (by simp), ← writeTtySentence_iff hmasters]
    cases hsome : (ttyStep state request).2 with
    | none => simp [Reports, hsome, ← hresult]
    | some result => simp [step_iff_of_some hsome, ← hresult, hsome, hcreates]

/-- Without one, and with an open sequence that breaks off. -/
theorem not_recorded_of_broken (hrecorded : state.Recorded) (hfd : state.gpsTtyFD ≤ 0)
    (hgetpt : request.outcome.getpt ≠ -1)
    (hbroken : request.outcome.grantpt = -1 ∨ request.outcome.unlockpt = -1) :
    ¬ (ttyStep state request).1.Recorded := by
  have hempty : state.masters = ∅ := by
    simpa [MasterState.Recorded, not_lt.mpr hfd] using hrecorded
  have hopen : ¬ 0 < state.gpsTtyFD := not_lt.mpr hfd
  have hafter : (ttyStep state request).1 = ⟨state.gpsTtyFD, {request.outcome.getpt}⟩ := by
    by_cases hgrantpt : request.outcome.grantpt = -1
    · simp [ttyStep, rilWriteGPSTty, hopen, hgetpt, hgrantpt, TtyResult.after, TtyCall.update, hempty]
    · have hunlockpt := hbroken.resolve_left hgrantpt
      simp [ttyStep, rilWriteGPSTty, hopen, hgetpt, hgrantpt, hunlockpt, TtyResult.after,
        TtyCall.update, hempty]
  simp [hafter, MasterState.Recorded, hopen]

/-- Without one, and with `getpt` failing. -/
theorem step_iff_of_no_master (hrecorded : state.Recorded) (hfd : state.gpsTtyFD ≤ 0)
    (hgetpt : request.outcome.getpt = -1) :
    (ttyStep state request).1.Recorded ∧ Reports state request ↔ request.options = true := by
  have hopen : ¬ 0 < state.gpsTtyFD := not_lt.mpr hfd
  have hresult : (ttyStep state request).2 = some ⟨0, state.gpsTtyFD, [.getpt]⟩ := by
    simp [ttyStep_snd, rilWriteGPSTty, hopen, hgetpt]
  have hafter : TtyResult.after ⟨0, state.gpsTtyFD, [.getpt]⟩ request.outcome.getpt state.masters =
      state := by
    simp [TtyResult.after, TtyCall.update, hgetpt]
  rw [step_iff_of_some hresult, hafter]
  simp [hrecorded, TtyRequest.Creates, TtyRequest.Wrote, hfd]

/-- A call keeps the account of the descriptors and reports rightly exactly if it succeeds. -/
theorem step_iff (hrecorded : state.Recorded) :
    (ttyStep state request).1.Recorded ∧ Reports state request ↔ Succeeds state request := by
  unfold Succeeds
  by_cases hopen : 0 < state.gpsTtyFD
  · rw [if_pos hopen]
    exact step_iff_of_open hrecorded hopen
  · have hfd : state.gpsTtyFD ≤ 0 := not_lt.mp hopen
    rw [if_neg hopen]
    by_cases hgetpt : request.outcome.getpt = -1
    · rw [if_pos hgetpt]
      exact step_iff_of_no_master hrecorded hfd hgetpt
    · rw [if_neg hgetpt]
      by_cases hbroken : request.outcome.grantpt = -1 ∨ request.outcome.unlockpt = -1
      · have hlost := not_recorded_of_broken hrecorded hfd hgetpt hbroken
        rcases hbroken with hgrantpt | hunlockpt
        · simp [hlost, hgrantpt]
        · simp [hlost, hunlockpt]
      · obtain ⟨hgrantpt, hunlockpt⟩ := not_or.mp hbroken
        rw [step_iff_of_opened hrecorded hfd hgetpt hgrantpt hunlockpt]
        simp [hgrantpt, hunlockpt]

end Step

/-- At every point between the calls the recorded master descriptor is the only open one,
and every call reports rightly. -/
def NoMasterLost (requests : List TtyRequest) : Prop :=
  (∀ before, before <+: requests → (run ttyStep .initial before).1.Recorded) ∧
    Along ttyStep Reports .initial requests

theorem no_pseudo_terminal_lost_iff (requests : List TtyRequest) :
    NoMasterLost requests ↔ Along ttyStep Succeeds .initial requests := by
  have hinitial : MasterState.initial.Recorded := rfl
  have hsteps : Along ttyStep
      (fun state request => (ttyStep state request).1.Recorded ∧ Reports state request)
      .initial requests ↔ Along ttyStep Succeeds .initial requests :=
    along_iff_of_invariant MasterState.Recorded (fun _ _ hrecorded => step_iff hrecorded)
      (fun _ _ _ h => h.1) hinitial
  rw [NoMasterLost, forall_prefix_iff, ← hsteps, along_and, and_iff_right hinitial]

/-- Every sentence for which `grantpt` fails leaves one more descriptor open. -/
theorem no_pseudo_terminal_lost_ungranted :
    let failing : ℤ → TtyRequest := fun fd =>
      ⟨⟨fd, -1, 0, [], 0, 0, 0⟩, some testSentence.text, false⟩
    let requests := [failing 7, failing 8]
    let state := (run ttyStep .initial requests).1
    (state.gpsTtyFD = -1 ∧ state.masters = {7, 8}) ∧ ¬ NoMasterLost requests := by
  intro failing requests state
  have hmasters : state.masters = {7, 8} := by decide
  refine ⟨⟨rfl, hmasters⟩, ?_⟩
  intro h
  have hrecorded : state.masters = ∅ := h.1 requests List.prefix_rfl
  rw [hmasters] at hrecorded
  exact absurd hrecorded (by decide)

end Fw100.Session
