import Fw100.Library.Machine
import Fw100.Request.Dispatch

/-!
# What is reported about the data call over a whole session

Runs of the three requests about packet data. The report should follow the last setup or
deactivation; a setup that fails leaves the record of an earlier call in place.
-/
namespace Fw100.Request
open Library Text Channel Session

inductive DataRequest where
  | setup
  | deactivate
  | list
deriving DecidableEq, Repr

def DataRequest.request : DataRequest → RilRequest
  | .setup => .setupDataCall
  | .deactivate => .deactivateDataCall
  | .list => .dataCallList

/-- One request with what it meets outside the driver. -/
structure DataStep where
  request : DataRequest
  token : Token
  env : Environment

/-- The session context afterwards, and what the request did. -/
def dataStep (ctx : SessionCtx) (step : DataStep) : SessionCtx × DataRequest × List Event :=
  let result := serve step.env ctx step.request.request step.token
  (result.state.ctx, step.request, result.events)

def Event.setupAddress : Event → Option CString
  | .complete _ .success (.strings [_, _, some address, _, _]) => some address
  | _ => none

def Event.dataCall : Event → Option DataCallResponse
  | .complete _ .success (.dataCall response) => some response
  | _ => none

/-- The address of the call that is up: the last setup or deactivation was a setup that was
completed with success. -/
def callAddress (history : List (DataRequest × List Event)) : Option CString :=
  match (history.filter (fun entry => entry.1 ≠ .list)).getLast? with
  | some (.setup, events) => events.findSome? Event.setupAddress
  | _ => none

/-- The report that the history asks for. -/
def Truthful (history : List (DataRequest × List Event)) (response : DataCallResponse) : Prop :=
  match callAddress history with
  | some address => response.active = 2 ∧ response.address = some address
  | none => response.active = 0

/-- After these steps a request for the list reports what the history asks for. -/
def ReportsTruly (ctx : SessionCtx) (steps : List DataStep) : Prop :=
  ∀ env t, ∀ event ∈ (serve env (run dataStep ctx steps).1 .dataCallList t).events,
    ∀ response, event.dataCall = some response → Truthful (run dataStep ctx steps).2 response

def SetupFails (env : Environment) : Prop :=
  env.systemResult < 0 ∨ pollPppLinkstate env 30 = none

/-- A setup that fails is made while no call is recorded. -/
def NoCallLost (ctx : SessionCtx) (step : DataStep) : Prop :=
  step.request = .setup → SetupFails step.env → ctx.inDataCall = false

section Serve
variable {env : Environment} {ctx : SessionCtx} (t : Token)

theorem ends_serve_off (env : Environment) (hoff : ctx.sState = .off) {request : RilRequest}
    (hserved : request.servedWhenOff = false) :
    Traced.Ends env ⟨ctx, 0⟩ (onRequest request t) (fun _ s' es =>
      s'.ctx = ctx ∧ es = [.complete t .radioNotAvailable .null]) :=
  (Traced.ends_of_eq (onRequest_gated hoff hserved t)).mpr ⟨rfl, rfl⟩

theorem ends_onRequest (hon : ctx.sState ≠ .off) {request : RilRequest}
    {Q : Unit → RequestState → List Event → Prop} :
    Traced.Ends env ⟨ctx, 0⟩ (onRequest request t) Q ↔
      Traced.Ends env ⟨ctx, 0⟩ (handle t request) Q := by
  rw [Traced.Ends, onRequest_open hon, Traced.Ends]

theorem overrun_setupAddress (p : Prop) [Decidable p] (buffer : FixedBuffer) :
    (if p then [] else [Event.overrun buffer]).findSome? Event.setupAddress = none := by
  split <;> rfl

/-- A setup that fails changes nothing and returns no address. -/
theorem ends_setup_fails (hon : ctx.sState ≠ .off) (h : SetupFails env) :
    Traced.Ends env ⟨ctx, 0⟩ (onRequest .setupDataCall t) (fun _ s' es =>
      s'.ctx = ctx ∧ es.findSome? Event.setupAddress = none) := by
  rw [ends_onRequest t hon, handle, requestSetupDataCallEVDO]
  simp only [Traced.ends_bind, Traced.ends_environment, ends_getCtx, ends_storeString,
    Traced.ends_emit]
  by_cases hsys : env.systemResult < 0
  · simp [hsys, overrun_setupAddress, Event.setupAddress]
  · have hpoll : pollPppLinkstate env 30 = none := by simpa [SetupFails, hsys] using h
    simp [hsys, hpoll, overrun_setupAddress, Event.setupAddress]

/-- A setup that does not fail records the call with the address that it returns. -/
theorem ends_setup_succeeds (hon : ctx.sState ≠ .off) (h : ¬ SetupFails env) :
    Traced.Ends env ⟨ctx, 0⟩ (onRequest .setupDataCall t) (fun _ s' es =>
      s'.ctx.sState = ctx.sState ∧ s'.ctx.inDataCall = true ∧
        es.findSome? Event.setupAddress = some s'.ctx.dataCallLocalIP.text) := by
  obtain ⟨hsys, hsome⟩ : 0 ≤ env.systemResult ∧ pollPppLinkstate env 30 ≠ none := by
    simpa [SetupFails] using h
  rcases Option.ne_none_iff_exists'.mp hsome with ⟨⟨addr, gway⟩, hpoll⟩
  rw [ends_onRequest t hon, handle, requestSetupDataCallEVDO]
  simp only [Traced.ends_bind, Traced.ends_environment, ends_getCtx, ends_storeString,
    Traced.ends_emit]
  simp [Int.not_lt.mpr hsys, hpoll, overrun_setupAddress, Event.setupAddress, List.findSome?_cons]

theorem ends_deactivate (env : Environment) (hon : ctx.sState ≠ .off) :
    Traced.Ends env ⟨ctx, 0⟩ (onRequest .deactivateDataCall t) (fun _ s' _ =>
      s'.ctx.sState = ctx.sState ∧ s'.ctx.inDataCall = false) := by
  rw [ends_onRequest t hon, handle, requestDeactivateDataCallEVDO, killPppd]
  simp only [Traced.ends_bind, ends_atSendCommandNull, Traced.ends_environment]
  split <;> simp

theorem ends_list (env : Environment) (hon : ctx.sState ≠ .off) :
    Traced.Ends env ⟨ctx, 0⟩ (onRequest .dataCallList t) (fun _ s' es =>
      s'.ctx = ctx ∧ es.filterMap Event.dataCall = [dataCallResponse ctx]) := by
  rw [ends_onRequest t hon, handle, requestDataCallList]
  simp [Event.dataCall]

end Serve

section Runs
variable {ctx : SessionCtx}

/-- What the context records is what the history says about the call. -/
def Recorded (ctx : SessionCtx) (history : List (DataRequest × List Event)) : Prop :=
  match callAddress history with
  | some address => ctx.inDataCall = true ∧ ctx.dataCallLocalIP.text = address
  | none => ctx.inDataCall = false

theorem callAddress_concat (history : List (DataRequest × List Event)) (request : DataRequest)
    (events : List Event) :
    callAddress (history ++ [(request, events)]) =
      match request with
      | .setup => events.findSome? Event.setupAddress
      | .deactivate => none
      | .list => callAddress history := by
  cases request <;> simp [callAddress]

theorem dataStep_off (hoff : ctx.sState = .off) (step : DataStep) : (dataStep ctx step).1 = ctx := by
  have hserved : step.request.request.servedWhenOff = false := by cases step.request <;> rfl
  rcases ends_serve_off step.token step.env hoff hserved with ⟨_, -, hctx, -⟩
  exact hctx

/-- With the radio off the steps change nothing. -/
theorem run_off (hoff : ctx.sState = .off) (steps : List DataStep) :
    (run dataStep ctx steps).1 = ctx := by
  induction steps with
  | nil => rfl
  | cons step steps ih =>
    rw [run_cons, dataStep_off hoff]
    exact ih

theorem along_off (hoff : ctx.sState = .off) (hidle : ctx.inDataCall = false)
    (steps : List DataStep) : Along dataStep NoCallLost ctx steps := by
  induction steps with
  | nil => trivial
  | cons step steps ih =>
    refine ⟨fun _ _ => hidle, ?_⟩
    rw [dataStep_off hoff]
    exact ih

/-- Everything that one step with the radio on can do. -/
theorem dataStep_cases (hon : ctx.sState ≠ .off) (step : DataStep) :
    let ctx' := (dataStep ctx step).1
    let entry := (dataStep ctx step).2
    entry.1 = step.request ∧ ctx'.sState = ctx.sState ∧
      match step.request with
      | .setup =>
        (SetupFails step.env ∧ ctx' = ctx ∧ entry.2.findSome? Event.setupAddress = none) ∨
          (¬ SetupFails step.env ∧ ctx'.inDataCall = true ∧
            entry.2.findSome? Event.setupAddress = some ctx'.dataCallLocalIP.text)
      | .deactivate => ctx'.inDataCall = false
      | .list => ctx' = ctx := by
  rcases step with ⟨request, t, env⟩
  cases request with
  | setup =>
    by_cases hfails : SetupFails env
    · rcases ends_setup_fails t hon hfails with ⟨_, -, hctx, haddress⟩
      exact ⟨rfl, congrArg SessionCtx.sState hctx, .inl ⟨hfails, hctx, haddress⟩⟩
    · rcases ends_setup_succeeds t hon hfails with ⟨_, -, hstate, hup, haddress⟩
      exact ⟨rfl, hstate, .inr ⟨hfails, hup, haddress⟩⟩
  | deactivate =>
    rcases ends_deactivate t env hon with ⟨_, -, hstate, hdown⟩
    exact ⟨rfl, hstate, hdown⟩
  | list =>
    rcases ends_list t env hon with ⟨_, -, hctx, -⟩
    exact ⟨rfl, congrArg SessionCtx.sState hctx, hctx⟩

theorem run_sState (hon : ctx.sState ≠ .off) (steps : List DataStep) :
    (run dataStep ctx steps).1.sState = ctx.sState := by
  induction steps generalizing ctx with
  | nil => rfl
  | cons step steps ih =>
    have hstep := (dataStep_cases hon step).2.1
    rw [run_cons]
    exact (ih (by rwa [hstep])).trans hstep

theorem Recorded.step {history : List (DataRequest × List Event)} (h : Recorded ctx history)
    (hon : ctx.sState ≠ .off) {step : DataStep} (hkept : NoCallLost ctx step) :
    Recorded (dataStep ctx step).1 (history ++ [(dataStep ctx step).2]) := by
  have hcases := dataStep_cases hon step
  revert hcases
  rcases dataStep ctx step with ⟨ctx', request, events⟩
  rintro ⟨hrequest, -, hcases⟩
  dsimp only at hrequest hcases ⊢
  subst hrequest
  unfold Recorded at h ⊢
  rw [callAddress_concat]
  cases hrequest : step.request with
  | setup =>
    rw [hrequest] at hcases
    rcases hcases with ⟨hfails, rfl, haddress⟩ | ⟨-, hup, haddress⟩
    · rw [haddress]
      exact hkept hrequest hfails
    · rw [haddress]
      exact ⟨hup, rfl⟩
  | deactivate =>
    rw [hrequest] at hcases
    exact hcases
  | list =>
    rw [hrequest] at hcases
    subst hcases
    exact h

theorem recorded_run (hidle : ctx.inDataCall = false) (hon : ctx.sState ≠ .off)
    (steps : List DataStep) (hkept : Along dataStep NoCallLost ctx steps) :
    Recorded (run dataStep ctx steps).1 (run dataStep ctx steps).2 := by
  induction steps using List.reverseRecOn with
  | nil => exact hidle
  | append_singleton steps step ih =>
    rw [along_append] at hkept
    have hstep := (ih hkept.1).step (by rwa [run_sState hon]) hkept.2.1
    rw [run_append]
    exact hstep

theorem Recorded.truthful {history : List (DataRequest × List Event)} (h : Recorded ctx history) :
    Truthful history (dataCallResponse ctx) := by
  unfold Recorded at h
  unfold Truthful
  cases hcall : callAddress history with
  | none =>
    rw [hcall] at h
    simp [dataCallResponse, h]
  | some address =>
    rw [hcall] at h
    simp [dataCallResponse, h.1, h.2]

/-- With the radio on the report is the one of the record. -/
theorem reportsTruly_iff (hon : ctx.sState ≠ .off) (steps : List DataStep) :
    ReportsTruly ctx steps ↔
      Truthful (run dataStep ctx steps).2 (dataCallResponse (run dataStep ctx steps).1) := by
  have hlist (env : Environment) (t : Token) :
      (serve env (run dataStep ctx steps).1 .dataCallList t).events.filterMap Event.dataCall =
        [dataCallResponse (run dataStep ctx steps).1] := by
    have hon' : (run dataStep ctx steps).1.sState ≠ .off := by rwa [run_sState hon]
    rcases ends_list t env hon' with ⟨_, -, -, hevents⟩
    exact hevents
  constructor
  · intro h
    have hmem := hlist .terse 0 ▸ List.mem_singleton_self (dataCallResponse (run dataStep ctx steps).1)
    rcases List.mem_filterMap.mp hmem with ⟨event, hevent, hresponse⟩
    exact h .terse 0 event hevent _ hresponse
  · intro h env t event hevent response hresponse
    have hmem := List.mem_filterMap.mpr ⟨event, hevent, hresponse⟩
    rw [hlist, List.mem_singleton] at hmem
    rwa [hmem]

/-- After a setup that fails the report is right only if no call was recorded before. -/
theorem lost_call_reported (hon : ctx.sState ≠ .off) {steps : List DataStep} {step : DataStep}
    (hsetup : step.request = .setup) (hfails : SetupFails step.env) :
    ReportsTruly ctx (steps ++ [step]) ↔ (run dataStep ctx steps).1.inDataCall = false := by
  have hcases := dataStep_cases (show (run dataStep ctx steps).1.sState ≠ .off by
    rwa [run_sState hon]) step
  rw [reportsTruly_iff hon, run_append, run_cons, run_nil]
  revert hcases
  generalize (run dataStep ctx steps).1 = now
  rcases dataStep now step with ⟨ctx', request, events⟩
  rintro ⟨hrequest, -, hcases⟩
  dsimp only at hrequest hcases ⊢
  rw [hrequest, hsetup]
  rw [hsetup] at hcases
  rcases hcases with ⟨-, rfl, haddress⟩ | ⟨hnot, -⟩
  · rw [Truthful, callAddress_concat]
    dsimp only
    rw [haddress]
    cases hcall : ctx'.inDataCall <;> simp [dataCallResponse, hcall]
  · exact absurd hfails hnot

/-- **The data call over a session.** In every state that the requests of a run reach, the list
reports what the last setup or deactivation left, if and only if every setup of the run that fails
is made while no call is recorded. -/
theorem data_call_reported_iff (ctx : SessionCtx) (hidle : ctx.inDataCall = false)
    (steps : List DataStep) :
    (∀ earlier, earlier <+: steps → ReportsTruly ctx earlier) ↔
      Along dataStep NoCallLost ctx steps := by
  by_cases hoff : ctx.sState = .off
  · refine iff_of_true ?_ ?_
    · intro earlier _ env t event hevent response hresponse
      rcases ends_serve_off t env hoff (show RilRequest.dataCallList.servedWhenOff = false from rfl)
        with ⟨_, -, -, hevents⟩
      rw [run_off hoff, serve, hevents, List.mem_singleton] at hevent
      rw [hevent] at hresponse
      cases hresponse
    · exact along_off hoff hidle steps
  · constructor
    · intro h
      induction steps using List.reverseRecOn with
      | nil => trivial
      | append_singleton steps step ih =>
        have hearlier := ih (fun earlier hpre => h earlier (hpre.trans (List.prefix_append _ _)))
        refine along_append.mpr ⟨hearlier, ?_, trivial⟩
        intro hsetup hfails
        exact (lost_call_reported hoff hsetup hfails).mp (h _ List.prefix_rfl)
    · intro h earlier hpre
      rcases hpre with ⟨later, rfl⟩
      rw [reportsTruly_iff hoff]
      exact (recorded_run hidle hoff earlier (along_append.mp h).1).truthful

def Environment.linkUp : Environment :=
  { Environment.terse with ifcInitFails := false, ifcInfo := fun _ => some (16777226, 0, 1) }

/-- A second setup that fails leaves the first call reported as up. -/
theorem failed_setup_reported_up :
    let steps : List DataStep :=
      [⟨.setup, 1, .linkUp⟩, ⟨.setup, 2, { Environment.linkUp with systemResult := -1 }⟩]
    callAddress (run dataStep radioOnCtx steps).2 = none ∧
      (serve .linkUp (run dataStep radioOnCtx steps).1 .dataCallList 3).events.filterMap
          Event.dataCall =
        [⟨1, 2, some (ascii "PPP"), some (ascii "internet"), some (ascii "10.0.0.1")⟩] ∧
      ¬ ReportsTruly radioOnCtx steps := by
  intro steps
  have hhistory : callAddress (run dataStep radioOnCtx steps).2 = none := by decide +kernel
  have hreport : (serve .linkUp (run dataStep radioOnCtx steps).1 .dataCallList 3).events.filterMap
      Event.dataCall =
        [⟨1, 2, some (ascii "PPP"), some (ascii "internet"), some (ascii "10.0.0.1")⟩] := by
    decide +kernel
  refine ⟨hhistory, hreport, ?_⟩
  intro htrue
  rw [reportsTruly_iff (by decide), Truthful, hhistory] at htrue
  exact absurd htrue (by decide +kernel)

theorem data_call_reported_after_setup :
    ReportsTruly radioOnCtx [⟨.setup, 1, .linkUp⟩, ⟨.deactivate, 2, .linkUp⟩,
      ⟨.setup, 3, { Environment.linkUp with systemResult := -1 }⟩] := by
  refine (data_call_reported_iff radioOnCtx rfl _).mpr ?_ _ List.prefix_rfl
  refine ⟨fun _ h => ?_, fun h => ?_, fun _ _ => ?_, trivial⟩
  · rfl
  · cases h
  · decide +kernel

end Runs

end Fw100.Request
