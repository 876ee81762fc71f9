import Fw100.Gps.EngineRuns

/-!
# Initialisation and waiting

What `freerunner_gps_init` returns is compared with whether an engine thread is there, and a
stop with the sleep of the timer thread that it waits for.
-/
namespace Fw100.Gps
open Library

/-- While the state is initialised, the descriptor tells whether there is an engine thread. -/
structure GpsState.Initialised (s : GpsState) : Prop where
  absent : s.init = .quit → s.engine = .absent
  fd : s.init ≠ .quit → (s.fd < 0 ↔ s.engine = .absent)

theorem GpsState.Initialised.init_ne {s : GpsState} (h : s.Initialised)
    (hengine : s.engine ≠ .absent) : s.init ≠ .quit := fun hquit => hengine (h.absent hquit)

theorem GpsState.Initialised.moved {s s' : GpsState} (h : s.Initialised)
    (hengine : s.engine ≠ .absent) (hinit : s'.init ≠ .quit) (hfd : s'.fd = s.fd)
    (hengine' : s'.engine ≠ .absent) : s'.Initialised := by
  refine ⟨fun hquit => absurd hquit hinit, fun _ => ?_⟩
  rw [hfd, h.fd (h.init_ne hengine)]
  exact iff_of_false hengine hengine'

theorem initialised_move {s s' : GpsState} {e : HalEvent} {outs : List HalOutput}
    (hmove : s.Move e s' outs) (h : s.Initialised) : s'.Initialised := by
  cases hmove with
  | noDevice hinit hcaller =>
    have habsent := h.absent hinit
    exact ⟨fun _ => habsent, fun _ => ⟨fun _ => habsent, fun _ => by simp⟩⟩
  | noThread callbacks hinit hcaller => exact ⟨fun _ => rfl, fun hne => absurd rfl hne⟩
  | create callbacks fd hinit hcaller =>
    have hpos : ¬ (fd : ℤ) < 0 := by omega
    exact ⟨fun hquit => (by cases hquit), fun _ => iff_of_false hpos (by simp)⟩
  | released hcaller hengine => exact ⟨fun _ => rfl, fun hne => absurd rfl hne⟩
  | engineOn hengine =>
    have hthere : s.engine ≠ .absent := by simp [hengine]
    exact h.moved hthere (h.init_ne hthere) rfl (by simp)
  | quits started rest hengine hcontrol =>
    have hthere : s.engine ≠ .absent := by simp [hengine]
    exact h.moved hthere (h.init_ne hthere) rfl (by simp)
  | begins rest hengine hcontrol => exact h.moved (by simp [hengine]) (by simp) rfl (by simp)
  | beginFails rest hengine hcontrol => exact h.moved (by simp [hengine]) (by simp) rfl (by simp)
  | stops rest hengine hcontrol => exact h.moved (by simp [hengine]) (by simp) rfl (by simp)
  | error started hengine =>
    have hthere : s.engine ≠ .absent := by simp [hengine]
    exact h.moved hthere (h.init_ne hthere) rfl (by simp)
  | ends hengine htimer =>
    have hthere : s.engine ≠ .absent := by simp [hengine]
    exact h.moved hthere (h.init_ne hthere) rfl (by simp)
  | engineOff hengine =>
    have hthere : s.engine ≠ .absent := by simp [hengine]
    exact h.moved hthere (h.init_ne hthere) rfl (by simp)
  | _ => exact ⟨h.absent, h.fd⟩

theorem initialised_run (es : List HalEvent) : (run halStep .zero es).1.Initialised :=
  Along.invariant_run (Q := fun _ _ => True) GpsState.Initialised
    (fun s e hs _ => initialised_move (s.move e) hs) ⟨fun _ => rfl, fun hne => absurd rfl hne⟩
    (Along.of_forall (fun _ _ => trivial))

def HalEvent.isThread : HalEvent → Bool
  | .engine _ | .timer _ => true
  | _ => false

def HalOutput.code : HalOutput → Option ℤ
  | .returned rc => some rc
  | _ => none

/-- A step that does not concern the caller of the interface. -/
structure Aside (s : GpsState) (r : GpsState × List HalOutput) : Prop where
  caller : r.1.caller = s.caller
  engine : r.1.engine = .absent ↔ s.engine = .absent
  code : r.2.filterMap HalOutput.code = []

section Aside
variable {s : GpsState}

theorem aside_still : Aside s (s, []) := ⟨rfl, Iff.rfl, rfl⟩

theorem aside_sentence (p : Parsed) : Aside s (nmeaSentence s p) := by
  rw [nmeaSentence]
  split_ifs
  · exact ⟨rfl, Iff.rfl, rfl⟩
  · exact ⟨rfl, Iff.rfl, rfl⟩
  · exact ⟨rfl, Iff.rfl, rfl⟩

theorem aside_command (timerCreated : Bool) {started : Bool} {cmd : Cmd} {rest : List Cmd}
    (hengine : s.engine = .polling started) :
    Aside s (handleCommand { s with control := rest } started timerCreated cmd) := by
  have hthere : s.engine ≠ .absent := by simp [hengine]
  cases cmd with
  | quit => exact ⟨rfl, iff_of_false (by simp [handleCommand]) hthere, rfl⟩
  | start =>
    rw [handleCommand]
    split_ifs
    · exact ⟨rfl, Iff.rfl, rfl⟩
    · exact ⟨rfl, iff_of_false (by simp) hthere, rfl⟩
    · exact ⟨rfl, iff_of_false (by simp) hthere, rfl⟩
  | stop =>
    rw [handleCommand]
    split_ifs
    · exact ⟨rfl, iff_of_false (by simp) hthere, rfl⟩
    · exact ⟨rfl, Iff.rfl, rfl⟩

theorem aside_engine (e : EngineStep) : Aside s (engineStep s e) := by
  cases e with
  | engineOn =>
    rw [engineStep]
    split_ifs with hengine
    · exact ⟨rfl, iff_of_false (by simp) (by simp [hengine]), rfl⟩
    · exact aside_still
  | command timerCreated =>
    simp only [engineStep]
    split
    · next started cmd rest hengine hcontrol => exact aside_command timerCreated hengine
    · exact aside_still
  | pollError =>
    simp only [engineStep]
    split
    · next started hengine => exact ⟨rfl, iff_of_false (by simp) (by simp [hengine]), rfl⟩
    · exact aside_still
  | sentence p =>
    simp only [engineStep]
    split
    · exact aside_sentence p
    · exact aside_still
  | timerJoined =>
    rw [engineStep]
    split_ifs with hboth
    · exact ⟨rfl, iff_of_false (by simp) (by simp [hboth.1]), rfl⟩
    · exact aside_still
  | engineOff =>
    rw [engineStep]
    split_ifs with hengine
    · exact ⟨rfl, iff_of_false (by simp) (by simp [hengine]), rfl⟩
    · exact aside_still

theorem aside_timer (i : ℕ) : Aside s (timerStep s i) := by
  rw [timerStep]
  split
  · refine ⟨rfl, Iff.rfl, List.filterMap_eq_nil_iff.mpr ?_⟩
    intro o ho
    rcases timerReport_outputs ho with rfl | rfl <;> rfl
  · exact ⟨rfl, Iff.rfl, rfl⟩
  · exact ⟨rfl, Iff.rfl, rfl⟩
  · exact aside_still

theorem aside_run {es : List HalEvent} (h : ∀ e ∈ es, e.isThread = true) :
    Aside s ((run halStep s es).1, (run halStep s es).2.flatten) := by
  induction es generalizing s with
  | nil => exact aside_still
  | cons e es ih =>
    have hstep : Aside s (halStep s e) := by
      cases e with
      | call c => exact absurd (h _ (.head _)) Bool.false_ne_true
      | caller => exact absurd (h _ (.head _)) Bool.false_ne_true
      | engine e => exact aside_engine e
      | timer i => exact aside_timer i
    have hrest := ih (s := (halStep s e).1) (fun e he => h e (.tail _ he))
    refine ⟨hrest.caller.trans hstep.caller, hrest.engine.trans hstep.engine, ?_⟩
    rw [run_cons, List.flatten_cons, List.filterMap_append, hstep.code]
    exact hrest.code

end Aside

/-- How a call of `freerunner_gps_init` starts: it returns -1, or it will copy the callbacks. -/
theorem gpsInit_cases {s : GpsState} (h : s.Initialised) (hidle : s.caller = .idle)
    (outcome : InitOutcome) (callbacks : Callbacks) :
    let r := freerunnerGpsInit s outcome callbacks
    ((s.init = .quit ∧ outcome = .noDevice ∨ s.init ≠ .quit ∧ s.engine = .absent) ∧
        r.1.caller = .idle ∧ r.2.filterMap HalOutput.code = [-1]) ∨
      (¬ (s.init = .quit ∧ outcome = .noDevice ∨ s.init ≠ .quit ∧ s.engine = .absent) ∧
        r.1.caller = .copying callbacks ∧ r.2.filterMap HalOutput.code = [] ∧
        (r.1.engine = .absent ↔ s.init = .quit ∧ outcome = .noThread)) := by
  by_cases hinit : s.init = .quit
  · cases outcome with
    | noDevice => simp [freerunnerGpsInit, gpsStateInit, hinit, hidle, HalOutput.code]
    | noThread => simp [freerunnerGpsInit, gpsStateInit, hinit, gpsStateZero, GpsState.zero]
    | running fd =>
      have hfd : ¬ (fd : ℤ) < 0 := by omega
      simp [freerunnerGpsInit, gpsStateInit, hinit, hfd, HalOutput.code]
  · have hiff := h.fd hinit
    by_cases hfd : s.fd < 0
    · have habsent := hiff.mp hfd
      simp [freerunnerGpsInit, hinit, hfd, habsent, hidle, HalOutput.code]
    · have habsent : ¬ s.engine = .absent := fun habs => hfd (hiff.mpr habs)
      simp [freerunnerGpsInit, hinit, hfd, habsent]

/-- In every reachable state `freerunner_gps_init` returns -1 exactly if the device cannot be
opened, or could not be in a call that was not cleaned up after. Else it returns 0, and no engine
thread was ever created for the state exactly if creating one fails in this call. -/
theorem gps_init_result (es later : List HalEvent) (outcome : InitOutcome) (callbacks : Callbacks)
    (hidle : (run halStep .zero es).1.caller = .idle)
    (hlater : ∀ e ∈ later, e.isThread = true) :
    let s := (run halStep .zero es).1
    let r := run halStep s (.call (.gpsInit outcome callbacks) :: (later ++ [.caller]))
    let fails := s.init = .quit ∧ outcome = .noDevice ∨ s.init ≠ .quit ∧ s.engine = .absent
    (r.2.flatten.filterMap HalOutput.code = [-1] ↔ fails) ∧
      (r.2.flatten.filterMap HalOutput.code = [0] ↔ ¬ fails) ∧
      (r.2.flatten.filterMap HalOutput.code = [0] ∧ r.1.engine = .absent ↔
        s.init = .quit ∧ outcome = .noThread) := by
  intro s r fails
  have hcall : halStep s (.call (.gpsInit outcome callbacks)) =
      freerunnerGpsInit s outcome callbacks := by
    rw [halStep, if_pos hidle]
    rfl
  have haside := aside_run (s := (freerunnerGpsInit s outcome callbacks).1) hlater
  have hrun : r.1 = (callerStep (run halStep (freerunnerGpsInit s outcome callbacks).1 later).1).1 ∧
      r.2.flatten.filterMap HalOutput.code =
        (freerunnerGpsInit s outcome callbacks).2.filterMap HalOutput.code ++
          (callerStep (run halStep (freerunnerGpsInit s outcome callbacks).1 later).1).2.filterMap
            HalOutput.code := by
    constructor
    · simp only [r, run_cons, run_append, run_nil, hcall]
      rfl
    · simp only [r, run_cons, run_append, run_nil, hcall, List.flatten_cons, List.flatten_append,
        List.filterMap_append, haside.code, List.flatten_nil, List.append_nil, List.nil_append]
      rfl
  rw [hrun.1, hrun.2]
  rcases gpsInit_cases (initialised_run es) hidle outcome callbacks with
    ⟨hfails, hcaller, hcode⟩ | ⟨hworks, hcaller, hcode, habsent⟩
  · have hend : callerStep (run halStep (freerunnerGpsInit s outcome callbacks).1 later).1 =
        ((run halStep (freerunnerGpsInit s outcome callbacks).1 later).1, []) := by
      rw [callerStep, haside.caller, hcaller]
    have hthread : ¬ (s.init = .quit ∧ outcome = .noThread) := by
      rintro ⟨hinit, rfl⟩
      rcases hfails with ⟨-, h⟩ | ⟨hne, -⟩
      · cases h
      · exact hne hinit
    rw [hend, hcode]
    exact ⟨iff_of_true rfl hfails, iff_of_false (by simp) (not_not.mpr hfails),
      iff_of_false (by simp) hthread⟩
  · have hend : callerStep (run halStep (freerunnerGpsInit s outcome callbacks).1 later).1 =
        ({ (run halStep (freerunnerGpsInit s outcome callbacks).1 later).1 with
            callbacks := callbacks, caller := .idle }, [.returned 0]) := by
      rw [callerStep, haside.caller, hcaller]
    have hengine : (run halStep (freerunnerGpsInit s outcome callbacks).1 later).1.engine = .absent ↔
        s.init = .quit ∧ outcome = .noThread := haside.engine.trans habsent
    rw [hend, hcode]
    refine ⟨iff_of_false (by simp [HalOutput.code]) hworks, iff_of_true rfl hworks, ?_⟩
    simpa [HalOutput.code] using hengine

/-- The engine thread cannot be created: the call returns 0. -/
theorem gps_init_result_no_thread :
    let r := run halStep (run halStep .zero []).1
      [.call (.gpsInit .noThread ⟨true, true, true⟩), .caller]
    r.2.flatten.filterMap HalOutput.code = [0] ∧ r.1.engine = .absent :=
  (gps_init_result [] [] .noThread ⟨true, true, true⟩ rfl (by simp)).2.2.mpr ⟨rfl, rfl⟩

/-! ### A stop waits for the timer thread -/

structure GpsState.Waits (s : GpsState) (i seconds : ℕ) : Prop where
  engine : s.engine = .joining
  last : i + 1 = s.timers.length
  asleep : s.timers[i]? = some (.sleeping seconds)
  init : s.init ≠ .quit

def Unanswered : HalOutput → Prop
  | .returned _ => True
  | .sent _ => True
  | .location true => True
  | .svStatus => True
  | _ => False

theorem waits_move {s s' : GpsState} {i seconds : ℕ} {e : HalEvent} {outs : List HalOutput}
    (hmove : s.Move e s' outs) (h : s.Waits i seconds) (he : e ≠ .timer i) :
    s'.Waits i seconds ∧ ∀ o ∈ outs, Unanswered o := by
  have hengine := h.engine
  have htimer : ∀ (j : ℕ) (t : TimerThread), e = .timer j →
      i + 1 = (s.timers.set j t).length ∧ (s.timers.set j t)[i]? = some (.sleeping seconds) := by
    rintro j t rfl
    have hne : j ≠ i := fun hij => he (by rw [hij])
    rw [List.length_set, List.getElem?_set_ne hne]
    exact ⟨h.last, h.asleep⟩
  cases hmove with
  | still => exact ⟨h, by simp⟩
  | answer freq outs hret =>
    refine ⟨⟨h.engine, h.last, h.asleep, h.init⟩, ?_⟩
    intro o ho
    obtain ⟨rc, rfl⟩ := hret o ho
    trivial
  | noDevice hinit hcaller => exact absurd hinit h.init
  | noThread callbacks hinit hcaller => exact absurd hinit h.init
  | create callbacks fd hinit hcaller => exact absurd hinit h.init
  | again callbacks hinit hfd hcaller => exact ⟨⟨h.engine, h.last, h.asleep, h.init⟩, by simp⟩
  | send cmd hcmd hinit hcaller hthere =>
    exact ⟨⟨h.engine, h.last, h.asleep, h.init⟩, by simp [Unanswered]⟩
  | cleanup hinit hcaller hthere =>
    exact ⟨⟨h.engine, h.last, h.asleep, h.init⟩, by simp [Unanswered]⟩
  | cleanupAlone hinit hcaller hgone => exact ⟨⟨h.engine, h.last, h.asleep, h.init⟩, by simp⟩
  | copied callbacks hcaller =>
    exact ⟨⟨h.engine, h.last, h.asleep, h.init⟩, by simp [Unanswered]⟩
  | released hcaller hgone => simp [hengine] at hgone
  | ends hjoining hlast =>
    have hindex : s.timers.length - 1 = i := by
      have hlen := h.last
      omega
    rw [List.getLast?_eq_getElem?, hindex, h.asleep] at hlast
    cases hlast
  | reports j hrunning =>
    obtain ⟨hlast, hasleep⟩ := htimer j .reported rfl
    refine ⟨⟨h.engine, hlast, hasleep, h.init⟩, ?_⟩
    intro o ho
    rcases timerReport_outputs ho with rfl | rfl
    · trivial
    · trivial
  | sleeps j hreported =>
    obtain ⟨hlast, hasleep⟩ := htimer j _ rfl
    exact ⟨⟨h.engine, hlast, hasleep, h.init⟩, by simp⟩
  | wakes j n hsleeping =>
    obtain ⟨hlast, hasleep⟩ := htimer j _ rfl
    exact ⟨⟨h.engine, hlast, hasleep, h.init⟩, by simp⟩
  | engineOn hthere => simp [hengine] at hthere
  | quits started rest hpolling hcontrol => simp [hengine] at hpolling
  | ignores started cmd rest hpolling hcontrol hcmd hquit => simp [hengine] at hpolling
  | begins rest hpolling hcontrol => simp [hengine] at hpolling
  | beginFails rest hpolling hcontrol => simp [hengine] at hpolling
  | stops rest hpolling hcontrol => simp [hengine] at hpolling
  | error started hpolling => simp [hengine] at hpolling
  | stores latLong other sv first started hpolling hfirst => simp [hengine] at hpolling
  | firstFix sv started hpolling hinit hfirst => simp [hengine] at hpolling
  | engineOff hleaving => simp [hengine] at hleaving

/-- As long as the timer thread of a session sleeps, a stop of the session is not completed,
whatever else happens: the engine thread reads no command and no sentence, no status is reported
and no cleanup returns. -/
theorem stop_waits (es later : List HalEvent) (i seconds : ℕ)
    (h : (run halStep .zero es).1.Waits i seconds) (hasleep : ∀ e ∈ later, e ≠ .timer i) :
    let s := (run halStep .zero es).1
    (run halStep s later).1.Waits i seconds ∧
      ∀ o ∈ (run halStep s later).2.flatten, Unanswered o := by
  intro s
  have hrun : ∀ (later : List HalEvent) (s : GpsState), s.Waits i seconds →
      (∀ e ∈ later, e ≠ .timer i) → (run halStep s later).1.Waits i seconds ∧
        ∀ o ∈ (run halStep s later).2.flatten, Unanswered o := by
    intro later
    induction later with
    | nil => exact fun s hs _ => ⟨hs, by simp⟩
    | cons e later ih =>
      intro s hs hne
      obtain ⟨hs', houts⟩ := waits_move (s.move e) hs (hne e (.head _))
      obtain ⟨hlast, hrest⟩ := ih _ hs' (fun e he => hne e (.tail _ he))
      refine ⟨hlast, ?_⟩
      intro o ho
      rw [run_cons, List.flatten_cons, List.mem_append] at ho
      exact ho.elim (houts o) (hrest o)
  exact hrun later s h hasleep

/-- The sleep behind the single fix of frequency 0 takes 136 years. -/
theorem stop_waits_single :
    let es : List HalEvent := [.call (.gpsInit (.running 5) ⟨true, true, true⟩), .caller,
      .engine .engineOn, .call (.gpsSetPositionMode true 0), .call .gpsStart,
      .engine (.command true), .engine (.sentence ⟨true, true, none⟩), .timer 0, .timer 0,
      .call .gpsStop, .engine (.command true)]
    let later : List HalEvent := [.call .gpsCleanup, .engine (.command true),
      .engine .timerJoined, .engine .engineOff, .caller]
    (run halStep (run halStep .zero es).1 later).1.Waits 0 4294967295 := by
  refine (stop_waits _ _ 0 4294967295 ?_ (by decide)).1
  exact ⟨by decide +kernel, by decide +kernel, by decide +kernel, by decide +kernel⟩

end Fw100.Gps
