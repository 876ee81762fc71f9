import Fw100.Gps.EngineRuns

/-!
# The timer threads

A session has one timer thread, which is waited for at its end. The engine can also leave its
loop in the middle of a session, and then nobody waits for the thread. Where that does not
happen, the timer threads report within sessions only, and one at a time.
-/
namespace Fw100.Gps
open Library

def GpsState.requested (s : GpsState) : Bool :=
  (s.engine.started.map (fun started => s.control.foldl Cmd.apply started)).getD false

/-- No session is cut off: cleanup comes when a stop was asked for last, the poll reports no
error in a session, and the timer thread can be created. -/
structure Orderly (s : GpsState) (e : HalEvent) : Prop where
  cleanup : e = .call .gpsCleanup → s.requested = false
  poll : e = .engine .pollError → s.engine ≠ .polling true
  timer : e ≠ .engine (.command false)

theorem orderly_iff (s : GpsState) (e : HalEvent) :
    Orderly s e ↔ (e = .call .gpsCleanup → s.requested = false) ∧
      (e = .engine .pollError → s.engine ≠ .polling true) ∧ e ≠ .engine (.command false) :=
  ⟨fun h => ⟨h.cleanup, h.poll, h.timer⟩, fun h => ⟨h.1, h.2.1, h.2.2⟩⟩

instance (s : GpsState) (e : HalEvent) : Decidable (Orderly s e) :=
  decidable_of_iff _ (orderly_iff s e).symm

def EngineThread.phase : EngineThread → Phase
  | .polling false => .on
  | .polling true => .session
  | .joining => .session
  | .leaving => .on
  | _ => .off

/-- The callbacks if no session is cut off: the engine goes off outside a session, and the timer
threads report within one. -/
def Phase.next (phase : Phase) : HalOutput → Option Phase
  | .status .engineOn _ => if phase = .off then some .on else none
  | .status .sessionBegin _ => if phase = .on then some .session else none
  | .status .sessionEnd _ => if phase = .session then some .on else none
  | .status .engineOff _ => if phase = .on then some .off else none
  | .location true => if phase = .session then some phase else none
  | .svStatus => if phase = .session then some phase else none
  | _ => some phase

def TimerThread.Live (t : TimerThread) : Prop := t ≠ .finished

/-- The commands in the socket let the engine quit outside sessions only. -/
def QuitsOutside : Bool → List Cmd → Prop
  | _, [] => True
  | started, .quit :: rest => started = false ∧ QuitsOutside started rest
  | _, .start :: rest => QuitsOutside true rest
  | _, .stop :: rest => QuitsOutside false rest

theorem quitsOutside_concat (started : Bool) (control : List Cmd) (cmd : Cmd) :
    QuitsOutside started (control ++ [cmd]) ↔ QuitsOutside started control ∧
      (cmd = .quit → control.foldl Cmd.apply started = false) := by
  induction control generalizing started with
  | nil => cases cmd <;> simp [QuitsOutside]
  | cons c control ih => cases c <;> simp [QuitsOutside, ih, Cmd.apply, and_assoc]

/-- At most one timer thread is alive: the last one, in a session. -/
structure GpsState.Sound (s : GpsState) : Prop where
  live : ∀ (i : ℕ) (t : TimerThread), s.timers[i]? = some t → t.Live → i + 1 = s.timers.length ∧ s.engine.phase = .session
  leaving : s.engine = .leaving → ∀ (i : ℕ) (t : TimerThread), s.timers[i]? = some t → ¬ t.Live
  quits : ∀ started, s.engine.started = some started → QuitsOutside started s.control
  absent : s.init = .quit → s.engine = .absent

namespace GpsState.Sound
variable {s s' : GpsState}

theorem frame (h : s.Sound) (htimers : s'.timers = s.timers) (hengine : s'.engine = s.engine)
    (hinit : s'.init = s.init) (hcontrol : s'.control = s.control) : s'.Sound := by
  refine ⟨?_, ?_, ?_, ?_⟩
  · rw [htimers, hengine]
    exact h.live
  · rw [htimers, hengine]
    exact h.leaving
  · rw [hengine, hcontrol]
    exact h.quits
  · rw [hengine, hinit]
    exact h.absent

theorem init_ne (h : s.Sound) (hengine : s.engine ≠ .absent) : s.init ≠ .quit :=
  fun hquit => hengine (h.absent hquit)

theorem none_live (h : s.Sound) (hphase : s.engine.phase ≠ .session) {i : ℕ} {t : TimerThread}
    (hi : s.timers[i]? = some t) : ¬ t.Live := fun hlive => hphase (h.live i t hi hlive).2

theorem of_none (hnone : ∀ (i : ℕ) t, s'.timers[i]? = some t → ¬ TimerThread.Live t)
    (hquits : ∀ started, s'.engine.started = some started → QuitsOutside started s'.control)
    (habsent : s'.init = .quit → s'.engine = .absent) : s'.Sound :=
  ⟨fun i t hi hlive => absurd hlive (hnone i t hi), fun _ => hnone, hquits, habsent⟩

theorem set (h : s.Sound) {i : ℕ} {t t' : TimerThread} (hi : s.timers[i]? = some t)
    (hlive : t.Live) (htimers : s'.timers = s.timers.set i t') (hengine : s'.engine = s.engine)
    (hinit : s'.init = s.init) (hcontrol : s'.control = s.control) : s'.Sound := by
  obtain ⟨hlast, hphase⟩ := h.live i t hi hlive
  refine ⟨?_, ?_, ?_, ?_⟩
  · intro j u hj hlive'
    rw [htimers, List.length_set, hengine]
    rw [htimers] at hj
    by_cases hij : i = j
    · exact ⟨hij ▸ hlast, hphase⟩
    · rw [List.getElem?_set_ne hij] at hj
      exact h.live j u hj hlive'
  · intro hleaving
    rw [hengine] at hleaving
    rw [hleaving] at hphase
    cases hphase
  · rw [hengine, hcontrol]
    exact h.quits
  · rw [hengine, hinit]
    exact h.absent

theorem outside (h : s.Sound) (hphase : s.engine.phase ≠ .session) (htimers : s'.timers = s.timers)
    (hquits : ∀ started, s'.engine.started = some started → QuitsOutside started s'.control)
    (habsent : s'.init = .quit → s'.engine = .absent) : s'.Sound := by
  refine .of_none (fun i t hi => ?_) hquits habsent
  rw [htimers] at hi
  exact h.none_live hphase hi

/-- A step of the engine thread, outside a session, behind which it reads no more commands. -/
theorem leave (h : s.Sound) (hthere : s.engine ≠ .absent) (hphase : s.engine.phase ≠ .session)
    (htimers : s'.timers = s.timers) (hinit : s'.init = s.init)
    (hstarted : s'.engine.started = none) : s'.Sound := by
  refine h.outside hphase htimers (fun started hs => ?_) (fun hquit => ?_)
  · rw [hstarted] at hs
    cases hs
  · exact absurd (hinit ▸ hquit) (h.init_ne hthere)

theorem commands (h : s.Sound) {control : List Cmd}
    (hquits : ∀ started, s.engine.started = some started → QuitsOutside started s.control →
      QuitsOutside started control) : ({ s with control := control } : GpsState).Sound :=
  ⟨h.live, h.leaving, fun started hs => hquits started hs (h.quits started hs), h.absent⟩

theorem begins (h : s.Sound) {rest : List Cmd} (hengine : s.engine = .polling false)
    (hcontrol : s.control = .start :: rest) :
    ({ s with control := rest, init := .start, timers := s.timers ++ [.running],
              engine := .polling true } : GpsState).Sound := by
  have hquits := h.quits false (by rw [hengine]; rfl)
  rw [hcontrol] at hquits
  refine ⟨?_, fun hleaving => (by cases hleaving), ?_, fun hquit => (by cases hquit)⟩
  · intro i t hi hlive
    refine ⟨?_, rfl⟩
    rcases Nat.lt_or_ge i s.timers.length with hlt | hge
    · rw [List.getElem?_append_left hlt] at hi
      exact absurd hlive (h.none_live (by simp [hengine, EngineThread.phase]) hi)
    · rw [List.length_append, List.length_singleton]
      obtain ⟨hbound, -⟩ := List.getElem?_eq_some_iff.mp hi
      rw [List.length_append, List.length_singleton] at hbound
      omega
  · intro started hstarted
    obtain rfl : true = started := Option.some.inj hstarted
    exact hquits

theorem stops (h : s.Sound) {rest : List Cmd} (hengine : s.engine = .polling true)
    (hcontrol : s.control = .stop :: rest) :
    ({ s with control := rest, init := .init, engine := .joining } : GpsState).Sound := by
  have hquits := h.quits true (by rw [hengine]; rfl)
  rw [hcontrol] at hquits
  refine ⟨fun i t hi hlive => ⟨(h.live i t hi hlive).1, rfl⟩, fun hleaving => (by cases hleaving),
    ?_, fun hquit => (by cases hquit)⟩
  intro started hstarted
  obtain rfl : false = started := Option.some.inj hstarted
  exact hquits

theorem ends (h : s.Sound) (hengine : s.engine = .joining)
    (htimer : s.timers.getLast? = some .finished) :
    ({ s with engine := .polling false } : GpsState).Sound := by
  have hquits := h.quits false (by rw [hengine]; rfl)
  refine .of_none ?_ ?_ (fun hquit => absurd hquit (h.init_ne (by simp [hengine])))
  · intro i t hi hlive
    have hlast := (h.live i t hi hlive).1
    have hindex : s.timers.length - 1 = i := by omega
    rw [List.getLast?_eq_getElem?, hindex] at htimer
    have hfinished : t = .finished := Option.some.inj (hi.symm.trans htimer)
    exact hlive hfinished
  · intro started hstarted
    obtain rfl : false = started := Option.some.inj hstarted
    exact hquits

end GpsState.Sound

section Moves
variable {s s' : GpsState} {e : HalEvent} {outs : List HalOutput}

theorem started_of_quit (h : s.Sound) {started : Bool} {rest : List Cmd}
    (hengine : s.engine = .polling started) (hcontrol : s.control = .quit :: rest) :
    started = false := by
  have hquits := h.quits started (by rw [hengine]; rfl)
  rw [hcontrol] at hquits
  exact hquits.1

theorem started_of_error {started : Bool} (he : Orderly s (.engine .pollError))
    (hengine : s.engine = .polling started) : started = false := by
  cases started with
  | false => rfl
  | true => exact absurd hengine (he.poll rfl)

theorem phase_move (hmove : s.Move e s' outs) (h : s.Sound) (he : Orderly s e) :
    observe Phase.next s.engine.phase outs = some s'.engine.phase := by
  cases hmove with
  | answer freq outs hret =>
    apply observe_still
    intro o ho
    obtain ⟨rc, rfl⟩ := hret o ho
    rfl
  | noThread callbacks hinit hcaller =>
    simp [h.absent hinit, gpsStateZero, GpsState.zero, EngineThread.phase]
  | create callbacks fd hinit hcaller =>
    simp [h.absent hinit, EngineThread.phase, Phase.next]
  | released hcaller hengine =>
    rcases hengine with hengine | hengine <;> rw [hengine] <;> rfl
  | quits started rest hengine hcontrol =>
    obtain rfl := started_of_quit h hengine hcontrol
    simp [hengine, EngineThread.phase]
  | error started hengine =>
    obtain rfl := started_of_error he hengine
    simp [hengine, EngineThread.phase]
  | beginFails rest hengine hcontrol => exact absurd rfl he.timer
  | reports i htimer =>
    have hlive : TimerThread.Live .running := by simp [TimerThread.Live]
    have hphase := (h.live i _ htimer hlive).2
    apply observe_still
    intro o ho
    rcases timerReport_outputs ho with rfl | rfl <;> simp [Phase.next, hphase]
  | engineOn hengine => simp [hengine, EngineThread.phase, Phase.next]
  | begins rest hengine hcontrol => simp [hengine, EngineThread.phase, Phase.next]
  | stops rest hengine hcontrol => simp [hengine, EngineThread.phase]
  | ends hengine htimer => simp [hengine, EngineThread.phase, Phase.next]
  | engineOff hengine => simp [hengine, EngineThread.phase, Phase.next]
  | _ => rfl

theorem sound_move (hmove : s.Move e s' outs) (h : s.Sound) (he : Orderly s e) : s'.Sound := by
  cases hmove with
  | noDevice hinit hcaller =>
    have hengine := h.absent hinit
    exact h.outside (by simp [hengine, EngineThread.phase]) rfl
      (by simp [hengine, EngineThread.started]) (fun _ => hengine)
  | noThread callbacks hinit hcaller =>
    exact h.outside (by simp [h.absent hinit, EngineThread.phase]) rfl
      (by simp [gpsStateZero, GpsState.zero, EngineThread.started]) (fun _ => rfl)
  | create callbacks fd hinit hcaller =>
    exact h.outside (by simp [h.absent hinit, EngineThread.phase]) rfl (fun _ _ => trivial)
      (fun hquit => by cases hquit)
  | send cmd hcmd hinit hcaller hengine =>
    exact h.commands (fun _ _ hquits =>
      (quitsOutside_concat _ _ _).mpr ⟨hquits, fun hquit => absurd hquit hcmd⟩)
  | cleanup hinit hcaller hengine =>
    refine (h.commands (fun started hstarted hquits => ?_)).frame rfl rfl rfl rfl
    have hrequested := he.cleanup rfl
    rw [GpsState.requested, hstarted] at hrequested
    exact (quitsOutside_concat _ _ _).mpr ⟨hquits, fun _ => hrequested⟩
  | released hcaller hengine =>
    refine h.outside ?_ rfl (by simp [gpsStateZero, GpsState.zero, EngineThread.started])
      (fun _ => rfl)
    rcases hengine with hengine | hengine <;> simp [hengine, EngineThread.phase]
  | engineOn hengine =>
    refine h.outside (by simp [hengine, EngineThread.phase]) rfl (fun started hstarted => ?_)
      (fun hquit => absurd hquit (h.init_ne (by simp [hengine])))
    obtain rfl : false = started := Option.some.inj hstarted
    exact h.quits false (by rw [hengine]; rfl)
  | quits started rest hengine hcontrol =>
    obtain rfl := started_of_quit h hengine hcontrol
    exact h.leave (by simp [hengine]) (by simp [hengine, EngineThread.phase]) rfl rfl rfl
  | ignores started cmd rest hengine hcontrol hcmd hquit =>
    refine h.commands (fun b hb hquits => ?_)
    rw [hengine] at hb
    obtain rfl : started = b := Option.some.inj hb
    rw [hcontrol] at hquits
    cases cmd with
    | quit => exact absurd rfl hquit
    | start =>
      obtain rfl : true = started := hcmd
      exact hquits
    | stop =>
      obtain rfl : false = started := hcmd
      exact hquits
  | begins rest hengine hcontrol => exact h.begins hengine hcontrol
  | beginFails rest hengine hcontrol => exact absurd rfl he.timer
  | stops rest hengine hcontrol => exact h.stops hengine hcontrol
  | error started hengine =>
    obtain rfl := started_of_error he hengine
    exact h.leave (by simp [hengine]) (by simp [hengine, EngineThread.phase]) rfl rfl rfl
  | ends hengine htimer => exact h.ends hengine htimer
  | engineOff hengine =>
    refine .of_none (h.leaving hengine) (by simp [EngineThread.started])
      (fun hquit => absurd hquit (h.init_ne (by simp [hengine])))
  | reports i htimer => exact h.set htimer (by simp [TimerThread.Live]) rfl rfl rfl rfl
  | sleeps i htimer => exact h.set htimer (by simp [TimerThread.Live]) rfl rfl rfl rfl
  | wakes i seconds htimer => exact h.set htimer (by simp [TimerThread.Live]) rfl rfl rfl rfl
  | _ => exact h.frame rfl rfl rfl rfl

end Moves

/-- If no session is cut off, then in every order of the steps the timer threads report within
sessions only, every session that is begun is ended before the engine goes off, and at most one
timer thread is alive. -/
theorem timers_in_sessions (es : List HalEvent) (h : Along halStep Orderly .zero es) :
    let s := (run halStep .zero es).1
    (∃ phase, observe Phase.next .off (run halStep .zero es).2.flatten = some phase) ∧
      ∀ (i j : ℕ) (t u : TimerThread), s.timers[i]? = some t → s.timers[j]? = some u → t.Live → u.Live → i = j := by
  obtain ⟨phase, hobs, -, hsound⟩ := observe_run
    (R := fun (s : GpsState) phase => s.engine.phase = phase ∧ s.Sound) (f := Phase.next)
    (fun s phase e hR he => ⟨_, hR.1 ▸ phase_move (s.move e) hR.2 he, rfl,
      sound_move (s.move e) hR.2 he⟩)
    (s := .zero) (t := .off)
    ⟨rfl, .of_none (fun i t hi => by cases hi) (fun started hs => by cases hs) (fun _ => rfl)⟩ h
  refine ⟨⟨phase, hobs⟩, ?_⟩
  intro i j t u hi hj ht hu
  have hlast := (hsound.live i t hi ht).1
  have hlast' := (hsound.live j u hj hu).1
  omega

/-- One session with a fix, stopped and cleaned up. -/
def oneSession : List HalEvent :=
  [.call (.gpsInit (.running 5) ⟨true, true, true⟩), .caller, .engine .engineOn,
    .call (.gpsSetPositionMode true 1), .call .gpsStart, .engine (.command true),
    .engine (.sentence ⟨true, true, none⟩), .timer 0, .timer 0, .call .gpsStop,
    .engine (.command true), .timer 0, .engine .timerJoined, .call .gpsCleanup,
    .engine (.command true), .engine .engineOff, .caller]

theorem timers_in_sessions_one :
    ∃ phase, observe Phase.next .off (run halStep .zero oneSession).2.flatten = some phase :=
  (timers_in_sessions oneSession (by decide +kernel)).1

/-- A cleanup in the middle of a session leaves the timer thread behind, and in the next session
there are two. -/
example :
    let cut : List HalEvent := [.call (.gpsInit (.running 5) ⟨true, true, true⟩), .caller,
      .engine .engineOn, .call .gpsStart, .engine (.command true), .call .gpsCleanup,
      .engine (.command true), .engine .engineOff, .caller]
    (run halStep .zero (cut ++ cut.take 5)).1.timers = [.running, .running] ∧
      ¬ Along halStep Orderly .zero cut := by
  decide +kernel

end Fw100.Gps
