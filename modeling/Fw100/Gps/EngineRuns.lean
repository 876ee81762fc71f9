import Fw100.Gps.EngineMoves

/-!
# Runs of the engine

What the framework sees of the engine, and how the threads depend on each other, in every order
of their steps.
-/
namespace Fw100.Gps
open Library

/-- The flag `started` of an engine thread that has not left its loop. -/
def EngineThread.started : EngineThread → Option Bool
  | .beginning => some false
  | .polling started => some started
  | .joining => some false
  | _ => none

/-! ### The order of the callbacks -/

/-- What an observer knows of an engine: whether it is on and in a session, and whether the
parser has reported a fix since it was created. -/
inductive Phase where
  | off
  | on
  | session
deriving DecidableEq, Repr

structure Seen where
  phase : Phase
  firstFix : Bool
deriving DecidableEq, Repr

/-- The callbacks in the order in which an engine may come to them. The parser reports one fix,
outside a session. -/
def Seen.next (t : Seen) : HalOutput → Option Seen
  | .created => if t.phase = .off then some ⟨.off, false⟩ else none
  | .status .engineOn _ => if t.phase = .off then some { t with phase := .on } else none
  | .status .sessionBegin _ => if t.phase = .on then some { t with phase := .session } else none
  | .status .sessionEnd _ => if t.phase = .session then some { t with phase := .on } else none
  | .status .engineOff _ => if t.phase ≠ .off then some { t with phase := .off } else none
  | .location false =>
    if t.phase = .on ∧ t.firstFix = false then some { t with firstFix := true } else none
  | .released => if t.phase = .off then some t else none
  | _ => some t

def EngineThread.Phased : EngineThread → Phase → Prop
  | .polling false, phase => phase = .on
  | .polling true, phase => phase = .session
  | .joining, phase => phase = .session
  | .leaving, phase => phase ≠ .off
  | _, phase => phase = .off

structure GpsState.Ordered (s : GpsState) (t : Seen) : Prop where
  phased : s.engine.Phased t.phase
  absent : s.init = .quit → s.engine = .absent
  inSession : s.engine = .polling true → s.init = .start
  firstFix : s.engine ≠ .absent → s.firstFix = false → t.firstFix = false

theorem observe_still {τ : Type*} {obs : τ → HalOutput → Option τ} {t : τ}
    {outs : List HalOutput} (h : ∀ o ∈ outs, obs t o = some t) : observe obs t outs = some t := by
  induction outs with
  | nil => rfl
  | cons o outs ih =>
    rw [observe_cons, h o (.head _), Option.bind_some]
    exact ih (fun o ho => h o (.tail _ ho))

theorem timerReport_outputs {s : GpsState} {o : HalOutput} (h : o ∈ (timerReport s).2) :
    o = .location true ∨ o = .svStatus := by
  simp only [timerReport, List.mem_append] at h
  rcases h with h | h
  · split_ifs at h
    · exact .inl (List.mem_singleton.mp h)
    · cases h
  · split_ifs at h
    · exact .inr (List.mem_singleton.mp h)
    · cases h

namespace GpsState.Ordered
variable {s s' : GpsState} {t : Seen}

/-- A step that leaves the engine thread where it is. -/
theorem frame (h : s.Ordered t) (hengine : s'.engine = s.engine) (hinit : s'.init = s.init)
    (hfirst : s.firstFix = true → s'.firstFix = true) : s'.Ordered t := by
  refine ⟨?_, ?_, ?_, ?_⟩
  · rw [hengine]
    exact h.phased
  · rw [hengine, hinit]
    exact h.absent
  · rw [hengine, hinit]
    exact h.inSession
  · rw [hengine]
    intro hne hfalse
    apply h.firstFix hne
    cases hbefore : s.firstFix with
    | false => rfl
    | true => exact absurd (hfirst hbefore) (by simp [hfalse])

theorem of_absent {t : Seen} (hphase : t.phase = .off) (hengine : s'.engine = .absent) :
    s'.Ordered t := by
  refine ⟨?_, fun _ => hengine, ?_, fun hne => absurd hengine hne⟩
  · rw [hengine]
    exact hphase
  · rw [hengine]
    intro hpolling
    cases hpolling

theorem phase_off (h : s.Ordered t) (hengine : s.engine = .absent ∨ s.engine = .finished) :
    t.phase = .off := by
  have hphased := h.phased
  rcases hengine with hengine | hengine
  · rwa [hengine] at hphased
  · rwa [hengine] at hphased

theorem moved (h : s.Ordered t) (hthere : s.engine ≠ .absent) {phase : Phase}
    (hphased : s'.engine.Phased phase) (hinit : s'.init ≠ .quit)
    (hin : s'.engine = .polling true → s'.init = .start) (hfirst : s'.firstFix = s.firstFix) :
    s'.Ordered { t with phase := phase } := by
  refine ⟨hphased, fun hquit => absurd hquit hinit, hin, ?_⟩
  intro _ hfalse
  exact h.firstFix hthere (hfirst ▸ hfalse)

theorem init_ne (h : s.Ordered t) (hengine : s.engine ≠ .absent) : s.init ≠ .quit :=
  fun hquit => hengine (h.absent hquit)

/-- A step of an engine thread that is there and comes to a callback. -/
theorem called (h : s.Ordered t) (hthere : s.engine ≠ .absent) {phase : Phase} {o : HalOutput}
    (hnext : Seen.next t o = some { t with phase := phase }) (hphased : s'.engine.Phased phase)
    (hinit : s'.init ≠ .quit) (hin : s'.engine = .polling true → s'.init = .start)
    (hfirst : s'.firstFix = s.firstFix) :
    ∃ t', observe Seen.next t [o] = some t' ∧ s'.Ordered t' := by
  refine ⟨{ t with phase := phase }, ?_, h.moved hthere hphased hinit hin hfirst⟩
  rw [observe_cons, hnext]
  rfl

theorem leaves (h : s.Ordered t) {started : Bool} (hengine : s.engine = .polling started)
    (hleaving : s'.engine = .leaving) (hinit : s'.init = s.init)
    (hfirst : s'.firstFix = s.firstFix) : s'.Ordered t := by
  have hthere : s.engine ≠ .absent := by simp [hengine]
  refine h.moved hthere ?_ (hinit ▸ h.init_ne hthere) (by simp [hleaving]) hfirst
  have hphased := h.phased
  rw [hengine] at hphased
  rw [hleaving]
  cases started <;> simp_all [EngineThread.Phased]

/-- The parser reports a fix before a session only. -/
theorem phase_on (h : s.Ordered t) {started : Bool} (hengine : s.engine = .polling started)
    (hinit : s.init = .init) : t.phase = .on := by
  have hphased := h.phased
  rw [hengine] at hphased
  cases started with
  | false => exact hphased
  | true =>
    have hstart := h.inSession hengine
    rw [hinit] at hstart
    cases hstart

end GpsState.Ordered

theorem ordered_move {s s' : GpsState} {t : Seen} {e : HalEvent} {outs : List HalOutput}
    (hmove : s.Move e s' outs) (h : s.Ordered t) :
    ∃ t', observe Seen.next t outs = some t' ∧ s'.Ordered t' := by
  have hphased := h.phased
  cases hmove with
  | answer freq outs hret =>
    refine ⟨t, observe_still ?_, h.frame rfl rfl id⟩
    intro o ho
    obtain ⟨rc, rfl⟩ := hret o ho
    rfl
  | noDevice hinit hcaller =>
    have hengine := h.absent hinit
    exact ⟨t, rfl, .of_absent (h.phase_off (.inl hengine)) hengine⟩
  | noThread callbacks hinit hcaller =>
    exact ⟨t, rfl, .of_absent (h.phase_off (.inl (h.absent hinit))) rfl⟩
  | create callbacks fd hinit hcaller =>
    have hoff := h.phase_off (.inl (h.absent hinit))
    refine ⟨⟨.off, false⟩, by simp [Seen.next, hoff], ?_⟩
    exact ⟨rfl, fun hquit => (by cases hquit), fun hpolling => (by cases hpolling), fun _ _ => rfl⟩
  | released hcaller hengine =>
    have hoff := h.phase_off hengine
    exact ⟨t, by simp [Seen.next, hoff], .of_absent hoff rfl⟩
  | engineOn hengine =>
    rw [hengine] at hphased
    have hthere : s.engine ≠ .absent := by simp [hengine]
    exact h.called hthere (if_pos hphased) rfl (h.init_ne hthere) (by simp) rfl
  | quits started rest hengine hcontrol => exact ⟨t, rfl, h.leaves hengine rfl rfl rfl⟩
  | begins rest hengine hcontrol =>
    rw [hengine] at hphased
    exact h.called (by simp [hengine]) (if_pos hphased) rfl (by simp) (by simp) rfl
  | beginFails rest hengine hcontrol =>
    rw [hengine] at hphased
    exact h.called (by simp [hengine]) (if_pos hphased) (by simp [EngineThread.Phased]) (by simp)
      (by simp) rfl
  | stops rest hengine hcontrol =>
    rw [hengine] at hphased
    exact ⟨t, rfl, h.moved (by simp [hengine]) hphased (by simp) (by simp) rfl⟩
  | error started hengine => exact ⟨t, rfl, h.leaves hengine rfl rfl rfl⟩
  | stores latLong other sv first started hengine hfirst => exact ⟨t, rfl, h.frame rfl rfl hfirst⟩
  | firstFix sv started hengine hinit hfirst =>
    have hsingle := h.firstFix (by simp [hengine]) hfirst
    refine ⟨{ t with firstFix := true }, by simp [Seen.next, h.phase_on hengine hinit, hsingle], ?_⟩
    exact ⟨h.phased, h.absent, h.inSession, fun _ hfalse => by cases hfalse⟩
  | ends hengine htimer =>
    rw [hengine] at hphased
    have hthere : s.engine ≠ .absent := by simp [hengine]
    exact h.called hthere (if_pos hphased) rfl (h.init_ne hthere) (by simp) rfl
  | engineOff hengine =>
    rw [hengine] at hphased
    have hthere : s.engine ≠ .absent := by simp [hengine]
    exact h.called hthere (if_pos hphased) rfl (h.init_ne hthere) (by simp) rfl
  | reports i htimer =>
    refine ⟨t, observe_still ?_, h.frame rfl rfl (fun hfirst => by simp [timerReport, hfirst])⟩
    intro o ho
    rcases timerReport_outputs ho with rfl | rfl
    · rfl
    · rfl
  | _ => exact ⟨t, rfl, h.frame rfl rfl id⟩

/-- In every order of the threads' steps the callbacks come in the order of the phases: sessions
are begun and ended in turn while the engine is on, and the parser reports at most one fix for
each engine thread, outside a session. -/
theorem callbacks_ordered (es : List HalEvent) :
    ∃ t, observe Seen.next ⟨.off, false⟩ (run halStep .zero es).2.flatten = some t := by
  obtain ⟨t, hobs, -⟩ := observe_every_run (R := GpsState.Ordered) (f := Seen.next)
    (fun s t e h => ordered_move (s.move e) h) (s := .zero) (t := ⟨.off, false⟩) es
    (.of_absent rfl rfl)
  exact ⟨t, hobs⟩

/-! ### Commands -/

/-- What was asked of the engine last, from the commands that were sent. -/
def askedNext (asked : Bool) : HalOutput → Bool
  | .created => false
  | .sent cmd => cmd.apply asked
  | _ => asked

def asked (outs : List HalOutput) : Bool := outs.foldl askedNext false

/-- The engine will do what was asked of it, once it has read the commands in the socket. -/
structure GpsState.Obedient (s : GpsState) (wanted : Bool) : Prop where
  commands : ∀ started, s.engine.started = some started →
    s.control.foldl Cmd.apply started = wanted
  absent : s.init = .quit → s.engine = .absent

namespace GpsState.Obedient
variable {s s' : GpsState} {wanted : Bool}

theorem frame (h : s.Obedient wanted) (hengine : s'.engine = s.engine)
    (hinit : s'.init = s.init) (hcontrol : s'.control = s.control) : s'.Obedient wanted := by
  refine ⟨?_, ?_⟩
  · rw [hengine, hcontrol]
    exact h.commands
  · rw [hengine, hinit]
    exact h.absent

theorem of_gone {wanted : Bool} (hstarted : s'.engine.started = none)
    (habsent : s'.init = .quit → s'.engine = .absent) : s'.Obedient wanted :=
  ⟨fun started hsome => by simp [hstarted] at hsome, habsent⟩

theorem init_ne (h : s.Obedient wanted) (hengine : s.engine ≠ .absent) : s.init ≠ .quit :=
  fun hquit => hengine (h.absent hquit)

theorem moved (hinit : s'.init ≠ .quit) {started : Bool}
    (hstarted : s'.engine.started = some started)
    (hcommands : s'.control.foldl Cmd.apply started = wanted) : s'.Obedient wanted := by
  refine ⟨?_, fun hquit => absurd hquit hinit⟩
  intro b hb
  rw [hstarted] at hb
  rwa [← Option.some.inj hb]

end GpsState.Obedient

theorem askedNext_still {wanted : Bool} {outs : List HalOutput}
    (h : ∀ o ∈ outs, askedNext wanted o = wanted) : outs.foldl askedNext wanted = wanted := by
  have hobs : observe (fun t o => some (askedNext t o)) wanted outs = some wanted :=
    observe_still (fun o ho => congrArg some (h o ho))
  rw [observe_total] at hobs
  exact Option.some.inj hobs

theorem GpsState.Obedient.sent {s s' : GpsState} {wanted : Bool} (h : s.Obedient wanted) (cmd : Cmd)
    (hcontrol : s'.control = s.control ++ [cmd]) (hengine : s'.engine = s.engine)
    (hinit : s'.init = s.init) : s'.Obedient (cmd.apply wanted) := by
  refine ⟨?_, by rw [hinit, hengine]; exact h.absent⟩
  intro started hstarted
  rw [hengine] at hstarted
  rw [hcontrol, List.foldl_append, h.commands started hstarted]
  rfl

theorem obedient_move {s s' : GpsState} {wanted : Bool} {e : HalEvent} {outs : List HalOutput}
    (hmove : s.Move e s' outs) (h : s.Obedient wanted) :
    s'.Obedient (outs.foldl askedNext wanted) := by
  cases hmove with
  | answer freq outs hret =>
    rw [askedNext_still (fun o ho => by obtain ⟨rc, rfl⟩ := hret o ho; rfl)]
    exact h.frame rfl rfl rfl
  | noDevice hinit hcaller =>
    exact .of_gone (by simp [h.absent hinit, EngineThread.started]) (fun _ => h.absent hinit)
  | noThread callbacks hinit hcaller => exact .of_gone rfl (fun _ => rfl)
  | create callbacks fd hinit hcaller => exact .moved (by simp) rfl rfl
  | send cmd hcmd hinit hcaller hengine => exact h.sent cmd rfl rfl rfl
  | cleanup hinit hcaller hengine => exact h.sent .quit rfl rfl rfl
  | released hcaller hengine => exact .of_gone rfl (fun _ => rfl)
  | engineOn hengine =>
    have hcommands := h.commands false (by rw [hengine]; rfl)
    exact .moved (h.init_ne (by simp [hengine])) rfl hcommands
  | quits started rest hengine hcontrol =>
    exact .of_gone rfl (fun hquit => absurd hquit (h.init_ne (by simp [hengine])))
  | ignores started cmd rest hengine hcontrol hcmd hquit =>
    have hcommands := h.commands started (by rw [hengine]; rfl)
    rw [hcontrol, List.foldl_cons, hcmd] at hcommands
    have hstarted : s.engine.started = some started := by
      rw [hengine]
      rfl
    exact .moved (h.init_ne (by simp [hengine])) hstarted hcommands
  | begins rest hengine hcontrol =>
    have hcommands := h.commands false (by rw [hengine]; rfl)
    rw [hcontrol] at hcommands
    exact .moved (by simp) rfl hcommands
  | beginFails rest hengine hcontrol => exact .of_gone rfl (fun hquit => by cases hquit)
  | stops rest hengine hcontrol =>
    have hcommands := h.commands true (by rw [hengine]; rfl)
    rw [hcontrol] at hcommands
    exact .moved (by simp) rfl hcommands
  | error started hengine =>
    exact .of_gone rfl (fun hquit => absurd hquit (h.init_ne (by simp [hengine])))
  | ends hengine htimer =>
    have hcommands := h.commands false (by rw [hengine]; rfl)
    exact .moved (h.init_ne (by simp [hengine])) rfl hcommands
  | engineOff hengine =>
    exact .of_gone rfl (fun hquit => absurd hquit (h.init_ne (by simp [hengine])))
  | reports i htimer =>
    rw [askedNext_still (fun o ho => by rcases timerReport_outputs ho with rfl | rfl <;> rfl)]
    exact h.frame rfl rfl rfl
  | _ => exact h.frame rfl rfl rfl

/-- The commands are obeyed in the order of the calls: what is in the socket takes an engine that
has not left its loop to what was asked of it last. With nothing in the socket it is in a session
exactly if that was a start. -/
theorem commands_obeyed (es : List HalEvent) :
    let s := (run halStep .zero es).1
    ∀ started, s.engine.started = some started →
      s.control.foldl Cmd.apply started = asked (run halStep .zero es).2.flatten := by
  have hrun := observe_every_run (R := GpsState.Obedient)
    (f := fun t o => some (askedNext t o))
    (fun s t e h => ⟨_, observe_total _ _ _, obedient_move (s.move e) h⟩)
    (s := .zero) (t := false) es (.of_gone rfl (fun _ => rfl))
  obtain ⟨wanted, hobs, h⟩ := hrun
  rw [observe_total] at hobs
  intro s started hstarted
  rw [asked, Option.some.inj hobs]
  exact h.commands started hstarted

end Fw100.Gps
