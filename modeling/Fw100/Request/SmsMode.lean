import Fw100.Library.Machine
import Fw100.Request.Commands

/-!
# The message format that the modem is in

No variable of the driver says which format the modem uses for short messages: it is the value
of the last `AT+CMGF` command that reached the modem. `atcommand_init` selects PDU mode;
`requestSendSMSEVDO` selects text mode and does not go back.
-/
namespace Fw100.Request
open Library Text Channel Session

/-! ### The commands that reach the modem -/

def pduMode : CString := ascii "0"

def textMode : CString := ascii "1"

/-- A command line that the driver gave to the channel. -/
structure WireCommand where
  text : CString
  delivered : Bool
deriving DecidableEq, Repr

/-- The last value that has reached the modem. -/
def modeAfter (mode : Option CString) : List WireCommand → Option CString
  | [] => mode
  | c :: sent =>
    modeAfter (if c.delivered then (cmgfValue c.text).or mode else mode) sent

theorem modeAfter_append (mode : Option CString) (sent sent' : List WireCommand) :
    modeAfter mode (sent ++ sent') = modeAfter (modeAfter mode sent) sent' := by
  induction sent generalizing mode with
  | nil => rfl
  | cons c sent ih => exact ih _

/-- Commands of which each selects `mode` or no format at all. -/
theorem modeAfter_of_forall {mode : Option CString} {sent : List WireCommand}
    (h : ∀ c ∈ sent, cmgfValue c.text = none ∨ cmgfValue c.text = mode) :
    modeAfter mode sent = mode := by
  induction sent with
  | nil => rfl
  | cons c sent ih =>
    have hc : (if c.delivered then (cmgfValue c.text).or mode else mode) = mode := by
      split
      · rcases h c (.head _) with h | h
        · rw [h, Option.none_or]
        · rw [h, Option.or_self]
      · rfl
    rw [modeAfter, hc]
    exact ih (fun c hc => h c (.tail _ hc))

theorem modeAfter_of_plain {mode : Option CString} {sent : List WireCommand}
    (h : ∀ c ∈ sent, cmgfValue c.text = none) : modeAfter mode sent = mode :=
  modeAfter_of_forall (fun c hc => .inl (h c hc))

theorem modeAfter_of_delivered {mode : Option CString} {value : CString} {sent : List WireCommand}
    (h : ∀ c ∈ sent, cmgfValue c.text = none ∨ cmgfValue c.text = some value)
    (hsome : ∃ c ∈ sent, c.delivered = true ∧ cmgfValue c.text = some value) :
    modeAfter mode sent = some value := by
  obtain ⟨c, hc, hdelivered, hvalue⟩ := hsome
  obtain ⟨before, after, rfl⟩ := List.append_of_mem hc
  have hafter : modeAfter (some value) after = some value :=
    modeAfter_of_forall (fun d hd => h d (List.mem_append_right _ (.tail _ hd)))
  rw [modeAfter_append, modeAfter, if_pos hdelivered, hvalue, Option.some_or, hafter]

/-- The commands of one thread, with those of another one in front of each and at the end. -/
def interleave (meanwhile : ℕ → List WireCommand) : ℕ → List WireCommand → List WireCommand
  | n, [] => meanwhile n
  | n, c :: sent => meanwhile n ++ c :: interleave meanwhile (n + 1) sent

/-- The other thread does not select a format. -/
theorem modeAfter_interleave {meanwhile : ℕ → List WireCommand}
    (h : ∀ n, ∀ c ∈ meanwhile n, cmgfValue c.text = none) (mode : Option CString) (n : ℕ)
    (sent : List WireCommand) : modeAfter mode (interleave meanwhile n sent) = modeAfter mode sent := by
  induction sent generalizing mode n with
  | nil => exact modeAfter_of_plain (h n)
  | cons c sent ih =>
    rw [interleave, modeAfter_append, modeAfter_of_plain (h n), modeAfter, ih, modeAfter]

/-- The commands of one call, of which the one with number `n` meets the reply with that
number. -/
def wire (env : Environment) : ℕ → List CString → List WireCommand
  | _, [] => []
  | n, text :: texts => ⟨text, (env.replies n).delivered⟩ :: wire env (n + 1) texts

theorem text_of_mem_wire {env : Environment} {n : ℕ} {texts : List CString} {c : WireCommand}
    (h : c ∈ wire env n texts) : c.text ∈ texts := by
  induction texts generalizing n with
  | nil => cases h
  | cons text texts ih =>
    rcases List.mem_cons.mp h with rfl | h
    · exact .head _
    · exact .tail _ (ih h)

/-! ### The callback that configures the modem -/

/-- The commands of this part select PDU mode or no format at all. -/
abbrev SelectsPdu {α : Type} (env : Environment) (m : RilM α) : Prop :=
  Traced.Emits env (fun e => e.cmgf = none ∨ e.cmgf = some pduMode) m

section Initialization
variable {env : Environment}

theorem Plain.selectsPdu {α : Type} {m : RilM α} (h : Plain env m) : SelectsPdu env m :=
  h.mono (fun _ he => .inl he)

theorem selectsPdu_sendEach {commands : List CString}
    (h : ∀ c ∈ commands, cmgfValue c = none ∨ cmgfValue c = some pduMode) :
    SelectsPdu env (sendEach commands) := by
  induction commands with
  | nil => exact .pure
  | cons command commands ih =>
    refine .bind (.bind (emits_send (h command (.head _)) (fun _ => .inl rfl)) (fun _ => .pure)) ?_
    exact fun _ => ih (fun c hc => h c (.tail _ hc))

theorem plain_handshakeTries (tries : ℕ) (err : ℤ) : Plain env (handshakeTries tries err) := by
  induction tries generalizing err with
  | zero => exact .pure
  | succ tries ih => exact .bind (plain_atSendCommandNull rfl) (fun err => .ite .pure (ih err))

theorem selectsPdu_atcommandInit : SelectsPdu env atcommandInit := by
  refine .bind (selectsPdu_sendEach (by decide)) (fun _ => ?_)
  refine .bind (Plain.selectsPdu (plain_send rfl)) (fun x => ?_)
  refine .bind (plain_atResponseFree x.2).selectsPdu (fun _ => ?_)
  refine .bind (selectsPdu_sendEach (by decide)) (fun _ => .bind plain_getCtx.selectsPdu (fun _ => ?_))
  exact .ite (selectsPdu_sendEach (by decide)) .pure

theorem selectsPdu_initializeCallback : SelectsPdu env initializeCallback := by
  refine .bind (plain_setRadioState _).selectsPdu (fun _ => ?_)
  refine .bind (plain_handshakeTries _ _).selectsPdu (fun _ => ?_)
  refine .bind selectsPdu_atcommandInit (fun _ => .bind plain_isRadioOn.selectsPdu (fun _ => ?_))
  exact .ite (plain_setRadioState _).selectsPdu .pure

end Initialization

/-! ### The driver and the modem -/

structure MainLoopCommand extends WireCommand where
  from_call : ∃ (env : Environment) (ctx : SessionCtx) (c : MainLoopCall),
    text ∈ commands (c.call env ⟨ctx, 0⟩).events

/-- The session, and the last message format that reached the modem. -/
structure Modem where
  ctx : SessionCtx
  mode : Option CString

inductive WireStep where
  /-- Another thread has changed the session. -/
  | elsewhere (ctx : SessionCtx)
  /-- The driver's own thread sends a command. -/
  | mainLoop (c : MainLoopCommand)
  /-- The event loop makes a call. In front of its command with number `n`, or behind the last
  one, the driver's own thread sends `meanwhile n`. -/
  | dispatch (call : DispatchCall) (env : Environment) (meanwhile : ℕ → List MainLoopCommand)

def dispatched (ctx : SessionCtx) (call : DispatchCall) (env : Environment) : List WireCommand :=
  wire env 0 (commands (call.call env ⟨ctx, 0⟩).events)

def wireStep (m : Modem) : WireStep → Modem × List WireCommand
  | .elsewhere ctx => (⟨ctx, m.mode⟩, [])
  | .mainLoop c => (⟨m.ctx, modeAfter m.mode [c.toWireCommand]⟩, [c.toWireCommand])
  | .dispatch call env meanwhile =>
    let sent := interleave (fun n => (meanwhile n).map MainLoopCommand.toWireCommand) 0
      (dispatched m.ctx call env)
    (⟨(call.call env ⟨m.ctx, 0⟩).state.ctx, modeAfter m.mode sent⟩, sent)

/-- The callback's own `AT+CMGF` command has reached the modem. -/
def Configures (ctx : SessionCtx) (env : Environment) : Prop :=
  ∃ c ∈ dispatched ctx .init env, c.delivered = true ∧ cmgfValue c.text = some pduMode

/-- A message is sent: the gate is open and `at+cmgf=1` reaches the modem. -/
def SelectsText (m : Modem) : WireStep → Prop
  | .dispatch (.request r _) env _ =>
    r.sendsMessage = true ∧ m.ctx.sState ≠ .off ∧ (env.replies 0).delivered = true
  | _ => False

theorem MainLoopCommand.cmgfValue_eq_none (c : MainLoopCommand) : cmgfValue c.text = none := by
  obtain ⟨env, ctx, call, hmem⟩ := c.from_call
  obtain ⟨e, he, htext⟩ := List.mem_filterMap.mp hmem
  have hplain : Plain env call.call := plain_mainLoop call
  simpa [Event.cmgf, htext] using hplain ⟨ctx, 0⟩ e he

/-- Only the commands of the event loop's call count. -/
theorem dispatch_mode (m : Modem) (call : DispatchCall) (env : Environment)
    (meanwhile : ℕ → List MainLoopCommand) :
    (wireStep m (.dispatch call env meanwhile)).1.mode =
      modeAfter m.mode (dispatched m.ctx call env) := by
  apply modeAfter_interleave
  intro n c hc
  obtain ⟨d, -, rfl⟩ := List.mem_map.mp hc
  exact d.cmgfValue_eq_none

theorem cmgfValue_of_mem_dispatched {ctx : SessionCtx} {call : DispatchCall} {env : Environment}
    {P : Option CString → Prop} (h : Traced.Emits env (fun e => P e.cmgf) call.call) {c : WireCommand}
    (hc : c ∈ dispatched ctx call env) : P (cmgfValue c.text) := by
  obtain ⟨e, he, htext⟩ := List.mem_filterMap.mp (text_of_mem_wire hc)
  simpa [Event.cmgf, htext] using h _ e he

theorem plain_onRequest {env : Environment} {r : RilRequest} (h : r.sendsMessage = false)
    (t : Token) : Plain env (onRequest r t) :=
  .bind plain_getCtx (fun _ => .ite (plain_complete _ _ _) (plain_handle t h))

/-- With the gate open the first command of the request selects text mode. -/
theorem dispatched_sendSms {ctx : SessionCtx} (hon : ctx.sState ≠ .off) (data : Option SmsArgs)
    (t : Token) (env : Environment) :
    ∃ rest : List WireCommand, (∀ c ∈ rest, cmgfValue c.text = none) ∧
      dispatched ctx (.request (.sendSms data) t) env =
        ⟨ascii "at+cmgf=1", (env.replies 0).delivered⟩ :: rest := by
  obtain ⟨es, hes, hplain⟩ : ∃ es, (requestSendSMSEVDO data t env ⟨ctx, 0⟩).events =
      .command (ascii "at+cmgf=1") :: es ∧ ∀ e ∈ es, e.cmgf = none := by
    unfold requestSendSMSEVDO
    exact Traced.Emits.bind_events (atSendCommandNull_eq env (ascii "at+cmgf=1") ⟨ctx, 0⟩)
      (plain_sendBody data t)
  refine ⟨wire env 1 (commands es), fun c hc => ?_, ?_⟩
  · obtain ⟨e, he, htext⟩ := List.mem_filterMap.mp (text_of_mem_wire hc)
    simpa [Event.cmgf, htext] using hplain e he
  · rw [dispatched, DispatchCall.call, onRequest_open hon]
    exact congrArg (fun events => wire env 0 (commands events)) hes

theorem modeAfter_sendSms {ctx : SessionCtx} (hon : ctx.sState ≠ .off) (data : Option SmsArgs)
    (t : Token) (env : Environment) (mode : Option CString) :
    modeAfter mode (dispatched ctx (.request (.sendSms data) t) env) =
      if (env.replies 0).delivered then some textMode else mode := by
  obtain ⟨rest, hplain, hsent⟩ := dispatched_sendSms hon data t env
  rw [hsent, modeAfter, modeAfter_of_plain hplain]
  rfl

theorem dispatched_gated {ctx : SessionCtx} (hoff : ctx.sState = .off) (data : Option SmsArgs)
    (t : Token) (env : Environment) :
    dispatched ctx (.request (.sendSms data) t) env = [] := by
  rw [dispatched, DispatchCall.call, onRequest_gated hoff rfl]
  rfl

/-- A step leaves PDU mode exactly if it selects text mode. -/
theorem wireStep_mode (m : Modem) (e : WireStep) (hm : m.mode = some pduMode) :
    (wireStep m e).1.mode = some pduMode ↔ ¬ SelectsText m e := by
  cases e with
  | elsewhere ctx => exact iff_of_true hm id
  | mainLoop c =>
    refine iff_of_true ?_ id
    exact (modeAfter_of_plain (by simpa using c.cmgfValue_eq_none)).trans hm
  | dispatch call env meanwhile =>
    rw [dispatch_mode, hm]
    cases call with
    | init =>
      refine iff_of_true (modeAfter_of_forall (fun c hc => ?_)) id
      exact cmgfValue_of_mem_dispatched (P := fun v => v = none ∨ v = some pduMode)
        selectsPdu_initializeCallback hc
    | request r t =>
      by_cases hsends : r.sendsMessage = true
      · obtain ⟨data, rfl⟩ : ∃ data, r = .sendSms data := by
          cases r with
          | sendSms data => exact ⟨data, rfl⟩
          | _ => cases hsends
        by_cases hoff : m.ctx.sState = .off
        · rw [dispatched_gated hoff]
          exact iff_of_true rfl (fun h => h.2.1 hoff)
        · rw [modeAfter_sendSms hoff]
          cases hdelivered : (env.replies 0).delivered with
          | true => exact iff_of_false (by decide) (fun h => h ⟨rfl, hoff, hdelivered⟩)
          | false => exact iff_of_true rfl (fun h => Bool.false_ne_true (hdelivered.symm.trans h.2.2))
      · have hplain : Plain env (onRequest r t) := plain_onRequest (by simpa using hsends) t
        refine iff_of_true (modeAfter_of_plain (fun c hc => ?_)) (fun h => hsends h.1)
        exact cmgfValue_of_mem_dispatched (P := fun v => v = none) hplain hc

/-- The callback leaves the modem in PDU mode if its command has reached the modem. -/
theorem init_mode {m : Modem} {env : Environment} (h : Configures m.ctx env)
    (meanwhile : ℕ → List MainLoopCommand) :
    (wireStep m (.dispatch .init env meanwhile)).1.mode = some pduMode := by
  rw [dispatch_mode]
  refine modeAfter_of_delivered (fun c hc => ?_) h
  exact cmgfValue_of_mem_dispatched (P := fun v => v = none ∨ v = some pduMode)
    selectsPdu_initializeCallback hc

/-- **When PDU mode is kept.** After the callback has configured the modem, in every run of calls,
commands of the driver's own thread and changes of the session: the format is PDU mode whenever
the event loop makes no call exactly if no message is sent. -/
theorem pdu_mode_kept_iff (m : Modem) (env : Environment) (meanwhile : ℕ → List MainLoopCommand)
    (hconfigured : Configures m.ctx env) (steps : List WireStep) :
    let configured := (wireStep m (.dispatch .init env meanwhile)).1
    (∀ before, before <+: steps → (run wireStep configured before).1.mode = some pduMode) ↔
      Along wireStep (fun m e => ¬ SelectsText m e) configured steps := by
  intro configured
  have hmode : configured.mode = some pduMode := init_mode hconfigured meanwhile
  rw [forall_prefix_iff (I := fun m : Modem => m.mode = some pduMode)]
  simp only [hmode, true_and]
  exact along_iff_of_invariant (fun m : Modem => m.mode = some pduMode)
    (fun m e hm => wireStep_mode m e hm) (fun m e _ h => h) hmode

def beforeInit : Modem := ⟨initSessionContext (some (ascii "ttyUSB0")) 0, none⟩

theorem configures_terse : Configures beforeInit.ctx .terse :=
  ⟨⟨ascii "AT+CMGF=0", true⟩, by decide +kernel, rfl, by decide⟩

def signalPoll : MainLoopCommand where
  text := ascii "AT+CSQ"
  delivered := true
  from_call := ⟨.terse, beforeInit.ctx, .modemTimer .initial, by decide⟩

/-- A message is stored, while the timer polls. -/
theorem pdu_mode_kept_storing :
    let configured := (wireStep beforeInit (.dispatch .init .terse (fun _ => []))).1
    let steps : List WireStep := [.dispatch (.request (.radioPower (some 1) 4) 1) .terse (fun _ => []),
      .mainLoop signalPoll,
      .dispatch (.request (.writeSmsToSim (some ⟨some (ascii "0011000A9121"), 1⟩)) 2) .terse
        (fun _ => [signalPoll])]
    Configures beforeInit.ctx .terse ∧ (run wireStep configured steps).1.mode = some pduMode := by
  intro configured steps
  have hnone : Along wireStep (fun m e => ¬ SelectsText m e) configured steps := by
    refine ⟨?_, id, ?_, trivial⟩
    · exact fun h => Bool.false_ne_true h.1
    · exact fun h => Bool.false_ne_true h.1
  have hkept : (∀ before, before <+: steps →
      (run wireStep configured before).1.mode = some pduMode) ↔
        Along wireStep (fun m e => ¬ SelectsText m e) configured steps :=
    pdu_mode_kept_iff beforeInit .terse (fun _ => []) configures_terse steps
  refine ⟨configures_terse, ?_⟩
  exact hkept.mpr hnone steps (List.prefix_refl steps)

/-- Power is turned on and a message is sent: the modem is left in text mode. -/
theorem text_mode_left_behind :
    let configured := (wireStep beforeInit (.dispatch .init .terse (fun _ => []))).1
    let steps : List WireStep := [.dispatch (.request (.radioPower (some 1) 4) 1) .terse (fun _ => []),
      .dispatch (.request (.sendSms (some ⟨none, some (ascii "0011000A9121")⟩)) 2) .terse (fun _ => [])]
    configured.mode = some pduMode ∧ (run wireStep configured steps).1.mode = some textMode ∧
      some textMode ≠ some pduMode := by
  refine ⟨init_mode configures_terse _, ?_, ?_⟩
  · decide +kernel
  · decide

end Fw100.Request
