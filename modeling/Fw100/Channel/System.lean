import Fw100.Channel.Exchange
import Mathlib.Logic.Function.Basic

/-!
# Command threads and the reader thread

Any number of threads issue commands while the reader thread handles lines. One
event is one critical section of `s_commandmutex`, which the condition wait
splits in two. `at_handshake` keeps the mutex over its attempts and over the
pause at its end, except while it waits. A wake-up may come at any time; the
loop around the condition wait looks again whether it was meant.
-/
namespace Fw100.Channel
open Library Text

def handshakeRetryCount : ℕ := 8

/-- The command of `at_handshake`, whose response nobody looks at. -/
def handshakeCall : Call := ⟨ascii "ATE0Q0V1", .noResult, none, none, true, false, nofun⟩

/-- The function a thread is in: `at_send_command_full`, or `at_handshake` with
the number of attempts that are left after the present one. -/
inductive Job where
  | full (call : Call)
  | handshake (left : ℕ)

def Job.call : Job → Call
  | .full call => call
  | .handshake _ => handshakeCall

/-- A thread inside the condition wait. The number of its command line and the
lines handled since that was written are recorded for the specification only. -/
structure Wait where
  job : Job
  id : ℕ
  arrived : List CString

/-- The shared channel and the threads that wait on it; `written` counts the
command lines that went out. -/
structure System (τ : Type*) where
  channel : AtChannel
  waiting : τ → Option Wait
  written : ℕ
  crashed : Bool

structure Return (τ : Type*) where
  thread : τ
  job : Job
  id : ℕ
  err : ℤ
  out : OutParam

/-- The critical sections, with the results of the writes they may do. -/
inductive Event (τ : Type*) where
  | sendCommand (t : τ) (call : Call) (ws : List WriteResult)
  | handshake (t : τ) (ws : List WriteResult)
  | wake (t : τ) (ws : List WriteResult)
  | timeout (t : τ) (ws : List WriteResult)
  | line (l : CString)
  | readerClosed

/-- The attempts of `at_handshake` from one on: a failed one is followed at once
by the next. -/
def startAttempt (ch : AtChannel) : ℕ → List WriteResult → Progress × ℕ × AtChannel
  | 0, ws =>
    let (progress, ch, _) := beginCommand ch handshakeCall ws
    (progress, 0, ch)
  | left + 1, ws =>
    match beginCommand ch handshakeCall ws with
    | (.returned _ _, ch, ws) => startAttempt ch left ws
    | (progress, ch, _) => (progress, left + 1, ch)

def nextAttempt (ch : AtChannel) (err : ℤ) (out : OutParam) (ws : List WriteResult) :
    ℕ → Progress × ℕ × AtChannel
  | 0 => (.returned err out, 0, ch)
  | left + 1 =>
    if err = 0 then (.returned err out, left + 1, ch) else startAttempt ch left ws

namespace System
variable {τ : Type*} [DecidableEq τ]

def start : System τ := ⟨AtChannel.loaded.atOpen, fun _ => none, 0, false⟩

def settle (s : System τ) (t : τ) (id : ℕ) (job : Job) (progress : Progress) (ch : AtChannel) :
    System τ × Option (Return τ) :=
  match progress with
  | .waiting =>
    ({ s with
      channel := ch
      waiting := Function.update s.waiting t (some ⟨job, s.written, []⟩)
      written := s.written + 1 }, none)
  | .returned err out =>
    ({ s with channel := ch, waiting := Function.update s.waiting t none },
      some ⟨t, job, id, err, out⟩)
  | .crashed => ({ s with crashed := true }, none)

/-- The critical section of a waiting thread whose command is done or given up. -/
def finish (s : System τ) (t : τ) (w : Wait) (err : ℤ) (out : OutParam) (ch : AtChannel)
    (ws : List WriteResult) : System τ × Option (Return τ) :=
  match w.job with
  | .full call => s.settle t w.id (.full call) (.returned err out) ch
  | .handshake left =>
    let (progress, left, ch) := nextAttempt ch err out ws left
    s.settle t w.id (.handshake left) progress ch

def step (s : System τ) (e : Event τ) : System τ × Option (Return τ) :=
  if s.crashed then (s, none)
  else
    match e with
    | .sendCommand t call ws =>
      if (s.waiting t).isSome then (s, none)
      else
        let (progress, ch, _) := beginCommand s.channel call ws
        s.settle t s.written (.full call) progress ch
    | .handshake t ws =>
      if (s.waiting t).isSome then (s, none)
      else
        let (progress, left, ch) := startAttempt s.channel (handshakeRetryCount - 1) ws
        s.settle t s.written (.handshake left) progress ch
    | .wake t ws =>
      match s.waiting t with
      | none => (s, none)
      | some w =>
        match resume s.channel w.job.call with
        | (.waiting, _) => (s, none)
        | (.returned err out, ch) => s.finish t w err out ch ws
        | (.crashed, _) => ({ s with crashed := true }, none)
    | .timeout t ws =>
      match s.waiting t with
      | none => (s, none)
      | some w =>
        if w.job.call.timed then
          s.finish t w atErrorTimeout .untouched s.channel.clearPendingCommand ws
        else (s, none)
    | .line l =>
      ({ s with
        channel := (processLine s.channel l).1
        waiting := fun t => (s.waiting t).map (fun w => { w with arrived := w.arrived ++ [l] }) },
        none)
    | .readerClosed => ({ s with channel := s.channel.onReaderClosed }, none)

end System

/-- A command that is not rejected leaves a fresh pending command or none. -/
theorem beginCommand_cases {ch : AtChannel} (h : ch.response = none) (call : Call)
    (ws : List WriteResult) :
    (∃ ws', beginCommand ch call ws = (.waiting, ch.pend call, ws')) ∨
      ∃ err ws', beginCommand ch call ws =
        (.returned err .untouched, ch.clearPendingCommand, ws') ∧ err < 0 := by
  unfold beginCommand
  rw [h]
  cases hw : ch.writeline call.command ws with
  | mk err rest =>
    by_cases he : err < 0
    · exact .inr ⟨err, rest.2, by simp [he], he⟩
    · exact .inl ⟨rest.2, by simp [he]⟩

theorem startAttempt_cases {ch : AtChannel} (h : ch.response = none) (left : ℕ)
    (ws : List WriteResult) :
    (∃ (left' : ℕ) (ch' : AtChannel), ch'.fdOpen = ch.fdOpen ∧
      startAttempt ch left ws = (.waiting, left', ch'.pend handshakeCall)) ∨
      ∃ err < 0, startAttempt ch left ws =
        (.returned err .untouched, 0, ch.clearPendingCommand) := by
  induction left generalizing ch ws with
  | zero =>
    rcases beginCommand_cases h handshakeCall ws with ⟨ws', hb⟩ | ⟨err, ws', hb, he⟩
    · exact .inl ⟨0, ch, rfl, by simp [startAttempt, hb]⟩
    · exact .inr ⟨err, he, by simp [startAttempt, hb]⟩
  | succ left ih =>
    rcases beginCommand_cases h handshakeCall ws with ⟨ws', hb⟩ | ⟨err, ws', hb, -⟩
    · exact .inl ⟨left + 1, ch, rfl, by simp [startAttempt, hb]⟩
    · have heq : startAttempt ch (left + 1) ws = startAttempt ch.clearPendingCommand left ws' := by
        simp [startAttempt, hb]
      rw [heq]
      have hidle : ch.clearPendingCommand.response = none := rfl
      exact ih hidle ws'

/-- A handshake returns 0 only with the attempt that did. -/
theorem nextAttempt_cases {ch : AtChannel} (h : ch.response = none) (err : ℤ) (out : OutParam)
    (ws : List WriteResult) (left : ℕ) :
    (∃ (left' : ℕ) (ch' : AtChannel), ch'.fdOpen = ch.fdOpen ∧
      nextAttempt ch err out ws left = (.waiting, left', ch'.pend handshakeCall)) ∨
      nextAttempt ch err out ws left = (.returned err out, left, ch) ∨
      ∃ err' < 0, nextAttempt ch err out ws left =
        (.returned err' .untouched, 0, ch.clearPendingCommand) := by
  cases left with
  | zero => exact .inr (.inl rfl)
  | succ left =>
    by_cases he : err = 0
    · exact .inr (.inl (by simp [nextAttempt, he]))
    · have heq : nextAttempt ch err out ws (left + 1) = startAttempt ch left ws := by
        simp [nextAttempt, he]
      rw [heq]
      exact (startAttempt_cases h left ws).imp_right .inr

@[simp] theorem Job.call_full (call : Call) : (Job.full call).call = call := rfl
@[simp] theorem Job.call_handshake (left : ℕ) : (Job.handshake left).call = handshakeCall := rfl

namespace System
variable {τ : Type*} [DecidableEq τ]

/-- At most one thread waits, and the pending command is its own: the channel
holds what the lines that arrived for it amount to. -/
inductive Owned (s : System τ) : Prop where
  | idle (hc : s.crashed = false) (hr : s.channel.response = none) (hw : ∀ t, s.waiting t = none)
  | busy (t : τ) (w : Wait) (ch : AtChannel) (hc : s.crashed = false)
      (hch : s.channel = ch.after w.job.call w.arrived) (ht : s.waiting t = some w)
      (hw : ∀ t', t' ≠ t → s.waiting t' = none)

omit [DecidableEq τ] in
theorem owned_start : Owned (start : System τ) := .idle rfl rfl (fun _ => rfl)

def Enters (s : System τ) (t : τ) : Prop := s.crashed = false ∧ s.waiting t = none

/-- No command and no handshake is entered while a command is pending. -/
def NoOverlap (s : System τ) : Event τ → Prop
  | .sendCommand t _ _ => Enters s t → s.channel.response = none
  | .handshake t _ => Enters s t → s.channel.response = none
  | _ => True

omit [DecidableEq τ] in
theorem Owned.not_crashed {s : System τ} (h : Owned s) : s.crashed = false := by
  cases h <;> assumption

omit [DecidableEq τ] in
theorem Owned.waiting_eq_none {s : System τ} (h : Owned s) (hr : s.channel.response = none)
    (t : τ) : s.waiting t = none := by
  cases h with
  | idle _ _ hw => exact hw t
  | busy t' w ch _ hch => simp [hch, AtChannel.after] at hr

theorem Owned.of_waiting {s : System τ} (h : Owned s) {t : τ} {w : Wait}
    (ht : s.waiting t = some w) :
    (∃ ch : AtChannel, s.channel = ch.after w.job.call w.arrived) ∧
      ∀ t', t' ≠ t → s.waiting t' = none := by
  cases h with
  | idle _ _ hw => simp [hw t] at ht
  | busy t' w' ch _ hch ht' hw =>
    by_cases he : t = t'
    · subst he
      obtain rfl : w' = w := by simpa [ht'] using ht
      exact ⟨⟨ch, hch⟩, hw⟩
    · simp [hw t he] at ht

theorem step_wake_returned {s : System τ} (hc : s.crashed = false) {t : τ} {w : Wait}
    (ht : s.waiting t = some w) {err : ℤ} {out : OutParam} {ch : AtChannel}
    (hres : resume s.channel w.job.call = (.returned err out, ch)) (ws : List WriteResult) :
    step s (.wake t ws) = s.finish t w err out ch ws := by
  simp [step, hc, ht, hres]

/-- A call that does not overlap with a pending command: the thread waits for
another one anyway, or it writes its line, or the write fails. -/
theorem step_sendCommand_cases {s : System τ} (h : Owned s) {t : τ} {call : Call}
    {ws : List WriteResult} (hn : NoOverlap s (.sendCommand t call ws)) :
    step s (.sendCommand t call ws) = (s, none) ∨
      s.channel.response = none ∧
        (step s (.sendCommand t call ws) =
          ({ s with
            channel := s.channel.pend call
            waiting := Function.update s.waiting t (some ⟨.full call, s.written, []⟩)
            written := s.written + 1 }, none) ∨
        ∃ err < 0, step s (.sendCommand t call ws) =
          ({ s with
            channel := s.channel.clearPendingCommand
            waiting := Function.update s.waiting t none },
            some ⟨t, .full call, s.written, err, .untouched⟩)) := by
  have hc := h.not_crashed
  by_cases hin : s.waiting t = none
  · have hr := hn ⟨hc, hin⟩
    refine .inr ⟨hr, ?_⟩
    rcases beginCommand_cases hr call ws with ⟨ws', hb⟩ | ⟨err, ws', hb, he⟩
    · exact .inl (by simp [step, hc, hin, hb, settle])
    · exact .inr ⟨err, he, by simp [step, hc, hin, hb, settle]⟩
  · exact .inl (by simp [step, hc, Option.isSome_iff_ne_none.mpr hin])

/-- What a critical section can do to an owned system. -/
inductive Transition (s : System τ) : System τ × Option (Return τ) → Prop where
  | stay : Transition s (s, none)
  | enter (t : τ) (job : Job) (ch : AtChannel) (hw : ∀ t', t' ≠ t → s.waiting t' = none)
      (hfd : ch.fdOpen = s.channel.fdOpen) :
      Transition s
        ({ s with
          channel := ch.pend job.call
          waiting := Function.update s.waiting t (some ⟨job, s.written, []⟩)
          written := s.written + 1 }, none)
  | leave (t : τ) (job : Job) (id : ℕ) (err : ℤ) (out : OutParam) (ch : AtChannel)
      (hw : ∀ t', t' ≠ t → s.waiting t' = none) (hr : ch.response = none)
      (hfd : ch.fdOpen = s.channel.fdOpen) (h0 : err = 0 → ch.readerClosed = false) :
      Transition s
        ({ s with channel := ch, waiting := Function.update s.waiting t none },
          some ⟨t, job, id, err, out⟩)
  | line (l : CString) :
      Transition s
        ({ s with
          channel := (processLine s.channel l).1
          waiting := fun t => (s.waiting t).map (fun w => { w with arrived := w.arrived ++ [l] }) },
          none)
  | closed : Transition s ({ s with channel := s.channel.onReaderClosed }, none)

theorem finish_transition {s : System τ} {t : τ} (hw : ∀ t', t' ≠ t → s.waiting t' = none)
    (w : Wait) {err : ℤ} (out : OutParam) {ch : AtChannel} (hr : ch.response = none)
    (hfd : ch.fdOpen = s.channel.fdOpen) (h0 : err = 0 → ch.readerClosed = false)
    (ws : List WriteResult) : Transition s (s.finish t w err out ch ws) := by
  unfold finish
  cases w.job with
  | full call => exact .leave t (.full call) w.id err out ch hw hr hfd h0
  | handshake left =>
    rcases nextAttempt_cases hr err out ws left with ⟨left', ch', hfd', hn⟩ | hn | ⟨err', he, hn⟩
    · simp only [hn]
      exact .enter t (.handshake left') ch' hw (hfd'.trans hfd)
    · simp only [hn]
      exact .leave t (.handshake left) w.id err out ch hw hr hfd h0
    · simp only [hn]
      exact .leave t (.handshake 0) w.id err' .untouched ch.clearPendingCommand hw rfl hfd
        fun h => absurd h he.ne

theorem Transition.of_stay {s : System τ} {next : System τ × Option (Return τ)}
    (h : next = (s, none)) : Transition s next := by
  rw [h]
  exact .stay

theorem handshake_transition {s : System τ} {t : τ} {ws : List WriteResult} (h : Owned s)
    (hn : NoOverlap s (.handshake t ws)) : Transition s (step s (.handshake t ws)) := by
  have hc := h.not_crashed
  by_cases hin : s.waiting t = none
  · have hr := hn ⟨hc, hin⟩
    obtain ⟨left, ch, hfd, hb⟩ | ⟨err, he, hb⟩ :=
      startAttempt_cases hr (handshakeRetryCount - 1) ws
    · have heq : step s (.handshake t ws) = s.settle t s.written (.handshake left) .waiting
          (ch.pend handshakeCall) := by simp [step, hc, hin, hb]
      rw [heq]
      exact .enter t (.handshake left) ch (fun t' _ => h.waiting_eq_none hr t') hfd
    · have heq : step s (.handshake t ws) = s.settle t s.written (.handshake 0)
          (.returned err .untouched) s.channel.clearPendingCommand := by
        simp [step, hc, hin, hb]
      rw [heq]
      exact .leave t (.handshake 0) s.written err .untouched _
        (fun t' _ => h.waiting_eq_none hr t') rfl rfl fun h0 => absurd h0 he.ne
  · exact .of_stay (by simp [step, hc, Option.isSome_iff_ne_none.mpr hin])

/-- A thread that is woken leaves with what has arrived, or goes on waiting. -/
theorem wake_transition {s : System τ} (h : Owned s) (t : τ) (ws : List WriteResult) :
    Transition s (step s (.wake t ws)) := by
  have hc := h.not_crashed
  cases ht : s.waiting t with
  | none => exact .of_stay (by simp [step, hc, ht])
  | some w =>
    rcases h.of_waiting ht with ⟨⟨ch, hch⟩, hw⟩
    have hres := resume_after ch w.job.call w.arrived
    rw [← hch] at hres
    split at hres
    · exact .of_stay (by simp [step, hc, ht, hres])
    · rw [step_wake_returned hc ht hres ws]
      refine finish_transition hw w _ rfl (by rw [hch]; rfl) (fun h0 => ?_) ws
      cases hcl : ch.readerClosed with
      | false => exact hcl
      | true => simp [hcl, atErrorChannelClosed] at h0

theorem timeout_transition {s : System τ} (h : Owned s) (t : τ) (ws : List WriteResult) :
    Transition s (step s (.timeout t ws)) := by
  have hc := h.not_crashed
  cases ht : s.waiting t with
  | none => exact .of_stay (by simp [step, hc, ht])
  | some w =>
    rcases h.of_waiting ht with ⟨-, hw⟩
    by_cases htimed : w.job.call.timed = true
    · have heq : step s (.timeout t ws) =
          s.finish t w atErrorTimeout .untouched s.channel.clearPendingCommand ws := by
        simp [step, hc, ht, htimed]
      rw [heq]
      have hne : atErrorTimeout ≠ 0 := by decide
      have hidle : s.channel.clearPendingCommand.response = none := rfl
      exact finish_transition hw w _ hidle rfl (fun h0 => absurd h0 hne) ws
    · exact .of_stay (by simp [step, hc, ht, htimed])

theorem step_transition {s : System τ} {e : Event τ} (h : Owned s) (hn : NoOverlap s e) :
    Transition s (step s e) := by
  have hc := h.not_crashed
  cases e with
  | sendCommand t call ws =>
    obtain heq | ⟨hr, heq | ⟨err, he, heq⟩⟩ := step_sendCommand_cases h hn
    · exact .of_stay heq
    · rw [heq]
      exact .enter t (.full call) s.channel (fun t' _ => h.waiting_eq_none hr t') rfl
    · rw [heq]
      exact .leave t (.full call) s.written err .untouched _
        (fun t' _ => h.waiting_eq_none hr t') rfl rfl fun h0 => absurd h0 he.ne
  | handshake t ws => exact handshake_transition h hn
  | wake t ws => exact wake_transition h t ws
  | timeout t ws => exact timeout_transition h t ws
  | line l =>
    have htr := Transition.line (s := s) l
    simpa [step, hc] using htr
  | readerClosed =>
    have htr := Transition.closed (s := s)
    simpa [step, hc] using htr

theorem Transition.owned {s : System τ} {next : System τ × Option (Return τ)}
    (h : Transition s next) (ho : Owned s) : Owned next.1 := by
  have hc := ho.not_crashed
  cases h with
  | stay => exact ho
  | enter t job ch hw =>
    refine .busy t ⟨job, s.written, []⟩ ch hc (ch.after_nil job.call).symm (by simp) fun t' h => ?_
    simp [h, hw t' h]
  | leave t job id err out ch hw hr =>
    refine .idle hc hr fun t' => ?_
    by_cases h : t' = t
    · simp [h]
    · simp [h, hw t' h]
  | line l =>
    cases ho with
    | idle _ hr hw => exact .idle hc (by simp [processLine, hr]) (fun t => by simp [hw t])
    | busy t w ch _ hch ht hw =>
      refine .busy t { w with arrived := w.arrived ++ [l] } ch hc ?_ (by simp [ht])
        fun t' h => by simp [hw t' h]
      simp [hch, processLine_after]
  | closed =>
    cases ho with
    | idle _ hr hw => exact .idle hc hr hw
    | busy t w ch _ hch ht hw => exact .busy t w ch.onReaderClosed hc (by rw [hch]; rfl) ht hw

theorem step_owned {s : System τ} {e : Event τ} (h : Owned s) (hn : NoOverlap s e) :
    Owned (step s e).1 :=
  (step_transition h hn).owned h

def RejectionKeeps (ch : AtChannel) (call : Call) (ws : List WriteResult) : Prop :=
  (beginCommand ch call ws).1 = .returned atErrorCommandPending .untouched →
    (beginCommand ch call ws).2.1 = ch

/-- The thread goes on waiting as long as no final response arrived for it, and
then returns the response of the lines that arrived. -/
def Undisturbed (s : System τ) (t : τ) (ws : List WriteResult) : Prop :=
  (step s (.wake t ws)).1.crashed = false ∧
    ∀ call id arrived, s.waiting t = some ⟨.full call, id, arrived⟩ →
      if (lastFinal arrived).isNone && !s.channel.readerClosed then step s (.wake t ws) = (s, none)
      else
        (step s (.wake t ws)).2 = some ⟨t, .full call, id,
          if s.channel.readerClosed then atErrorChannelClosed else 0,
          if call.wantsResponse then .response (call.assemble arrived) else .untouched⟩

/-- The pending command does not notice what the other threads do. -/
def Faithful (s : System τ) : Event τ → Prop
  | .sendCommand t call ws => Enters s t → RejectionKeeps s.channel call ws
  | .handshake t ws => Enters s t → RejectionKeeps s.channel handshakeCall ws
  | .wake t ws => s.crashed = false → Undisturbed s t ws
  | _ => True

theorem writeline_err_ne_pending (ch : AtChannel) (s : CString) (ws : List WriteResult) :
    (ch.writeline s ws).1 ≠ atErrorCommandPending := by
  unfold AtChannel.writeline AtChannel.writeTerminated
  split
  · simp [atErrorChannelClosed, atErrorCommandPending]
  · split
    · simp [atErrorGeneric, atErrorCommandPending]
    · split
      · simp [atErrorGeneric, atErrorCommandPending]
      · simp [atErrorCommandPending]

theorem rejectionKeeps_iff (ch : AtChannel) (call : Call) (ws : List WriteResult) :
    RejectionKeeps ch call ws ↔ ch.response = none := by
  constructor
  · intro h
    by_contra hr
    have hsome := Option.isSome_iff_ne_none.mpr hr
    have hkeep := h (by simp [beginCommand, hsome])
    simp only [beginCommand, hsome, if_true] at hkeep
    exact hr (congrArg AtChannel.response hkeep).symm
  · intro hr hrej
    exfalso
    have hne := writeline_err_ne_pending ch call.command ws
    revert hrej hne
    cases hwl : ch.writeline call.command ws with
    | mk err rest =>
      by_cases he : err < 0
      · simp [beginCommand, hr, hwl, he]
      · simp [beginCommand, hr, hwl, he]

theorem step_wake_full {s : System τ} (h : Owned s) {t : τ} {call : Call} {id : ℕ}
    {arrived : List CString} (ht : s.waiting t = some ⟨.full call, id, arrived⟩)
    (ws : List WriteResult) :
    step s (.wake t ws) =
      if (lastFinal arrived).isNone && !s.channel.readerClosed then (s, none)
      else
        ({ s with
          channel := s.channel.clearPendingCommand
          waiting := Function.update s.waiting t none },
          some ⟨t, .full call, id, if s.channel.readerClosed then atErrorChannelClosed else 0,
            if call.wantsResponse then .response (call.assemble arrived) else .untouched⟩) := by
  have hc := h.not_crashed
  rcases h.of_waiting ht with ⟨⟨ch, hch⟩, -⟩
  have hclosed : s.channel.readerClosed = ch.readerClosed := by rw [hch]; rfl
  have hclear : s.channel.clearPendingCommand = (ch.pend call).clearPendingCommand := by
    rw [hch]; rfl
  have hres := resume_after ch call arrived
  simp only [Job.call_full] at hch
  rw [← hch, ← hclosed, ← hclear] at hres
  split
  · next hwait =>
    rw [if_pos hwait] at hres
    simp [step, hc, ht, hres]
  · next hwait =>
    rw [if_neg hwait] at hres
    simp [step, hc, ht, hres, finish, settle]

theorem undisturbed_of_owned {s : System τ} (h : Owned s) (t : τ) (ws : List WriteResult) :
    Undisturbed s t ws := by
  refine ⟨(step_owned (e := .wake t ws) h trivial).not_crashed, fun call id arrived ht => ?_⟩
  rw [step_wake_full h ht ws]
  split <;> rfl

/-- A run leaves the pending command alone exactly when no call is made while
one is pending. -/
theorem pending_kept_iff_no_overlap (es : List (Event τ)) :
    Along step Faithful (start : System τ) es ↔ Along step NoOverlap (start : System τ) es := by
  constructor
  · refine Along.mono fun s e hf => ?_
    cases e with
    | sendCommand t call ws => exact fun hin => (rejectionKeeps_iff _ _ _).mp (hf hin)
    | handshake t ws => exact fun hin => (rejectionKeeps_iff _ _ _).mp (hf hin)
    | wake t ws => trivial
    | timeout t ws => trivial
    | line l => trivial
    | readerClosed => trivial
  · refine Along.of_invariant Owned (fun s e ho hn => ⟨?_, step_owned ho hn⟩) owned_start
    cases e with
    | sendCommand t call ws => exact fun hin => (rejectionKeeps_iff _ _ _).mpr (hn hin)
    | handshake t ws => exact fun hin => (rejectionKeeps_iff _ _ _).mpr (hn hin)
    | wake t ws => exact fun _ => undisturbed_of_owned ho t ws
    | timeout t ws => trivial
    | line l => trivial
    | readerClosed => trivial

/-- While `AT+CSQ` is pending a second thread sends `AT+CREG?`. The first thread
then waits on a response that is gone. -/
theorem pending_destroyed_by_second_thread :
    let calls : List (Event Bool) :=
      [.sendCommand true (.singleline (ascii "AT+CSQ") (ascii "+CSQ:") true) [],
        .sendCommand false (.singleline (ascii "AT+CREG?") (ascii "+CREG:") true) []]
    ¬ Along step Faithful start calls ∧
      (run step start (calls ++ [.wake true []])).1.crashed = true := by
  refine ⟨?_, by decide⟩
  rintro ⟨-, h, -⟩
  have hin : Enters (step (start : System Bool)
      (.sendCommand true (.singleline (ascii "AT+CSQ") (ascii "+CSQ:") true) [])).1 false :=
    ⟨rfl, rfl⟩
  have hkeep := (rejectionKeeps_iff _ _ _).mp (h hin)
  exact absurd hkeep (by decide)

end System

end Fw100.Channel
