import Fw100.Request.Handler

/-!
# What a request owes its caller

The completions and the stores past a buffer's end are what the caller of a request can
suffer from. `Shows` says which of them a part of a handler produces, in order, from every
state and without a fault; the lemmas here are about the parts that all handlers share.
-/
namespace Fw100.Request
open Library Text Channel Session

/-- What the caller notices. -/
inductive Mark where
  | completed (t : Token)
  | overran (buffer : FixedBuffer)
deriving DecidableEq, Repr

def Event.mark : Event → Option Mark
  | .complete t _ _ => some (.completed t)
  | .overrun buffer => some (.overran buffer)
  | _ => none

/-- From every state the part ends without a fault and shows exactly these marks. -/
abbrev Shows {α : Type} (env : Environment) (marks : List Mark) (m : RilM α)
    (R : α → Prop) : Prop :=
  Traced.Observes Event.mark env marks m R

abbrev Quiet {α : Type} (env : Environment) (m : RilM α) : Prop := Shows env [] m (fun _ => True)

/-- The one completion that a request owes. -/
abbrev Completes (env : Environment) (t : Token) (m : RilM Unit) : Prop :=
  Shows env [.completed t] m (fun _ => True)

variable {env : Environment}

theorem completes_complete (t : Token) (e : RilErrno) (data : ResponseData) :
    Completes env t (complete t e data) :=
  Traced.Observes.emit_seen rfl

theorem quiet_notify (n : Notification) : Quiet env (notify n) :=
  Traced.Observes.emit_silent rfl

theorem quiet_getCtx : Quiet env getCtx :=
  Traced.Observes.silent_bind .current (fun _ _ => .pure trivial)

theorem quiet_modifyCtx (f : SessionCtx → SessionCtx) : Quiet env (modifyCtx f) :=
  Traced.Observes.update

theorem quiet_atResponseFree (p : Pointer) : Quiet env (atResponseFree p) := by
  cases p with
  | none => exact .pure trivial
  | some held => exact .emit_silent rfl

theorem completes_completeThenFree (t : Token) (e : RilErrno) (data : ResponseData) (p : Pointer) :
    Completes env t (completeThenFree t e data p) :=
  .bind_silent (completes_complete t e data) (fun _ _ => quiet_atResponseFree p)

theorem completes_freeThenComplete (t : Token) (e : RilErrno) (data : ResponseData) (p : Pointer) :
    Completes env t (freeThenComplete t e data p) :=
  .silent_bind (quiet_atResponseFree p) (fun _ _ => completes_complete t e data)

theorem mark_commandEvent (call : Call) : (commandEvent call).mark = none := by
  unfold commandEvent
  split <;> rfl

/-- The response that a command hands out is all that may be seen of it. -/
theorem filterMap_obtainedEvent {κ : Type} {see : Event → Option κ} {id : ℕ}
    (h : see (.obtained id) = none) (out : OutParam) : (obtainedEvent id out).filterMap see = [] := by
  cases out with
  | response r => exact List.filterMap_cons_none h
  | _ => rfl

theorem mark_obtainedEvent (id : ℕ) (out : OutParam) :
    (obtainedEvent id out).filterMap Event.mark = [] := filterMap_obtainedEvent rfl out

/-- A command returns what one of the replies makes it return. -/
theorem shows_send (result : Call → Reply → ℤ × OutParam) (call : Call) (p : Pointer) :
    Shows env [] (send result call p) (fun x => ∃ reply id,
      x = ((result call reply).1, p.store id (result call reply).2)) := by
  intro s
  refine ⟨_, rfl, ?_, env.replies s.sent, s.sent, rfl⟩
  simp [send, mark_commandEvent, mark_obtainedEvent]

/-- A return value of zero comes with a response. -/
def Usable (err : ℤ) (p : Pointer) : Prop := err ≤ 0 ∧ (err = 0 → p.isSome)

def UsableLine (err : ℤ) (p : Pointer) : Prop :=
  Usable err p ∧
    ∀ held, p = some held → err = 0 → held.response.success = true →
      held.response.intermediates ≠ []

theorem SendError.code_neg (e : SendError) : e.code < 0 := by
  cases e <;> decide

theorem UsableLine.of_neg {err : ℤ} (h : err < 0) (p : Pointer) : UsableLine err p :=
  ⟨⟨h.le, fun h0 => absurd h0 h.ne⟩, fun _ _ h0 => absurd h0 h.ne⟩

theorem usable_unchecked {call : Call} (h : call.wantsResponse = true) (reply : Reply) (id : ℕ)
    (p : Pointer) :
    Usable (unchecked call reply).1 (p.store id (unchecked call reply).2) := by
  cases reply with
  | failed e => exact (UsableLine.of_neg (SendError.code_neg e) _).1
  | answered lines _ =>
    exact ⟨le_rfl, fun _ => by simp [unchecked, Reply.result, Call.out, h, Pointer.store]⟩
  | closed lines => exact (UsableLine.of_neg (show atErrorChannelClosed < 0 by decide) _).1

theorem usableLine_checked {call : Call} (h : call.wantsResponse = true) (reply : Reply) (id : ℕ)
    (p : Pointer) :
    UsableLine (checked call reply).1 (p.store id (checked call reply).2) := by
  cases reply with
  | failed e => exact .of_neg (SendError.code_neg e) _
  | answered lines _ =>
    simp only [checked, Reply.result, Call.out, h, if_true, Reply.checkIntermediate]
    split
    · exact .of_neg (by decide) _
    · next hcheck =>
      refine ⟨⟨le_rfl, fun _ => rfl⟩, ?_⟩
      rintro held hheld - hsuccess
      obtain rfl : ⟨id, call.assemble lines⟩ = held := by simpa [Pointer.store] using hheld
      have hsome : (call.assemble lines).success = true →
          (call.assemble lines).intermediates ≠ [] := by simpa using hcheck
      exact hsome hsuccess
  | closed lines =>
    have hcode : (atErrorChannelClosed == 0) = false := by decide
    simp only [checked, Reply.result, Call.out, h, if_true, Reply.checkIntermediate, hcode,
      Bool.false_and, Bool.false_eq_true, if_false]
    exact .of_neg (by decide) _

theorem shows_atSendCommand (command : CString) (p : Pointer) :
    Shows env [] (atSendCommand command p) (fun x => Usable x.1 x.2) := by
  apply (shows_send _ _ _).mono
  rintro _ ⟨reply, id, rfl⟩
  exact usable_unchecked rfl reply id p

theorem shows_atSendCommandMultiline (command responsePrefix : CString) (p : Pointer) :
    Shows env [] (atSendCommandMultiline command responsePrefix p)
      (fun x => Usable x.1 x.2) := by
  apply (shows_send _ _ _).mono
  rintro _ ⟨reply, id, rfl⟩
  exact usable_unchecked rfl reply id p

/-- The wrappers that check for an intermediate response. -/
theorem shows_send_checked {call : Call} (h : call.wantsResponse = true) (p : Pointer) :
    Shows env [] (send checked call p) (fun x => UsableLine x.1 x.2) := by
  apply (shows_send _ _ _).mono
  rintro _ ⟨reply, id, rfl⟩
  exact usableLine_checked h reply id p

theorem quiet_atSendCommandNull (command : CString) : Quiet env (atSendCommandNull command) :=
  Traced.Observes.silent_bind (shows_send _ _ _) (fun _ _ => .pure trivial)

/-- Both tests of a return value separate zero from the errors. -/
def TestsZero (failed : ℤ → Bool) : Prop := ∀ err ≤ 0, failed err = false ↔ err = 0

theorem testsZero_isNegative : TestsZero isNegative := by
  intro err hle
  simp only [isNegative, decide_eq_false_iff_not]
  omega

theorem testsZero_isNonzero : TestsZero isNonzero := by
  intro err _
  simp [isNonzero]

theorem shows_succeeded {failed : ℤ → Bool} (hf : TestsZero failed) {err : ℤ} {p : Pointer}
    (h : Usable err p) :
    Shows env [] (succeeded failed err p)
      (fun b => b = true → err = 0 ∧ ∃ held, p = some held ∧ held.response.success = true) := by
  cases p with
  | none =>
    have hfail : failed err = true := by
      by_contra hne
      have h0 := (hf err h.1).mp (by simpa using hne)
      simpa using h.2 h0
    simp only [succeeded, hfail, if_true]
    exact .pure (by simp)
  | some held =>
    refine .pure ?_
    intro hb
    obtain ⟨hok, hsuccess⟩ : failed err = false ∧ held.response.success = true := by
      simpa using hb
    exact ⟨(hf err h.1).mp hok, held, rfl, hsuccess⟩

theorem shows_firstIntermediate {held : Held} (h : held.response.intermediates ≠ []) :
    Quiet env (firstIntermediate (some held)) := by
  rcases List.exists_cons_of_ne_nil h with ⟨line, lines, hl⟩
  simp only [firstIntermediate, hl]
  exact .pure trivial

def replyLine (command responsePrefix : CString) : Reply → Option CString
  | .failed _ => none
  | .answered lines _ =>
    let r := (Call.singleline command responsePrefix true).assemble lines
    if r.success then r.intermediates.head? else none
  | .closed _ => none

theorem readReply_of_neg {failed : ℤ → Bool} (hf : TestsZero failed) {err : ℤ} (h : err < 0)
    (p : Pointer) (s : RequestState) :
    readReply failed err p env s = ⟨.ok (p, none), s, []⟩ := by
  have hfail : failed err = true := by
    by_contra hne
    have h0 := (hf err h.le).mp (by simpa using hne)
    omega
  cases p <;> simp [readReply, succeeded, hfail, bind, pure]

theorem readReply_zero {failed : ℤ → Bool} (hf : TestsZero failed) (held : Held)
    (h : held.response.success = true → held.response.intermediates ≠ []) (s : RequestState) :
    readReply failed 0 (some held) env s =
      ⟨.ok (some held, if held.response.success then held.response.intermediates.head? else none),
        s, []⟩ := by
  have hok : failed 0 = false := (hf 0 le_rfl).mpr rfl
  cases hs : held.response.success with
  | false => simp [readReply, succeeded, hok, hs, bind, pure]
  | true =>
    rcases List.exists_cons_of_ne_nil (h hs) with ⟨line, lines, hl⟩
    simp [readReply, succeeded, firstIntermediate, hok, hs, hl, bind, pure]

theorem readReply_checked (env : Environment) {failed : ℤ → Bool} (hf : TestsZero failed)
    (command responsePrefix : CString) (reply : Reply) (id : ℕ) (p : Pointer) (s : RequestState) :
    let r := checked (.singleline command responsePrefix true) reply
    readReply failed r.1 (p.store id r.2) env s =
      ⟨.ok (p.store id r.2, replyLine command responsePrefix reply), s, []⟩ := by
  intro r
  cases reply with
  | failed e => exact readReply_of_neg hf (SendError.code_neg e) _ s
  | closed lines => exact readReply_of_neg hf (show atErrorChannelClosed < 0 by decide) _ s
  | answered lines hfinal =>
    set response := (Call.singleline command responsePrefix true).assemble lines with hresponse
    have hr : r = if response.success && response.intermediates.isEmpty then
        (atErrorInvalidResponse, .null) else (0, .response response) := rfl
    have hline : replyLine command responsePrefix (.answered lines hfinal) =
        if response.success then response.intermediates.head? else none := rfl
    rw [hline]
    split at hr
    · next hempty =>
      obtain ⟨hsuccess, hnil⟩ : response.success = true ∧ response.intermediates = [] := by
        simpa using hempty
      rw [hr, if_pos hsuccess, hnil]
      exact readReply_of_neg hf (show atErrorInvalidResponse < 0 by decide) _ s
    · next hcheck =>
      rw [hr]
      exact readReply_zero hf ⟨id, response⟩ (by simpa using hcheck) s

/-- One query in full: its value, the command it sends and the response it obtains. -/
theorem queryLine_eq (env : Environment) {failed : ℤ → Bool} (hf : TestsZero failed)
    (command responsePrefix : CString) (p : Pointer) (s : RequestState) :
    let call := Call.singleline command responsePrefix true
    let out := (checked call (env.replies s.sent)).2
    queryLine failed command responsePrefix p env s =
      ⟨.ok (p.store s.sent out, replyLine command responsePrefix (env.replies s.sent)),
        { s with sent := s.sent + 1 }, commandEvent call :: obtainedEvent s.sent out⟩ := by
  intro call out
  have hsend : send checked call p env s =
      ⟨.ok ((checked call (env.replies s.sent)).1, p.store s.sent out),
        { s with sent := s.sent + 1 }, commandEvent call :: obtainedEvent s.sent out⟩ := rfl
  have hread := readReply_checked env hf command responsePrefix (env.replies s.sent) s.sent p
    { s with sent := s.sent + 1 }
  have hquery := Traced.bind_eq (f := fun x => readReply failed x.1 x.2) hsend
  dsimp only at hread
  rw [hread, List.append_nil] at hquery
  exact hquery

theorem quiet_queryLine {failed : ℤ → Bool} (hf : TestsZero failed)
    (command responsePrefix : CString) (p : Pointer) :
    Quiet env (queryLine failed command responsePrefix p) := by
  intro s
  refine ⟨_, by rw [queryLine_eq env hf], ?_, trivial⟩
  rw [queryLine_eq env hf]
  simp [mark_commandEvent, mark_obtainedEvent]

/-- What follows a query has to complete the request for every line that the query yields. -/
theorem completes_query {failed : ℤ → Bool} (hf : TestsZero failed)
    {command responsePrefix : CString} {p : Pointer} {t : Token}
    {f : Pointer × Option CString → RilM Unit} (h : ∀ p line, Completes env t (f (p, line))) :
    Completes env t (queryLine failed command responsePrefix p >>= f) :=
  .silent_bind (quiet_queryLine hf _ _ _) (fun x _ => h x.1 x.2)

/-! ### From one state -/

section Ends
variable {s : RequestState}

@[simp] theorem ends_complete {t : Token} {e : RilErrno} {data : ResponseData}
    {Q : Unit → RequestState → List Event → Prop} :
    Traced.Ends env s (complete t e data) Q ↔ Q () s [.complete t e data] :=
  Traced.ends_emit

@[simp] theorem ends_notify {n : Notification} {Q : Unit → RequestState → List Event → Prop} :
    Traced.Ends env s (notify n) Q ↔ Q () s [.notify n] :=
  Traced.ends_emit

@[simp] theorem ends_getCtx {Q : SessionCtx → RequestState → List Event → Prop} :
    Traced.Ends env s getCtx Q ↔ Q s.ctx s [] := by
  simp [getCtx]

@[simp] theorem ends_modifyCtx {f : SessionCtx → SessionCtx}
    {Q : Unit → RequestState → List Event → Prop} :
    Traced.Ends env s (modifyCtx f) Q ↔ Q () { s with ctx := f s.ctx } [] :=
  Traced.ends_update

@[simp] theorem ends_storeString {buffer : FixedBuffer} {size : ℕ} {text : CString}
    {Q : Unit → RequestState → List Event → Prop} :
    Traced.Ends env s (storeString buffer size text) Q ↔
      Q () s (if text.length < size then [] else [.overrun buffer]) := by
  unfold storeString
  split
  · exact Traced.ends_pure
  · exact Traced.ends_emit

@[simp] theorem ends_atResponseFree {p : Pointer} {Q : Unit → RequestState → List Event → Prop} :
    Traced.Ends env s (atResponseFree p) Q ↔
      Q () s (p.toList.map (fun held => .released held.id)) := by
  cases p with
  | none => exact Traced.ends_pure
  | some held => exact Traced.ends_emit

/-- One command without a place for the response, in full. -/
theorem atSendCommandNull_eq (env : Environment) (command : CString) (s : RequestState) :
    atSendCommandNull command env s =
      ⟨.ok (unchecked (.plain command false) (env.replies s.sent)).1,
        { s with sent := s.sent + 1 }, [.command command]⟩ := by
  have hout : (unchecked (.plain command false) (env.replies s.sent)).2 = .untouched := by
    cases env.replies s.sent <;> rfl
  have hsend : send unchecked (.plain command false) none env s =
      ⟨.ok ((unchecked (.plain command false) (env.replies s.sent)).1, none),
        { s with sent := s.sent + 1 }, [.command command]⟩ := by
    simp only [send, hout]
    rfl
  exact Traced.bind_eq hsend

@[simp] theorem ends_atSendCommandNull {command : CString}
    {Q : ℤ → RequestState → List Event → Prop} :
    Traced.Ends env s (atSendCommandNull command) Q ↔
      Q ((unchecked (.plain command false) (env.replies s.sent)).1) { s with sent := s.sent + 1 }
        [.command command] :=
  Traced.ends_of_eq (atSendCommandNull_eq env command s)

end Ends

theorem ends_query_bind {failed : ℤ → Bool} (hf : TestsZero failed)
    {command responsePrefix : CString} {p : Pointer} {α : Type} {s : RequestState}
    {f : Pointer × Option CString → RilM α} {Q : α → RequestState → List Event → Prop} :
    Traced.Ends env s (queryLine failed command responsePrefix p >>= f) Q ↔
      let call := Call.singleline command responsePrefix true
      let out := (checked call (env.replies s.sent)).2
      Traced.Ends env { s with sent := s.sent + 1 }
        (f (p.store s.sent out, replyLine command responsePrefix (env.replies s.sent)))
        (fun a s' es => Q a s' (commandEvent call :: obtainedEvent s.sent out ++ es)) := by
  have hquery := queryLine_eq env hf command responsePrefix p s
  dsimp only at hquery ⊢
  rw [Traced.ends_bind, Traced.Ends, hquery]
  simp

structure IgnoresQueries {κ : Type} (see : Event → Option κ) : Prop where
  command : ∀ text, see (.command text) = none
  obtained : ∀ id, see (.obtained id) = none

theorem ignoresQueries_mark : IgnoresQueries Event.mark := ⟨fun _ => rfl, fun _ => rfl⟩

def Event.answer : Event → Option (Token × RilErrno × ResponseData)
  | .complete t e data => some (t, e, data)
  | _ => none

theorem ignoresQueries_answer : IgnoresQueries Event.answer := ⟨fun _ => rfl, fun _ => rfl⟩

theorem answer_released (p : Pointer) :
    (p.toList.map (fun held => Event.released held.id)).filterMap Event.answer = [] := by
  cases p <;> rfl

theorem ends_completeThenFree_answer {t : Token} {e : RilErrno} {data : ResponseData} {p : Pointer}
    {s : RequestState} {Q : List (Token × RilErrno × ResponseData) → Prop} :
    Traced.Ends env s (completeThenFree t e data p) (fun _ _ es => Q (es.filterMap Event.answer)) ↔
      Q [(t, e, data)] := by
  rw [completeThenFree, Traced.ends_bind, ends_complete, ends_atResponseFree,
    List.filterMap_append, answer_released]
  rfl

/-- What an observer sees of a program that starts with a query is what it sees of the rest. -/
theorem ends_query_bind_seen {κ : Type} {see : Event → Option κ} (hsee : IgnoresQueries see)
    {failed : ℤ → Bool} (hf : TestsZero failed) {command responsePrefix : CString} {p : Pointer}
    {α : Type} {s : RequestState} {f : Pointer × Option CString → RilM α}
    {Q : α → RequestState → List κ → Prop} :
    Traced.Ends env s (queryLine failed command responsePrefix p >>= f)
        (fun a s' es => Q a s' (es.filterMap see)) ↔
      Traced.Ends env { s with sent := s.sent + 1 }
        (f (p.store s.sent (checked (.singleline command responsePrefix true)
          (env.replies s.sent)).2, replyLine command responsePrefix (env.replies s.sent)))
        (fun a s' es => Q a s' (es.filterMap see)) := by
  have hcommand : see (commandEvent (.singleline command responsePrefix true)) = none :=
    hsee.command command
  have hobtained : ∀ out, (obtainedEvent s.sent out).filterMap see = [] :=
    filterMap_obtainedEvent (hsee.obtained s.sent)
  rw [ends_query_bind hf]
  simp only [List.cons_append, List.filterMap_cons_none hcommand, List.filterMap_append, hobtained,
    List.nil_append]

/-- From this state the part ends without a fault, shows exactly these marks, and its value
and last state satisfy `R`. -/
abbrev ShowsAt {α : Type} (env : Environment) (s : RequestState) (marks : List Mark) (m : RilM α)
    (R : α → RequestState → Prop) : Prop :=
  Traced.Ends env s m (fun a s' es => es.filterMap Event.mark = marks ∧ R a s')

namespace ShowsAt
variable {α β : Type} {s : RequestState} {marks : List Mark}

theorem bind {marks' : List Mark} {m : RilM β} {f : β → RilM α} {S : β → RequestState → Prop}
    {R : α → RequestState → Prop} (hm : ShowsAt env s marks m S)
    (hf : ∀ b s', S b s' → ShowsAt env s' marks' (f b) R) :
    ShowsAt env s (marks ++ marks') (m >>= f) R := by
  rw [ShowsAt, Traced.ends_bind]
  apply Traced.Ends.mono hm
  rintro b s' es ⟨hes, hb⟩
  apply Traced.Ends.mono (hf b s' hb)
  rintro a s'' es' ⟨hes', ha⟩
  exact ⟨by rw [List.filterMap_append, hes, hes'], ha⟩

theorem silent_bind_iff {m : RilM β} {S : β → RequestState → Prop} (hm : ShowsAt env s [] m S) :
    ∃ b s', S b s' ∧ ∀ (marks : List Mark) (f : β → RilM α) (R : α → RequestState → Prop),
      ShowsAt env s marks (m >>= f) R ↔ ShowsAt env s' marks (f b) R := by
  rcases hm with ⟨b, hb, hes, hS⟩
  refine ⟨b, (m env s).state, hS, fun marks f R => ?_⟩
  rw [ShowsAt, Traced.ends_bind, Traced.Ends, hb]
  simp [hes]

theorem pure_bind {b : β} {f : β → RilM α} {R : α → RequestState → Prop} :
    ShowsAt env s marks (pure b >>= f) R ↔ ShowsAt env s marks (f b) R := by
  simp [ShowsAt]

theorem environment_bind {f : Environment → RilM α} {R : α → RequestState → Prop} :
    ShowsAt env s marks (Traced.environment >>= f) R ↔ ShowsAt env s marks (f env) R := by
  simp [ShowsAt]

theorem getCtx_bind {f : SessionCtx → RilM α} {R : α → RequestState → Prop} :
    ShowsAt env s marks (getCtx >>= f) R ↔ ShowsAt env s marks (f s.ctx) R := by
  simp [ShowsAt, getCtx]

theorem modifyCtx_bind {g : SessionCtx → SessionCtx} {f : Unit → RilM α}
    {R : α → RequestState → Prop} :
    ShowsAt env s marks (modifyCtx g >>= f) R ↔
      ShowsAt env { s with ctx := g s.ctx } marks (f ()) R := by
  simp [ShowsAt, modifyCtx]

theorem emit_bind {e : Event} (he : e.mark = none) {f : Unit → RilM α}
    {R : α → RequestState → Prop} :
    ShowsAt env s marks (Traced.emit e >>= f) R ↔ ShowsAt env s marks (f ()) R := by
  simp [ShowsAt, he]

theorem fitting_bind {buffer : FixedBuffer} {size : ℕ} {text : CString} (h : text.length < size)
    {f : Unit → RilM α} {R : α → RequestState → Prop} :
    ShowsAt env s marks (storeString buffer size text >>= f) R ↔ ShowsAt env s marks (f ()) R := by
  simp [ShowsAt, storeString, h]

/-- A completion and nothing else is shown only if the string fits. -/
theorem store_bind {buffer : FixedBuffer} {size : ℕ} {text : CString} {t : Token}
    {f : Unit → RilM α} {R : α → RequestState → Prop} :
    ShowsAt env s [.completed t] (storeString buffer size text >>= f) R ↔
      text.length < size ∧ ShowsAt env s [.completed t] (f ()) R := by
  by_cases h : text.length < size
  · simp [fitting_bind h, h]
  · simp only [h, false_and, iff_false]
    rw [ShowsAt, Traced.ends_bind, storeString, if_neg h, Traced.ends_emit]
    rintro ⟨_, -, hmarks, -⟩
    simp [Event.mark] at hmarks

theorem silent_bind {m : RilM β} {f : β → RilM α} {S : β → RequestState → Prop}
    {R : α → RequestState → Prop} (hm : ShowsAt env s [] m S)
    (hf : ∀ b s', S b s' → ShowsAt env s' marks (f b) R) : ShowsAt env s marks (m >>= f) R :=
  hm.bind hf

theorem of_shows {m : RilM α} {R : α → Prop} (h : Shows env marks m R) (s : RequestState) :
    ShowsAt env s marks m (fun a _ => R a) := h s

theorem query_bind {failed : ℤ → Bool} (hf : TestsZero failed) {command responsePrefix : CString}
    {p : Pointer} {f : Pointer × Option CString → RilM α} {R : α → RequestState → Prop} :
    ShowsAt env s marks (queryLine failed command responsePrefix p >>= f) R ↔
      ShowsAt env { s with sent := s.sent + 1 } marks
        (f (p.store s.sent (checked (.singleline command responsePrefix true)
          (env.replies s.sent)).2, replyLine command responsePrefix (env.replies s.sent))) R := by
  exact ends_query_bind_seen ignoresQueries_mark hf (Q := fun a s' seen => seen = marks ∧ R a s')

end ShowsAt

/-! ### Payloads -/

section Payload
variable {α : Type} {s : RequestState} {t : Token}

/-- A pointer that is followed has to point at something. -/
theorem showsAt_deref_bind_iff {data : Option α} {f : α → RilM Unit}
    {R : Unit → RequestState → Prop} :
    ShowsAt env s [.completed t] (deref data >>= f) R ↔
      ∃ a, data = some a ∧ ShowsAt env s [.completed t] (f a) R := by
  cases data with
  | none => simp [ShowsAt, deref]
  | some a => simp [deref_bind]

theorem showsAt_deref_iff {data : Option α} {f : α → RilM Unit} (hf : ∀ a, Completes env t (f a)) :
    ShowsAt env s [.completed t] (deref data >>= f) (fun _ _ => True) ↔ data.isSome = true := by
  rw [showsAt_deref_bind_iff, Option.isSome_iff_exists]
  exact exists_congr (fun a => and_iff_left (hf a s))

theorem showsAt_asserted_iff {datalen : ℕ} {data : Option α} {f : α → RilM Unit}
    (hf : ∀ a, Completes env t (f a)) :
    ShowsAt env s [.completed t]
        (if datalen < sizeofPointer then Traced.fault .assertion else deref data >>= f)
        (fun _ _ => True) ↔
      sizeofPointer ≤ datalen ∧ data.isSome = true := by
  split
  · next hshort => simp [ShowsAt, hshort.not_ge]
  · next hlong => rw [showsAt_deref_iff hf, and_iff_right (not_lt.mp hlong)]

theorem showsAt_derefStrings_iff {data : Option (List (Option CString))} {n : ℕ}
    {f : List (Option CString) → RilM Unit} (hf : ∀ strings, Completes env t (f strings)) :
    ShowsAt env s [.completed t] (derefStrings data n >>= f) (fun _ _ => True) ↔
      n ≤ (data.getD []).length := by
  unfold derefStrings
  split
  · next hzero =>
    rw [ShowsAt.pure_bind]
    exact iff_of_true (hf _ s) (by omega)
  · next hsome =>
    cases data with
    | none => simpa [ShowsAt, deref] using hsome
    | some strings =>
      rw [deref_bind, Option.getD_some]
      split
      · next hfits =>
        rw [ShowsAt.pure_bind]
        exact iff_of_true (hf _ s) hfits
      · next hlong => exact iff_of_false (by simp [ShowsAt]) hlong

end Payload

end Fw100.Request
