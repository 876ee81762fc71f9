import Fw100.Channel.Reader
import Fw100.Session.Context

/-!
# Unsolicited lines

`onUnsolicited`, which the channel calls on the reader thread, and the agreement
of its prefixes with those by which the reader loop and `processLine` sort lines.
-/
namespace Fw100.Session
open Text Channel

inductive UnsolEvent where
  | notify (n : Notification)
  | writeGPSFifo (sentence : CString)
  | writeGPSTty (sentence : CString)
deriving DecidableEq, Repr

inductive NullString where
  | smsPdu
  | nitzResponse
deriving DecidableEq, Repr

/-- The branch for network time: the first token of the line is forwarded. -/
def onNitzTime (s : CString) : Except NullString (List UnsolEvent) :=
  let line := (atTokStart (some s)).2
  let tok := atTokNextstr line
  if tok.err ≠ 0 then .ok []
  else
    match tok.out with
    | some (some response) => .ok [.notify (.nitzTimeReceived response)]
    | _ => .error .nitzResponse

/-- The branches that forward the second line of a message. -/
def forwardSms (kind : CString → Notification) : Option CString → Except NullString (List UnsolEvent)
  | none => .error .smsPdu
  | some pdu => .ok [.notify (kind pdu)]

def onUnsolicited (ctx : SessionCtx) (s : CString) (smsPdu : Option CString) :
    Except NullString (SessionCtx × List UnsolEvent) :=
  if ctx.sState = .unavailable then .ok (ctx, [])
  else if strStartsWith s (ascii "%CTZV:") then (onNitzTime s).map (fun es => (ctx, es))
  else if strStartsWith s (ascii "+CRING:") || strStartsWith s (ascii "RING")
      || strStartsWith s (ascii "NO CARRIER") || strStartsWith s (ascii "+CCWA") then
    .ok (ctx, [])
  else if strStartsWith s (ascii "+CREG:") || strStartsWith s (ascii "+CGREG:") then
    .ok (ctx, [.notify .networkStateChanged])
  else if strStartsWith s (ascii "+CMT:") then
    (forwardSms .newSms smsPdu).map (fun es => (ctx, es))
  else if strStartsWith s (ascii "+CDS:") then
    (forwardSms .newSmsStatusReport smsPdu).map (fun es => (ctx, es))
  else if strStartsWith s (ascii "^ORIG:") then .ok (ctx, [])
  else if strStartsWith s (ascii "^OTACMSG:") then
    .ok ({ ctx with otaMsgCnt := ctx.otaMsgCnt + 1, otaMsg := .copy 64 s }, [])
  else if strStartsWith s (ascii "^CONN:") then .ok (ctx, [])
  else if strStartsWith s (ascii "^CEND:") then .ok (ctx, [])
  else if strStartsWith s (ascii "$GP") then
    .ok (ctx, (if ctx.gpsFifoEnable then [.writeGPSFifo s] else []) ++
      if ctx.gpsTtyEnable then [.writeGPSTty s] else [])
  else .ok (ctx, [])

/-- The arguments with which `onUnsolicited` does not look behind a `NULL` pointer. -/
def SafeArguments (s : CString) (smsPdu : Option CString) : Prop :=
  isSMSUnsolicited s = true → smsPdu.isSome = true

theorem isSMSUnsolicited_of_forwarded {s : CString}
    (h : strStartsWith s (ascii "+CMT:") = true ∨ strStartsWith s (ascii "+CDS:") = true) :
    isSMSUnsolicited s = true := by
  rw [isSMSUnsolicited, startsWithAny, List.any_eq_true]
  obtain h | h := h
  · exact ⟨_, List.mem_cons_self, h⟩
  · exact ⟨_, List.mem_cons_of_mem _ List.mem_cons_self, h⟩

theorem nitz_token {s : CString} (h : strStartsWith s (ascii "%CTZV:") = true) :
    ∃ response, (atTokNextstr (atTokStart (some s)).2).out = some (some response) := by
  have hpre : ascii "%CTZV" ++ [58] <+: s := (strStartsWith_iff _ _).mp h
  rcases atTokStart_of_prefix hpre with ⟨rest, hstart⟩
  rcases nextTok_some rest with ⟨tok, cur, htok⟩
  exact ⟨tok, by simp [hstart, atTokNextstr, htok]⟩

theorem onNitzTime_ok {s : CString} (h : strStartsWith s (ascii "%CTZV:") = true) :
    ∃ es, onNitzTime s = .ok es := by
  rcases nitz_token h with ⟨response, hout⟩
  unfold onNitzTime
  dsimp only
  rw [hout]
  split <;> exact ⟨_, rfl⟩

theorem exists_ok_ite {ε α : Type*} {p : Prop} [Decidable p] {x y : Except ε α}
    (hx : p → ∃ a, x = .ok a) (hy : ∃ a, y = .ok a) : ∃ a, (if p then x else y) = .ok a := by
  by_cases h : p
  · simpa [h] using hx h
  · simpa [h] using hy

theorem onUnsolicited_ok {s : CString} {smsPdu : Option CString} (h : SafeArguments s smsPdu)
    (ctx : SessionCtx) : ∃ result, onUnsolicited ctx s smsPdu = .ok result := by
  have hsms : strStartsWith s (ascii "+CMT:") = true ∨ strStartsWith s (ascii "+CDS:") = true →
      ∃ pdu, smsPdu = some pdu := by
    intro hs
    rw [← Option.isSome_iff_exists]
    exact h (isSMSUnsolicited_of_forwarded hs)
  unfold onUnsolicited
  apply exists_ok_ite (fun _ => ⟨_, rfl⟩)
  refine exists_ok_ite (fun hz => ?_) ?_
  · rcases onNitzTime_ok hz with ⟨es, hes⟩
    exact ⟨_, by rw [hes]; rfl⟩
  apply exists_ok_ite (fun _ => ⟨_, rfl⟩)
  apply exists_ok_ite (fun _ => ⟨_, rfl⟩)
  refine exists_ok_ite (fun hm => ?_) ?_
  · rcases hsms (.inl hm) with ⟨pdu, rfl⟩
    exact ⟨_, rfl⟩
  refine exists_ok_ite (fun hd => ?_) ?_
  · rcases hsms (.inr hd) with ⟨pdu, rfl⟩
    exact ⟨_, rfl⟩
  apply exists_ok_ite (fun _ => ⟨_, rfl⟩)
  apply exists_ok_ite (fun _ => ⟨_, rfl⟩)
  apply exists_ok_ite (fun _ => ⟨_, rfl⟩)
  apply exists_ok_ite (fun _ => ⟨_, rfl⟩)
  exact exists_ok_ite (fun _ => ⟨_, rfl⟩) ⟨_, rfl⟩

/-- A call of `onUnsolicited` as the reader thread makes it. -/
structure ReaderLine where
  s : CString
  smsPdu : Option CString
  safe : SafeArguments s smsPdu

namespace ReaderLine

/-- What the handler makes of the line. With such arguments it returns. -/
def handle (line : ReaderLine) (ctx : SessionCtx) : SessionCtx × List UnsolEvent :=
  match onUnsolicited ctx line.s line.smsPdu with
  | .ok result => result
  | .error _ => (ctx, [])

/-- The line announces a step of the activation, and the session takes notice of it. -/
def Announces (line : ReaderLine) (ctx : SessionCtx) : Prop :=
  ctx.sState ≠ .unavailable ∧ strStartsWith line.s (ascii "^OTACMSG:") = true

theorem handle_of_announces {line : ReaderLine} {ctx : SessionCtx} (h : line.Announces ctx) :
    line.handle ctx =
      ({ ctx with otaMsgCnt := ctx.otaMsgCnt + 1, otaMsg := .copy 64 line.s }, []) := by
  rcases line with ⟨s, smsPdu, safe⟩
  rcases h with ⟨hstate, hs⟩
  rcases (strStartsWith_iff _ _).mp hs with ⟨rest, rfl⟩
  simp [handle, onUnsolicited, hstate, ascii, strStartsWith]

/-- A result with the given context, unless it is an error. -/
def Keeps (ctx : SessionCtx) (x : Except NullString (SessionCtx × List UnsolEvent)) : Prop :=
  ∀ result, x = .ok result → result.1 = ctx

theorem keeps_ok (ctx : SessionCtx) (es : List UnsolEvent) : Keeps ctx (.ok (ctx, es)) := by
  rintro _ ⟨⟩
  rfl

theorem keeps_map (ctx : SessionCtx) (r : Except NullString (List UnsolEvent)) :
    Keeps ctx (r.map (fun es => (ctx, es))) := by
  intro result h
  cases r with
  | error e => simp [Except.map] at h
  | ok es =>
    simp only [Except.map, Except.ok.injEq] at h
    rw [← h]

theorem Keeps.ite {ctx : SessionCtx} {p : Prop} [Decidable p]
    {x y : Except NullString (SessionCtx × List UnsolEvent)} (hx : Keeps ctx x)
    (hy : Keeps ctx y) : Keeps ctx (if p then x else y) := by
  by_cases h : p
  · simpa [h] using hx
  · simpa [h] using hy

/-- Every branch but one leaves the context as it is. -/
theorem keeps_onUnsolicited {s : CString} (hota : strStartsWith s (ascii "^OTACMSG:") = false)
    (ctx : SessionCtx) (smsPdu : Option CString) : Keeps ctx (onUnsolicited ctx s smsPdu) := by
  unfold onUnsolicited
  apply Keeps.ite (keeps_ok _ _)
  apply Keeps.ite (keeps_map _ _)
  apply Keeps.ite (keeps_ok _ _)
  apply Keeps.ite (keeps_ok _ _)
  apply Keeps.ite (keeps_map _ _)
  apply Keeps.ite (keeps_map _ _)
  apply Keeps.ite (keeps_ok _ _)
  rw [hota, if_neg Bool.false_ne_true]
  apply Keeps.ite (keeps_ok _ _)
  apply Keeps.ite (keeps_ok _ _)
  exact Keeps.ite (keeps_ok _ _) (keeps_ok _ _)

theorem handle_of_not_announces {line : ReaderLine} {ctx : SessionCtx}
    (h : ¬ line.Announces ctx) : (line.handle ctx).1 = ctx := by
  unfold handle
  by_cases hstate : ctx.sState = .unavailable
  · simp [onUnsolicited, hstate]
  · have hota : strStartsWith line.s (ascii "^OTACMSG:") = false := by
      simpa [Announces, hstate] using h
    split
    · next result hresult => exact keeps_onUnsolicited hota _ _ _ hresult
    · rfl

/-- Only the record of the activation changes. -/
theorem exists_handle (line : ReaderLine) (ctx : SessionCtx) :
    ∃ cnt msg, (line.handle ctx).1 = { ctx with otaMsgCnt := cnt, otaMsg := msg } := by
  by_cases h : line.Announces ctx
  · rw [handle_of_announces h]
    exact ⟨_, _, rfl⟩
  · rw [handle_of_not_announces h]
    exact ⟨ctx.otaMsgCnt, ctx.otaMsg, rfl⟩

end ReaderLine

/-- The lines that the reader thread handles one after the other. -/
def handleAll (lines : List ReaderLine) (ctx : SessionCtx) : SessionCtx :=
  lines.foldl (fun ctx line => (line.handle ctx).1) ctx

section HandleAll
variable (lines : List ReaderLine) (ctx : SessionCtx)

theorem exists_handleAll :
    ∃ cnt msg, handleAll lines ctx = { ctx with otaMsgCnt := cnt, otaMsg := msg } := by
  induction lines generalizing ctx with
  | nil => exact ⟨ctx.otaMsgCnt, ctx.otaMsg, rfl⟩
  | cons line lines ih =>
    rcases line.exists_handle ctx with ⟨cnt, msg, hline⟩
    rcases ih (line.handle ctx).1 with ⟨cnt', msg', hrest⟩
    rw [hline] at hrest
    exact ⟨cnt', msg', by rw [← hrest, ← hline]; rfl⟩

@[simp] theorem handleAll_sState : (handleAll lines ctx).sState = ctx.sState := by
  rcases exists_handleAll lines ctx with ⟨cnt, msg, h⟩
  rw [h]

@[simp] theorem handleAll_meid : (handleAll lines ctx).meid = ctx.meid := by
  rcases exists_handleAll lines ctx with ⟨cnt, msg, h⟩
  rw [h]

@[simp] theorem handleAll_mdn : (handleAll lines ctx).mdn = ctx.mdn := by
  rcases exists_handleAll lines ctx with ⟨cnt, msg, h⟩
  rw [h]

@[simp] theorem handleAll_carrier : (handleAll lines ctx).carrier = ctx.carrier := by
  rcases exists_handleAll lines ctx with ⟨cnt, msg, h⟩
  rw [h]

@[simp] theorem handleAll_moduleAutoActivate :
    (handleAll lines ctx).moduleAutoActivate = ctx.moduleAutoActivate := by
  rcases exists_handleAll lines ctx with ⟨cnt, msg, h⟩
  rw [h]

@[simp] theorem handleAll_moduleIsActivated :
    (handleAll lines ctx).moduleIsActivated = ctx.moduleIsActivated := by
  rcases exists_handleAll lines ctx with ⟨cnt, msg, h⟩
  rw [h]

@[simp] theorem handleAll_moduleActivateRetry :
    (handleAll lines ctx).moduleActivateRetry = ctx.moduleActivateRetry := by
  rcases exists_handleAll lines ctx with ⟨cnt, msg, h⟩
  rw [h]

variable {lines ctx}

/-- What holds of the stored message and of each that is announced holds of the last one. -/
theorem otaMsg_handleAll {P : CharArray 64 → Prop} (hctx : P ctx.otaMsg)
    (hlines : ∀ line ∈ lines, strStartsWith line.s (ascii "^OTACMSG:") = true →
      P (.copy 64 line.s)) : P (handleAll lines ctx).otaMsg := by
  induction lines generalizing ctx with
  | nil => exact hctx
  | cons line lines ih =>
    refine ih ?_ (fun l hl => hlines l (.tail _ hl))
    dsimp only
    by_cases h : line.Announces ctx
    · rw [ReaderLine.handle_of_announces h]
      exact hlines line (.head _) h.2
    · rw [ReaderLine.handle_of_not_announces h]
      exact hctx

end HandleAll

/-- `processLine` hands on the line it was given, and no second line. -/
theorem processLine_unsolicited {ch : AtChannel} {line s : CString} {smsPdu : Option CString}
    (h : .unsolicited s smsPdu ∈ (processLine ch line).2) : s = line ∧ smsPdu = none := by
  unfold processLine at h
  repeat' split at h
  all_goals simp_all [handleUnsolicited]

/-- The loop gives `processLine` no SMS header. -/
theorem readerLoop_line {n : ℕ} {b : AtBuffer} {rs : List ReadResult} {l : CString}
    (h : .line l ∈ readerLoop n b rs) : isSMSUnsolicited l = false := by
  induction n generalizing b rs with
  | zero => simp [readerLoop] at h
  | succ n ih =>
    rw [readerLoop] at h
    split at h
    · simp at h
    · split at h
      · split at h
        · simp at h
        · simp only [List.mem_cons, reduceCtorEq, false_or] at h
          exact ih h
      · next hsms =>
        obtain heq | h := List.mem_cons.mp h
        · obtain rfl : l = _ := by simpa using heq
          simpa using hsms
        · exact ih h

/-- Whatever the modem sends, whichever command is pending and in every session
state: the handler is called with the second line where it needs one. -/
theorem onUnsolicited_calls_safe (n : ℕ) (b : AtBuffer) (rs : List ReadResult)
    (action : ReaderAction) (haction : action ∈ readerLoop n b rs) (ch : AtChannel) (s : CString)
    (smsPdu : Option CString) (hcall : .unsolicited s smsPdu ∈ (readerStep ch action).2)
    (ctx : SessionCtx) :
    (strStartsWith s (ascii "+CMT:") = true ∨ strStartsWith s (ascii "+CDS:") = true →
      smsPdu ≠ none) ∧
    (strStartsWith s (ascii "%CTZV:") = true →
      ∃ response, (atTokNextstr (atTokStart (some s)).2).out = some (some response)) ∧
    ∃ result, onUnsolicited ctx s smsPdu = .ok result := by
  have hsafe : SafeArguments s smsPdu := by
    cases action with
    | line l =>
      rcases processLine_unsolicited hcall with ⟨rfl, rfl⟩
      exact fun h => by simp [readerLoop_line haction] at h
    | sms line1 line2 =>
      obtain ⟨rfl, rfl⟩ : s = line1 ∧ smsPdu = some line2 := by simpa [readerStep] using hcall
      exact fun _ => rfl
    | closed => simp [readerStep] at hcall
  refine ⟨fun hs => ?_, nitz_token, onUnsolicited_ok hsafe ctx⟩
  exact Option.isSome_iff_ne_none.mp (hsafe (isSMSUnsolicited_of_forwarded hs))

theorem onUnsolicited_calls_safe_message :
    ∃ result, onUnsolicited (initSessionContext none 0) (ascii "+CMT: 7") (some (ascii "0791")) =
      .ok result :=
  (onUnsolicited_calls_safe 2 .initial [.data (ascii "+CMT: 7\r\n0791\r\n")]
    (.sms (ascii "+CMT: 7") (ascii "0791")) (by decide +kernel) AtChannel.loaded.atOpen
    (ascii "+CMT: 7") (some (ascii "0791")) (List.mem_singleton.mpr rfl)
    (initSessionContext none 0)).2.2

end Fw100.Session
