import Fw100.Request.Dispatch
import Fw100.Request.Fields

/-!
# The shapes of a registration line

The driver documents four shapes of a `+CREG:` line, since the unsolicited form can take the
place of the answer. `requestRegistrationStateEVDO` reads three numbers and a string.
-/
namespace Fw100.Request
open Library Text Channel Session

variable {env : Environment} {s : RequestState}

/-- The documented shapes. -/
inductive CregLine where
  | statOnly (stat : NumberField)
  | nStat (n stat : NumberField)
  | statLacCid (stat lac cid : NumberField)
  | nSidNidStat (n sid nid stat : NumberField)
deriving DecidableEq, Repr

namespace CregLine

def fields : CregLine → List NumberField
  | .statOnly stat => [stat]
  | .nStat n stat => [n, stat]
  | .statLacCid stat lac cid => [stat, lac, cid]
  | .nSidNidStat n sid nid stat => [n, sid, nid, stat]

def status : CregLine → NumberField
  | .statOnly stat => stat
  | .nStat _ stat => stat
  | .statLacCid stat _ _ => stat
  | .nSidNidStat _ _ _ stat => stat

def text (line : CregLine) : CString := ascii "+CREG:" ++ (fieldsCursor line.fields).getD []

/-- The shape of the answer, in which the status is the fourth field. -/
def isAnswer : CregLine → Bool
  | .nSidNidStat _ _ _ _ => true
  | _ => false

theorem tokStart_text (line : CregLine) : tokStart line.text = some (fieldsCursor line.fields) := by
  have hcursor : ∃ rest, fieldsCursor line.fields = some rest := by
    cases line with
    | statOnly stat => exact fieldsCursor_cons stat []
    | nStat n stat => exact fieldsCursor_cons n [stat]
    | statLacCid stat lac cid => exact fieldsCursor_cons stat [lac, cid]
    | nSidNidStat n sid nid stat => exact fieldsCursor_cons n [sid, nid, stat]
  obtain ⟨rest, hrest⟩ := hcursor
  rw [text, hrest]
  rfl

/-- Three numbers and a string are there in one of the shapes only. -/
theorem cregState_text (line : CregLine) :
    cregState line.text = if line.isAnswer then some (decimal line.status.value) else none := by
  have hnone : tokInt (fieldsCursor []) = none := rfl
  have hstop : tokStr (fieldsCursor []) = none := rfl
  simp only [cregState, tokStart_text, Option.bind_eq_bind, Option.bind_some]
  cases line with
  | statOnly stat =>
    obtain ⟨a, ha⟩ := tokInt_fieldsCursor stat []
    simp [fields, isAnswer, ha, hnone]
  | nStat n stat =>
    obtain ⟨a, ha⟩ := tokInt_fieldsCursor n [stat]
    obtain ⟨b, hb⟩ := tokInt_fieldsCursor stat []
    simp [fields, isAnswer, ha, hb, hnone]
  | statLacCid stat lac cid =>
    obtain ⟨a, ha⟩ := tokInt_fieldsCursor stat [lac, cid]
    obtain ⟨b, hb⟩ := tokInt_fieldsCursor lac [cid]
    obtain ⟨c, hc⟩ := tokInt_fieldsCursor cid []
    simp [fields, isAnswer, ha, hb, hc, hstop]
  | nSidNidStat n sid nid stat =>
    obtain ⟨a, ha⟩ := tokInt_fieldsCursor n [sid, nid, stat]
    obtain ⟨b, hb⟩ := tokInt_fieldsCursor sid [nid, stat]
    obtain ⟨c, hc⟩ := tokInt_fieldsCursor nid [stat]
    simp [fields, isAnswer, status, ha, hb, hc, tokStr_fieldsCursor]

end CregLine

/-- The three queries that follow have answers with the fields that are read from them. -/
structure OthersWellFormed (env : Environment) (n : ℕ) : Prop where
  sysinfo : ((replyLine (ascii "AT^SYSINFO") (ascii "^SYSINFO:") (env.replies n)).bind
    sysinfoFields).isSome
  csnid : ((replyLine (ascii "AT+CSNID?") (ascii "+CSNID:") (env.replies (n + 1))).bind
    csnidFields).isSome
  vrom : ((replyLine (ascii "AT+VROM?") (ascii "+VROM:") (env.replies (n + 2))).bind
    vromField).isSome

/-- The one answer to the caller is a success with this registration state. -/
def ReportsState (env : Environment) (s : RequestState) (request : RegistrationRequest) (t : Token)
    (state : CString) : Prop :=
  Traced.Ends env s (requestRegistrationStateEVDO request t) (fun _ _ es =>
    ∃ r, es.filterMap Event.answer = [(t, .success, .registration r)] ∧
      r.registerState = some state)

theorem ends_freeAll_answer (ps : List Pointer) (s : RequestState) :
    Traced.Ends env s (freeAll ps) (fun _ _ es => es.filterMap Event.answer = []) := by
  induction ps generalizing s with
  | nil => exact Traced.ends_pure.mpr rfl
  | cons p ps ih =>
    rw [freeAll, Traced.ends_bind, ends_atResponseFree]
    apply (ih s).mono
    intro _ _ es hes
    rw [List.filterMap_append, answer_released, hes]
    rfl

/-- The responses are freed after the answer. -/
theorem ends_completeThenFreeAll_answer {t : Token} {e : RilErrno} {data : ResponseData}
    {ps : List Pointer} {s : RequestState} {Q : List (Token × RilErrno × ResponseData) → Prop} :
    Traced.Ends env s (completeThenFreeAll t e data ps)
        (fun _ _ es => Q (es.filterMap Event.answer)) ↔ Q [(t, e, data)] := by
  have hfree : Traced.Ends env s (freeAll ps) _ := ends_freeAll_answer ps s
  obtain ⟨_, hvalue, hes⟩ := hfree
  rw [completeThenFreeAll, Traced.ends_bind, ends_complete, Traced.ends_of_value hvalue,
    List.filterMap_append, hes, List.append_nil]
  rfl

theorem reportsState_iff {line : CregLine} {state : CString} (request : RegistrationRequest)
    (t : Token)
    (hline : replyLine (ascii "AT+CREG?") (ascii "+CREG:") (env.replies s.sent) = some line.text)
    (hothers : OthersWellFormed env (s.sent + 1)) :
    ReportsState env s request t state ↔ cregState line.text = some state := by
  let reported (answers : List (Token × RilErrno × ResponseData)) : Prop :=
    ∃ r, answers = [(t, .success, .registration r)] ∧ r.registerState = some state
  let Q (_ : Unit) (_ : RequestState) := reported
  obtain ⟨sysinfo, hsysinfo⟩ := Option.isSome_iff_exists.mp hothers.sysinfo
  obtain ⟨⟨systemId, networkId⟩, hcsnid⟩ := Option.isSome_iff_exists.mp hothers.csnid
  obtain ⟨indicator, hvrom⟩ := Option.isSome_iff_exists.mp hothers.vrom
  rw [ReportsState, requestRegistrationStateEVDO,
    ends_query_bind_seen ignoresQueries_answer testsZero_isNonzero (Q := Q)]
  dsimp only
  rw [hline, Option.bind_some]
  cases cregState line.text with
  | none =>
    dsimp only
    rw [ends_completeThenFreeAll_answer (Q := reported)]
    simp [reported]
  | some found =>
    dsimp only
    rw [ends_query_bind_seen ignoresQueries_answer testsZero_isNonzero (Q := Q)]
    dsimp only
    rw [hsysinfo]
    dsimp only
    rw [ends_query_bind_seen ignoresQueries_answer testsZero_isNonzero (Q := Q)]
    dsimp only
    rw [hcsnid]
    dsimp only
    rw [ends_query_bind_seen ignoresQueries_answer testsZero_isNonzero (Q := Q)]
    dsimp only
    rw [hvrom]
    dsimp only
    rw [ends_completeThenFreeAll_answer (Q := reported)]
    simp [reported, registrationResponse]

/-- With well-formed answers to the other queries the request reports the status of the line
exactly if the line has the shape of the answer. -/
theorem registration_state_reported_iff (env : Environment) (s : RequestState)
    (request : RegistrationRequest) (t : Token) (line : CregLine)
    (hline : replyLine (ascii "AT+CREG?") (ascii "+CREG:") (env.replies s.sent) = some line.text)
    (hothers : OthersWellFormed env (s.sent + 1)) :
    ReportsState env s request t (decimal line.status.value) ↔ line.isAnswer = true := by
  rw [reportsState_iff request t hline hothers, CregLine.cregState_text]
  simp

/-- The unsolicited line comes first. -/
theorem registration_state_unsolicited_first :
    let env : Environment := { Environment.terse with
      replies := fun n =>
        if n = 0 then .answered [ascii "+CREG:1", ascii "+CREG:1,4145,7,1", ascii "OK"] (by decide)
        else if n = 1 then .answered [ascii "^SYSINFO:2,255,0,8,240", ascii "OK"] (by decide)
        else if n = 2 then .answered [ascii "+CSNID:4145,7", ascii "OK"] (by decide)
        else .answered [ascii "+VROM:1,0", ascii "OK"] (by decide) }
    let s : RequestState := ⟨initSessionContext none 0, 0⟩
    let line := CregLine.statOnly ⟨0, 1⟩
    replyLine (ascii "AT+CREG?") (ascii "+CREG:") (env.replies s.sent) = some line.text ∧
      OthersWellFormed env (s.sent + 1) ∧
      ¬ ReportsState env s .registrationState 7 (decimal line.status.value) := by
  intro env s line
  refine ⟨by decide, ⟨by decide, by decide, by decide⟩, ?_⟩
  rintro ⟨_, -, r, hanswer, -⟩
  have hfailed : ((requestRegistrationStateEVDO .registrationState 7 env s).events.filterMap
      Event.answer).map (fun a => a.2.1) = [.genericFailure] := by decide +kernel
  rw [hanswer] at hfailed
  simp at hfailed

theorem registration_state_answered :
    let env : Environment := { Environment.terse with
      replies := fun n =>
        if n = 0 then .answered [ascii "+CREG: 1,4145,7,1", ascii "OK"] (by decide)
        else if n = 1 then .answered [ascii "^SYSINFO:2,255,0,8,240", ascii "OK"] (by decide)
        else if n = 2 then .answered [ascii "+CSNID:4145,7", ascii "OK"] (by decide)
        else .answered [ascii "+VROM:1,0", ascii "OK"] (by decide) }
    ReportsState env ⟨initSessionContext none 0, 0⟩ .registrationState 7 (ascii "1") := by
  intro env
  exact (registration_state_reported_iff env _ .registrationState 7
    (.nSidNidStat ⟨1, 1⟩ ⟨0, 4145⟩ ⟨0, 7⟩ ⟨0, 1⟩) (by decide)
    ⟨by decide, by decide, by decide⟩).mpr rfl

end Fw100.Request
