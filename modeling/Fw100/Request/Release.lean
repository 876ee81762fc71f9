import Fw100.Library.Ledger
import Fw100.Request.EntryPoint

/-!
# Handlers that release what they obtain

Every response that a command leaves behind belongs to its caller, who has to free it. Here
are the handlers that do, on all their exits.
-/
namespace Fw100.Request
open Library Text Channel Session

def Event.obtainedId : Event → Option ℕ
  | .obtained id => some id
  | _ => none

def Event.releasedId : Event → Option ℕ
  | .released id => some id
  | _ => none

def responses : Ledger Event RequestState := ⟨Event.obtainedId, Event.releasedId, RequestState.sent⟩

abbrev Frees {α : Type} (env : Environment) (ids : Multiset ℕ) (m : RilM α) : Prop :=
  responses.Frees env ids m

abbrev Idle {α : Type} (env : Environment) (m : RilM α) : Prop := responses.Idle env m

def Pointer.ids (p : Pointer) : Multiset ℕ := ↑(p.toList.map Held.id)

@[simp] theorem ids_none : Pointer.ids none = 0 := rfl

variable {env : Environment}

/-! ### The parts of a handler -/

section Parts

theorem idle_complete (t : Token) (e : RilErrno) (data : ResponseData) :
    Idle env (complete t e data) := .emit rfl rfl

theorem idle_notify (n : Notification) : Idle env (notify n) := .emit rfl rfl

theorem idle_getCtx : Idle env getCtx := .bind .current (fun _ => .pure)

theorem idle_modifyCtx (f : SessionCtx → SessionCtx) : Idle env (modifyCtx f) :=
  .update (fun _ => rfl)

theorem idle_storeString (buffer : FixedBuffer) (size : ℕ) (text : CString) :
    Idle env (storeString buffer size text) := .ite .pure (.emit rfl rfl)

theorem idle_deref {α : Type} (data : Option α) : Idle env (deref data) := by
  cases data with
  | none => exact .fault
  | some a => exact .pure

theorem idle_derefStrings (data : Option (List (Option CString))) (n : ℕ) :
    Idle env (derefStrings data n) :=
  .ite .pure (.bind (idle_deref data) (fun _ => .ite .pure .fault))

theorem idle_succeeded (failed : ℤ → Bool) (err : ℤ) (p : Pointer) :
    Idle env (succeeded failed err p) := by
  cases p with
  | none => exact .ite .pure .fault
  | some held => exact .pure

theorem idle_firstIntermediate (p : Pointer) : Idle env (firstIntermediate p) := by
  cases p with
  | none => exact .fault
  | some held =>
    simp only [firstIntermediate]
    split
    · exact .fault
    · exact .pure

theorem frees_atResponseFree (p : Pointer) : Frees env p.ids (atResponseFree p) := by
  cases p with
  | none => exact Ledger.Idle.pure.frees
  | some h =>
    rintro s held a -
    exact ⟨held, .release s rfl rfl held, rfl⟩

theorem tally_commandEvent (call : Call) (s : RequestState) (held : Multiset ℕ) :
    responses.Tally s s [commandEvent call] held held := by
  have hcommand : responses.obtains (commandEvent call) = none ∧
      responses.releases (commandEvent call) = none := by
    unfold commandEvent
    split <;> exact ⟨rfl, rfl⟩
  exact .silent le_rfl (responses.obtained_cons_none hcommand.1 [])
    (responses.released_cons_none hcommand.2 []) held

/-- What the response that a command stores adds to what is held. -/
theorem tally_send (call : Call) (s : RequestState) (out : OutParam) (held : Multiset ℕ) :
    responses.Tally s { s with sent := s.sent + 1 } (commandEvent call :: obtainedEvent s.sent out)
      held ((Pointer.store none s.sent out).ids + held) := by
  refine (tally_commandEvent call s held).append ?_
  cases out with
  | response r => exact .obtain (Nat.lt_succ_self s.sent) rfl rfl held
  | untouched =>
    rw [show (Pointer.store none s.sent .untouched).ids + held = held from zero_add held]
    exact .silent (Nat.le_succ s.sent) rfl rfl held
  | null =>
    rw [show (Pointer.store none s.sent .null).ids + held = held from zero_add held]
    exact .silent (Nat.le_succ s.sent) rfl rfl held

theorem accounts_send_bind {α : Type} {result : Call → Reply → ℤ × OutParam} {call : Call}
    {s : RequestState} {held : Multiset ℕ} {f : ℤ × Pointer → RilM α}
    {R : α → RequestState → Multiset ℕ → Prop}
    (h : let x := result call (env.replies s.sent)
      responses.Accounts env { s with sent := s.sent + 1 }
        ((Pointer.store none s.sent x.2).ids + held)
        (f (x.1, Pointer.store none s.sent x.2)) R) :
    responses.Accounts env s held (send result call none >>= f) R := by
  refine Ledger.Accounts.bind (S := fun x s' held' => s' = { s with sent := s.sent + 1 } ∧
    held' = x.2.ids + held ∧ x = ((result call (env.replies s.sent)).1,
      Pointer.store none s.sent (result call (env.replies s.sent)).2)) ?_ ?_
  · intro x hx
    obtain rfl := (Except.ok.inj hx).symm
    exact ⟨_, tally_send call s _ held, rfl, rfl, rfl⟩
  · rintro _ _ _ ⟨rfl, rfl, rfl⟩
    exact h

theorem accounts_query_bind {α : Type} {failed : ℤ → Bool} (hf : TestsZero failed)
    {command responsePrefix : CString} {p : Pointer} {s : RequestState} {held : Multiset ℕ}
    {f : Pointer × Option CString → RilM α} {R : α → RequestState → Multiset ℕ → Prop}
    (h : let out := (checked (.singleline command responsePrefix true) (env.replies s.sent)).2
      responses.Accounts env { s with sent := s.sent + 1 }
        ((Pointer.store none s.sent out).ids + held)
        (f (p.store s.sent out, replyLine command responsePrefix (env.replies s.sent))) R) :
    responses.Accounts env s held (queryLine failed command responsePrefix p >>= f) R := by
  have hquery := queryLine_eq env hf command responsePrefix p s
  dsimp only at hquery h
  rw [Ledger.Accounts, Traced.yields_bind]
  intro x hx
  rw [hquery] at hx ⊢
  obtain rfl := (Except.ok.inj hx).symm
  refine Traced.Yields.mono h ?_
  rintro a s' es ⟨held', htally, hR⟩
  exact ⟨held', (tally_send _ s _ held).append htally, hR⟩

theorem frees_send {α : Type} {result : Call → Reply → ℤ × OutParam} {call : Call}
    {ids : Multiset ℕ} {f : ℤ × Pointer → RilM α}
    (h : ∀ err p, Frees env (p.ids + ids) (f (err, p))) :
    Frees env ids (send result call none >>= f) := by
  intro s held
  apply accounts_send_bind
  dsimp only
  rw [← add_assoc]
  exact h _ _ _ held

theorem frees_query {α : Type} {failed : ℤ → Bool} (hf : TestsZero failed)
    {command responsePrefix : CString} {ids : Multiset ℕ} {f : Pointer × Option CString → RilM α}
    (h : ∀ p line, Frees env (p.ids + ids) (f (p, line))) :
    Frees env ids (queryLine failed command responsePrefix none >>= f) := by
  intro s held
  apply accounts_query_bind hf
  dsimp only
  rw [← add_assoc]
  exact h _ _ _ held

theorem frees_firstSend {α : Type} {result : Call → Reply → ℤ × OutParam} {call : Call}
    {f : ℤ × Pointer → RilM α} (h : ∀ err p, Frees env p.ids (f (err, p))) :
    Frees env 0 (send result call none >>= f) :=
  frees_send (fun err p => (h err p).of_eq (add_zero _).symm)

theorem frees_firstQuery {α : Type} {failed : ℤ → Bool} (hf : TestsZero failed)
    {command responsePrefix : CString} {f : Pointer × Option CString → RilM α}
    (h : ∀ p line, Frees env p.ids (f (p, line))) :
    Frees env 0 (queryLine failed command responsePrefix none >>= f) :=
  frees_query hf (fun p line => (h p line).of_eq (add_zero _).symm)

theorem idle_atSendCommandNull (command : CString) : Idle env (atSendCommandNull command) :=
  fun s => (ends_atSendCommandNull.mpr ⟨Nat.le_succ s.sent, rfl, rfl⟩).yields

theorem frees_completeThenFree (t : Token) (e : RilErrno) (data : ResponseData) (p : Pointer) :
    Frees env p.ids (completeThenFree t e data p) :=
  .idle_bind (idle_complete t e data) (fun _ => frees_atResponseFree p)

theorem frees_freeThenComplete (t : Token) (e : RilErrno) (data : ResponseData) (p : Pointer) :
    Frees env p.ids (freeThenComplete t e data p) :=
  .bind_idle (frees_atResponseFree p) (fun _ => idle_complete t e data)

theorem frees_freeAll (ps : List Pointer) : Frees env (ps.map Pointer.ids).sum (freeAll ps) := by
  induction ps with
  | nil => exact Ledger.Idle.pure.frees
  | cons p ps ih => exact .bind (frees_atResponseFree p) (fun _ => ih)

theorem frees_completeThenFreeAll (t : Token) (e : RilErrno) (data : ResponseData)
    (ps : List Pointer) : Frees env (ps.map Pointer.ids).sum (completeThenFreeAll t e data ps) :=
  .idle_bind (idle_complete t e data) (fun _ => frees_freeAll ps)

end Parts

/-! ### The handlers -/

section Handlers

theorem idle_onSIMReady : Idle env onSIMReady :=
  .bind (idle_atSendCommandNull _) (fun _ => .pure)

theorem idle_setRadioState (newState : RadioState) : Idle env (setRadioState newState) := by
  refine .bind idle_getCtx (fun ctx => .bind (idle_modifyCtx _) (fun _ => ?_))
  refine .ite .pure (.bind (idle_notify _) (fun _ => ?_))
  exact .ite idle_onSIMReady (.ite (idle_notify _) .pure)

theorem frees_isRadioOn : Frees env 0 isRadioOn :=
  frees_firstQuery testsZero_isNegative (fun p _ =>
    .bind_idle (frees_atResponseFree p) (fun _ => .pure))

theorem frees_requestRadioPower (data : Option ℤ) (datalen : ℕ) (t : Token) :
    Frees env 0 (requestRadioPower data datalen t) := by
  have hdone : ∀ state (p : Pointer), Frees env p.ids (do
      setRadioState state
      freeThenComplete t .success .null p) := fun state p =>
    .idle_bind (idle_setRadioState state) (fun _ => frees_freeThenComplete _ _ _ p)
  refine .ite Ledger.Idle.fault.frees (.idle_bind (idle_deref data) (fun onOff => ?_))
  refine .idle_bind idle_getCtx (fun ctx => ?_)
  refine .ite ?_ (.ite ?_ (frees_freeThenComplete _ _ _ none))
  · refine frees_firstSend (fun err p => .idle_bind (idle_succeeded _ _ _) (fun _ => ?_))
    exact .ite (hdone _ p) (frees_freeThenComplete _ _ _ p)
  · refine frees_firstSend (fun err p => .idle_bind (idle_succeeded _ _ _) (fun _ => ?_))
    refine .ite (hdone _ p) ?_
    refine Ledger.Frees.of_eq (.bind frees_isRadioOn (fun on => ?_)) (zero_add p.ids)
    exact .ite (frees_freeThenComplete _ _ _ p) (hdone _ p)

theorem idle_sendAll (commands : List CString) : Idle env (sendAll commands) := by
  induction commands with
  | nil => exact .pure
  | cons command commands ih =>
    exact .bind (idle_atSendCommandNull command) (fun _ => .ite .pure ih)

theorem idle_requestScreenState (data : Option ℤ) (datalen : ℕ) (t : Token) :
    Idle env (requestScreenState data datalen t) := by
  refine .ite .fault (.bind (idle_deref data) (fun _ => ?_))
  refine .ite ?_ (.ite ?_ (idle_complete _ _ _))
  · refine .bind (idle_sendAll _) (fun _ => .ite ?_ (idle_complete _ _ _))
    exact .bind (idle_notify _) (fun _ => .bind (idle_modifyCtx _) (fun _ => idle_complete _ _ _))
  · refine .bind (idle_sendAll _) (fun _ => .ite ?_ (idle_complete _ _ _))
    exact .bind (idle_modifyCtx _) (fun _ => idle_complete _ _ _)

theorem frees_requestSignalStrength (t : Token) : Frees env 0 (requestSignalStrength t) := by
  refine frees_firstQuery testsZero_isNegative (fun p line => ?_)
  dsimp only
  split
  · exact .idle_bind (idle_complete _ _ _) (fun _ => frees_completeThenFree _ _ _ p)
  · split
    · exact frees_completeThenFree _ _ _ p
    · exact frees_completeThenFree _ _ _ p

theorem frees_requestRegistrationStateEVDO (request : RegistrationRequest) (t : Token) :
    Frees env 0 (requestRegistrationStateEVDO request t) := by
  refine frees_firstQuery testsZero_isNonzero (fun status line => ?_)
  dsimp only
  split
  · exact (frees_completeThenFreeAll _ _ _ _).of_eq (by simp)
  refine frees_query testsZero_isNonzero (fun protocolrev line => ?_)
  dsimp only
  split
  · exact (frees_completeThenFreeAll _ _ _ _).of_eq (by simp [add_comm])
  refine frees_query testsZero_isNonzero (fun sidnid line => ?_)
  dsimp only
  split
  · exact (frees_completeThenFreeAll _ _ _ _).of_eq (by simp; abel)
  refine frees_query testsZero_isNonzero (fun roaming line => ?_)
  dsimp only
  split
  · exact (frees_completeThenFreeAll _ _ _ _).of_eq (by simp; abel)
  · exact (frees_completeThenFreeAll _ _ _ _).of_eq (by simp; abel)

theorem frees_requestQueryNetworkSelectionMode (t : Token) :
    Frees env 0 (requestQueryNetworkSelectionMode t) := by
  refine frees_firstQuery testsZero_isNegative (fun p line => ?_)
  dsimp only
  split
  · exact frees_freeThenComplete _ _ _ p
  · exact .idle_bind idle_getCtx (fun _ => frees_completeThenFree _ _ _ p)

theorem idle_setNetworkSelection (command : CString) (mode : ℤ) (t : Token) :
    Idle env (setNetworkSelection command mode t) :=
  .bind (idle_atSendCommandNull command) (fun _ =>
    .bind (idle_modifyCtx _) (fun _ => idle_complete _ _ _))

theorem frees_requestGetIMEI (t : Token) : Frees env 0 (requestGetIMEI t) := by
  refine frees_firstQuery testsZero_isNonzero (fun p line => ?_)
  dsimp only
  split
  · exact frees_completeThenFree _ _ _ p
  · exact frees_completeThenFree _ _ _ p

theorem frees_requestGetPreferredNetworkType (t : Token) :
    Frees env 0 (requestGetPreferredNetworkType t) := by
  refine frees_firstQuery testsZero_isNegative (fun p line => ?_)
  dsimp only
  split
  · exact frees_completeThenFree _ _ _ p
  · exact frees_completeThenFree _ _ _ p

theorem frees_requestSetPreferredNetworkType (data : Option ℤ) (t : Token) :
    Frees env 0 (requestSetPreferredNetworkType data t) := by
  refine .idle_bind (idle_deref data) (fun mode => ?_)
  split
  · exact frees_completeThenFree _ _ _ none
  · exact .idle_bind (idle_atSendCommandNull _) (fun _ =>
      .ite (frees_completeThenFree _ _ _ none) (idle_complete _ _ _).frees)

theorem frees_networkDone (p p2 : Pointer) (info : NetworkInfo) :
    Frees env (p.ids + p2.ids) (networkDone p p2 info) := by
  refine .idle_bind (idle_modifyCtx _) (fun _ => ?_)
  refine .bind (frees_atResponseFree p) (fun _ => .bind_idle (frees_atResponseFree p2) (fun _ => ?_))
  exact .bind idle_getCtx (fun _ => .bind (.emit rfl rfl) (fun _ => .pure))

theorem frees_networkError (p p2 : Pointer) : Frees env (p.ids + p2.ids) (networkError p p2) :=
  .bind (frees_atResponseFree p) (fun _ => .bind_idle (frees_atResponseFree p2) (fun _ => .pure))

theorem frees_searchOperator (p : Pointer) (mccmnc : CString) :
    Frees env p.ids (searchOperator p mccmnc) := by
  unfold searchOperator
  split
  · exact (frees_networkDone p none _).of_eq (add_zero _)
  · refine frees_query testsZero_isNonzero (fun p2 line => ?_)
    dsimp only
    split
    · exact (frees_networkError p p2).of_eq (add_comm _ _)
    · exact (frees_networkDone p p2 _).of_eq (add_comm _ _)

theorem frees_getNetworkInfo : Frees env 0 getNetworkInfo := by
  refine frees_firstQuery testsZero_isNonzero (fun p line => ?_)
  dsimp only
  split
  · exact (frees_networkError p none).of_eq (add_zero _)
  · refine .idle_bind .environment (fun _ => ?_)
    split
    · intro s held
      exact Traced.yields_fault
    · exact .idle_bind (idle_storeString _ _ _) (fun _ => frees_searchOperator p _)

/-- A request that reports what `getNetworkInfo` found. -/
theorem frees_reportNetwork {f : Option NetworkInfo → RilM Unit} (hf : ∀ info, Frees env 0 (f info)) :
    Frees env 0 (getNetworkInfo >>= f) :=
  (frees_getNetworkInfo.bind hf).of_eq (add_zero 0)

theorem frees_requestOperator (t : Token) : Frees env 0 (requestOperator t) := by
  refine frees_reportNetwork (fun info => ?_)
  cases info with
  | none => exact (idle_complete _ _ _).frees
  | some info =>
    refine .idle_bind .environment (fun _ => .idle_bind (idle_storeString _ _ _) (fun _ => ?_))
    exact (idle_complete _ _ _).frees

theorem frees_requestQueryAvailableNetworks (t : Token) :
    Frees env 0 (requestQueryAvailableNetworks t) := by
  refine frees_reportNetwork (fun info => ?_)
  cases info with
  | none => exact (idle_complete _ _ _).frees
  | some info => exact .idle_bind .environment (fun _ => (idle_complete _ _ _).frees)

theorem frees_requestGetIMSI (t : Token) : Frees env 0 (requestGetIMSI t) := by
  refine frees_reportNetwork (fun info => ?_)
  cases info with
  | none => exact frees_completeThenFree _ _ _ none
  | some info =>
    refine frees_firstQuery testsZero_isNonzero (fun p line => ?_)
    dsimp only
    split
    · exact frees_completeThenFree _ _ _ p
    · refine .idle_bind .environment (fun _ => .idle_bind (idle_storeString _ _ _) (fun _ => ?_))
      exact frees_completeThenFree _ _ _ p

theorem idle_fireAndForget (command : CString) (t : Token) : Idle env (fireAndForget command t) :=
  .bind (idle_atSendCommandNull command) (fun _ => idle_complete _ _ _)

theorem idle_requestSeparateConnection (data : Option ℤ) (t : Token) :
    Idle env (requestSeparateConnection data t) :=
  .bind (idle_deref data) (fun _ => .ite (idle_fireAndForget _ t) (idle_complete _ _ _))

theorem frees_completeBySuccess (failed : ℤ → Bool) (t : Token) (data : ResponseData)
    (failure : RilErrno) (x : ℤ × Pointer) :
    Frees env x.2.ids (completeBySuccess failed t data failure x) :=
  .idle_bind (idle_succeeded _ _ _) (fun _ =>
    .ite (frees_completeThenFree _ _ _ x.2) (frees_completeThenFree _ _ _ x.2))

theorem idle_storeTerminator (pdu : CString) : Idle env (storeTerminator pdu) :=
  .ite (.bind (.emit rfl rfl) (fun _ => .pure)) .pure

theorem frees_requestSendSMSEVDO (data : Option SmsArgs) (t : Token) :
    Frees env 0 (requestSendSMSEVDO data t) := by
  refine .idle_bind (idle_atSendCommandNull _) (fun _ => ?_)
  refine .idle_bind (idle_deref data) (fun args => .idle_bind (idle_deref args.pdu) (fun pdu => ?_))
  refine .idle_bind (idle_storeTerminator pdu) (fun _ => ?_)
  refine .idle_bind (idle_storeString _ _ _) (fun _ => ?_)
  exact frees_firstSend (fun err p => frees_completeBySuccess _ _ _ _ (err, p))

theorem idle_requestSMSAcknowledge (data : Option ℤ) (t : Token) :
    Idle env (requestSMSAcknowledge data t) := by
  have htwice : ∀ command, Idle env (do
      fireAndForget command t
      complete t .genericFailure .null) := fun command =>
    .bind (idle_fireAndForget command t) (fun _ => idle_complete _ _ _)
  exact .bind (idle_deref data) (fun _ => .ite (htwice _) (.ite (htwice _) (idle_complete _ _ _)))

theorem frees_requestWriteSmsToSim (data : Option SmsWriteArgs) (t : Token) :
    Frees env 0 (requestWriteSmsToSim data t) := by
  refine .idle_bind (idle_deref data) (fun args => .idle_bind (idle_deref args.pdu) (fun _ => ?_))
  exact frees_firstSend (fun err p => frees_completeBySuccess _ _ _ _ (err, p))

theorem frees_requestDeleteSmsOnSim (data : Option ℤ) (t : Token) :
    Frees env 0 (requestDeleteSmsOnSim data t) := by
  refine .idle_bind (idle_deref data) (fun _ => ?_)
  exact frees_firstSend (fun err p => frees_completeBySuccess _ _ _ _ (err, p))

theorem frees_requestSimIo (data : Option SimIo) (t : Token) :
    Frees env 0 (requestSimIo data t) := by
  refine .idle_bind (idle_deref data) (fun args => ?_)
  refine frees_firstQuery testsZero_isNegative (fun p line => ?_)
  dsimp only
  split
  · exact frees_completeThenFree _ _ _ p
  · exact frees_completeThenFree _ _ _ p

theorem frees_requestEnterSimPin (data : Option (List (Option CString))) (datalen : ℕ) (t : Token) :
    Frees env 0 (requestEnterSimPin data datalen t) := by
  refine .idle_bind (idle_derefStrings data _) (fun strings => ?_)
  split
  · exact frees_completeThenFree _ _ _ none
  · exact frees_firstSend (fun err p => frees_completeBySuccess _ _ _ _ (err, p))

theorem frees_requestCancelUSSD (t : Token) : Frees env 0 (requestCancelUSSD t) := by
  refine frees_firstSend (fun err p => .idle_bind (idle_succeeded _ _ _) (fun _ => ?_))
  refine .ite ?_ (frees_completeThenFree _ _ _ p)
  exact .idle_bind (idle_firstIntermediate p) (fun _ => frees_completeThenFree _ _ _ p)

theorem idle_requestSetupDataCallEVDO (t : Token) : Idle env (requestSetupDataCallEVDO t) := by
  refine .bind .environment (fun _ => .bind idle_getCtx (fun _ => ?_))
  refine .bind (idle_storeString _ _ _) (fun _ => .bind (.emit rfl rfl) (fun _ => ?_))
  refine .ite (idle_complete _ _ _) ?_
  split
  · exact idle_complete _ _ _
  · refine .bind (idle_modifyCtx _) (fun _ => .bind (idle_storeString _ _ _) (fun _ => ?_))
    refine .bind (idle_storeString _ _ _) (fun _ => .bind (idle_storeString _ _ _) (fun _ => ?_))
    exact .bind idle_getCtx (fun _ => idle_complete _ _ _)

theorem idle_requestDeactivateDataCallEVDO (t : Token) :
    Idle env (requestDeactivateDataCallEVDO t) := by
  refine .bind (idle_atSendCommandNull _) (fun _ => .bind ?_ (fun _ => ?_))
  · exact .bind .environment (fun _ => .ite (.emit rfl rfl) .pure)
  · refine .bind (idle_modifyCtx _) (fun _ => ?_)
    exact .bind (idle_complete _ _ _) (fun _ => idle_notify _)

theorem idle_requestDataCallList (t : Token) : Idle env (requestDataCallList t) :=
  .bind idle_getCtx (fun _ => .bind (idle_complete _ _ _) (fun _ => idle_complete _ _ _))

/-- All handlers but two free what they obtain. -/
theorem frees_handle (t : Token) {request : RilRequest} (hcalls : request ≠ .getCurrentCalls)
    (hversion : request ≠ .basebandVersion) : Frees env 0 (handle t request) := by
  cases request with
  | getSimStatus => exact (idle_complete _ _ _).frees
  | getCurrentCalls => exact absurd rfl hcalls
  | screenState data datalen => exact (idle_requestScreenState data datalen t).frees
  | radioPower data datalen => exact frees_requestRadioPower data datalen t
  | dial data => exact .idle_bind (idle_deref data) (fun _ => (idle_fireAndForget _ t).frees)
  | hangup data => exact .idle_bind (idle_deref data) (fun _ => (idle_fireAndForget _ t).frees)
  | hangupWaitingOrBackground => exact (idle_fireAndForget _ t).frees
  | hangupForegroundResumeBackground => exact (idle_fireAndForget _ t).frees
  | switchWaitingOrHoldingAndActive => exact (idle_fireAndForget _ t).frees
  | answer => exact (idle_fireAndForget _ t).frees
  | conference => exact (idle_fireAndForget _ t).frees
  | udub => exact (idle_fireAndForget _ t).frees
  | separateConnection data => exact (idle_requestSeparateConnection data t).frees
  | signalStrength => exact frees_requestSignalStrength t
  | registration request => exact frees_requestRegistrationStateEVDO request t
  | operator => exact frees_requestOperator t
  | dtmf data => exact .idle_bind (idle_deref data) (fun _ => (idle_fireAndForget _ t).frees)
  | sendSms data => exact frees_requestSendSMSEVDO data t
  | setupDataCall => exact (idle_requestSetupDataCallEVDO t).frees
  | deactivateDataCall => exact (idle_requestDeactivateDataCallEVDO t).frees
  | lastDataCallFailCause => exact (idle_complete _ _ _).frees
  | smsAcknowledge data => exact (idle_requestSMSAcknowledge data t).frees
  | getIMSI => exact frees_requestGetIMSI t
  | basebandVersion => exact absurd rfl hversion
  | getIMEI => exact frees_requestGetIMEI t
  | setPreferredNetworkType data => exact frees_requestSetPreferredNetworkType data t
  | getPreferredNetworkType => exact frees_requestGetPreferredNetworkType t
  | simIo data => exact frees_requestSimIo data t
  | sendUSSD => exact (idle_complete _ _ _).frees
  | cancelUSSD => exact frees_requestCancelUSSD t
  | queryNetworkSelectionMode => exact frees_requestQueryNetworkSelectionMode t
  | setNetworkSelectionAutomatic => exact (idle_setNetworkSelection _ _ t).frees
  | setNetworkSelectionManual => exact (idle_setNetworkSelection _ _ t).frees
  | queryAvailableNetworks => exact frees_requestQueryAvailableNetworks t
  | dataCallList => exact (idle_requestDataCallList t).frees
  | oemHookRaw data => exact (idle_complete _ _ _).frees
  | oemHookStrings data datalen =>
    exact .idle_bind (idle_derefStrings data _) (fun _ => (idle_complete _ _ _).frees)
  | writeSmsToSim data => exact frees_requestWriteSmsToSim data t
  | deleteSmsOnSim data => exact frees_requestDeleteSmsOnSim data t
  | enterSimPin request data datalen => exact frees_requestEnterSimPin data datalen t
  | other code => exact (idle_complete _ _ _).frees

end Handlers

/-! ### The activation -/

section Activation

theorem idle_readerLines (lines : List ReaderLine) : Idle env (readerLines lines) := by
  have hone : ∀ line : ReaderLine, Idle env (readerLine line) := by
    rintro line s a -
    have hnone : ∀ es : List UnsolEvent, responses.obtained (es.map UnsolEvent.event) = 0 ∧
        responses.released (es.map UnsolEvent.event) = 0 := by
      intro es
      induction es with
      | nil => exact ⟨rfl, rfl⟩
      | cons e es ih =>
        rw [List.map_cons, responses.obtained_cons_none (by cases e <;> rfl),
          responses.released_cons_none (by cases e <;> rfl)]
        exact ih
    exact ⟨le_rfl, hnone _⟩
  induction lines with
  | nil => exact .pure
  | cons line lines ih => exact .bind (hone line) (fun _ => ih)

theorem frees_activateDone (ret : ℤ) (ps : List Pointer) :
    Frees env (ps.map Pointer.ids).sum (activateDone ret ps) :=
  .bind_idle (frees_freeAll ps) (fun _ =>
    .bind idle_getCtx (fun _ => .bind (.emit rfl rfl) (fun _ => .pure)))

/-- A query whose response joins those that are freed at the end. -/
theorem frees_queryDuring {α : Type} {lines : List ReaderLine} {command responsePrefix : CString}
    {ids : Multiset ℕ} {f : Pointer × Option CString → RilM α}
    (h : ∀ p line, Frees env (p.ids + ids) (f (p, line))) :
    Frees env ids (queryDuring lines command responsePrefix >>= f) := by
  intro s held
  have hquery : responses.Accounts env s (ids + held) (queryDuring lines command responsePrefix)
      (fun x _ held' => held' = x.1.ids + (ids + held)) := by
    apply accounts_query_bind testsZero_isNonzero
    dsimp only
    apply Ledger.Accounts.bind ((idle_readerLines lines).accounts _ _)
    rintro _ s' _ ⟨-, rfl⟩
    exact .pure rfl
  apply Ledger.Accounts.bind hquery
  rintro ⟨p, line⟩ s' _ rfl
  dsimp only
  rw [← add_assoc]
  exact h p line s' held

theorem frees_activateDone_concat (ret : ℤ) (ps : List Pointer) (p : Pointer) :
    Frees env (p.ids + (ps.map Pointer.ids).sum) (activateDone ret (ps ++ [p])) :=
  (frees_activateDone ret _).of_eq (by simp [add_comm])

theorem frees_confirmMdn (reader : ReaderThread) (ps : List Pointer) :
    Frees env (ps.map Pointer.ids).sum (confirmMdn reader ps) := by
  refine frees_queryDuring (fun verify line => ?_)
  dsimp only
  split
  · exact frees_activateDone_concat _ ps verify
  · exact .idle_bind (idle_modifyCtx _) (fun _ => frees_activateDone_concat _ ps verify)

theorem idle_waitForOta (asleep : ℕ → List ReaderLine) (tries n : ℕ) :
    Idle env (waitForOta asleep tries n) := by
  induction tries generalizing n with
  | zero => exact idle_readerLines _
  | succ tries ih =>
    exact .bind (idle_readerLines _) (fun _ => .bind idle_getCtx (fun _ => .ite (ih _) .pure))

theorem frees_otaspCall (reader : ReaderThread) (ps : List Pointer) :
    Frees env (ps.map Pointer.ids).sum (otaspCall reader ps) := by
  refine .idle_bind (idle_modifyCtx _) (fun _ => frees_send (fun err otasp => ?_))
  refine .idle_bind (idle_readerLines _) (fun _ => .idle_bind (idle_waitForOta _ _ _) (fun _ => ?_))
  refine .idle_bind (idle_readerLines _) (fun _ => .idle_bind idle_getCtx (fun _ => ?_))
  refine .ite (.idle_bind (idle_modifyCtx _) (fun _ => ?_)) (frees_activateDone_concat _ ps otasp)
  exact (frees_confirmMdn reader _).of_eq (by simp [add_comm])

theorem frees_autoActivate (reader : ReaderThread) (ps : List Pointer) :
    Frees env (ps.map Pointer.ids).sum (autoActivate reader ps) := by
  refine .idle_bind idle_getCtx (fun _ => .ite (frees_activateDone _ ps) ?_)
  refine .idle_bind (idle_modifyCtx _) (fun _ => .idle_bind idle_getCtx (fun _ => ?_))
  refine .ite ?_ (frees_otaspCall reader ps)
  exact .idle_bind (idle_modifyCtx _) (fun _ => frees_activateDone _ ps)

theorem frees_activateCarrier (reader : ReaderThread) (ps : List Pointer) :
    Frees env (ps.map Pointer.ids).sum (activateCarrier reader ps) := by
  refine frees_queryDuring (fun carrier line => ?_)
  dsimp only
  split
  · exact frees_activateDone_concat _ ps carrier
  · refine .ite (frees_activateDone_concat _ ps carrier) (.ite ?_ ?_)
    · exact (frees_autoActivate reader _).of_eq (by simp [add_comm])
    · exact frees_activateDone_concat _ ps carrier

theorem frees_activateHelper (reader : ReaderThread) : Frees env 0 (activateHelper reader) := by
  refine frees_queryDuring (fun meid line => ?_)
  dsimp only
  split
  · exact (frees_activateDone _ _).of_eq (by simp)
  refine .idle_bind (.bind (idle_storeString _ _ _) (fun _ => idle_modifyCtx _)) (fun _ => ?_)
  refine frees_queryDuring (fun mdn line => ?_)
  have hids : ([meid, mdn].map Pointer.ids).sum = mdn.ids + (meid.ids + 0) := by
    simp [add_comm]
  dsimp only
  split
  · exact (frees_activateDone _ _).of_eq hids
  · refine .ite ((frees_activateCarrier reader _).of_eq hids) ?_
    refine .idle_bind (idle_modifyCtx _) (fun _ => .idle_bind (idle_modifyCtx _) (fun _ => ?_))
    exact (frees_activateDone _ _).of_eq hids

end Activation

/-! ### The callback -/

section Initialization

theorem idle_sendEach (commands : List CString) : Idle env (sendEach commands) := by
  induction commands with
  | nil => exact .pure
  | cons command commands ih => exact .bind (idle_atSendCommandNull command) (fun _ => ih)

theorem idle_handshakeTries (tries : ℕ) (err : ℤ) : Idle env (handshakeTries tries err) := by
  induction tries generalizing err with
  | zero => exact .pure
  | succ tries ih => exact .bind (idle_atSendCommandNull _) (fun err => .ite .pure (ih err))

theorem frees_initializeCallback : Frees env 0 initializeCallback := by
  have hinit : Frees env 0 atcommandInit := by
    refine .idle_bind (idle_sendEach _) (fun _ => frees_firstSend (fun err p => ?_))
    refine .bind_idle (frees_atResponseFree p) (fun _ => .bind (idle_sendEach _) (fun _ => ?_))
    exact .bind idle_getCtx (fun _ => .ite (idle_sendEach _) .pure)
  refine .idle_bind (idle_setRadioState _) (fun _ => .idle_bind (idle_handshakeTries _ _) (fun _ => ?_))
  refine Ledger.Frees.of_eq (hinit.bind (fun _ => ?_)) (add_zero 0)
  exact .bind_idle frees_isRadioOn (fun _ => .ite (idle_setRadioState _) .pure)

end Initialization

end Fw100.Request
