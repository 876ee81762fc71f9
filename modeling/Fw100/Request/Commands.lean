import Fw100.Request.EntryPoint

/-!
# The commands that handlers send

Which of the commands of a handler select a format for short messages. No handler but the one
that sends a message does, on any of its exits, and nor do the calls of the main loop.
-/
namespace Fw100.Request
open Library Text Channel Session

/-- What follows the command in a line; the modem does not look at the case. -/
def stripCommand : CString → CString → Option CString
  | [], text => some text
  | _ :: _, [] => none
  | b :: command, a :: text => if toUpper a = b then stripCommand command text else none

/-- The value that an `AT+CMGF` command carries. A command is one line: the strings that a
request brings hold no CR. -/
def cmgfValue (text : CString) : Option CString := stripCommand (ascii "AT+CMGF=") text

def Event.commandText : Event → Option CString
  | .command s => some s
  | .smsCommand s _ => some s
  | _ => none

def commands (events : List Event) : List CString := events.filterMap Event.commandText

/-! ### The events of the building blocks -/

section Emits
variable {env : Environment} {P : Event → Prop}

theorem emits_succeeded (failed : ℤ → Bool) (err : ℤ) (p : Pointer) :
    Traced.Emits env P (succeeded failed err p) := by
  cases p with
  | none => exact .ite .pure .fault
  | some held => exact .pure

theorem emits_firstIntermediate (p : Pointer) : Traced.Emits env P (firstIntermediate p) := by
  cases p with
  | none => exact .fault
  | some held =>
    simp only [firstIntermediate]
    split
    · exact .fault
    · exact .pure

theorem emits_atResponseFree (hreleased : ∀ id, P (.released id)) (p : Pointer) :
    Traced.Emits env P (atResponseFree p) := by
  cases p with
  | none => exact .pure
  | some held => exact .emit (hreleased held.id)

theorem emits_completeThenFree (hcomplete : ∀ t e data, P (.complete t e data))
    (hreleased : ∀ id, P (.released id)) (t : Token) (e : RilErrno) (data : ResponseData)
    (p : Pointer) : Traced.Emits env P (completeThenFree t e data p) :=
  .bind (.emit (hcomplete t e data)) (fun _ => emits_atResponseFree hreleased p)

theorem emits_completeBySuccess (hcomplete : ∀ t e data, P (.complete t e data))
    (hreleased : ∀ id, P (.released id)) (failed : ℤ → Bool) (t : Token) (data : ResponseData)
    (failure : RilErrno) (x : ℤ × Pointer) :
    Traced.Emits env P (completeBySuccess failed t data failure x) :=
  .bind (emits_succeeded _ _ _) (fun _ => .ite (emits_completeThenFree hcomplete hreleased _ _ _ x.2)
    (emits_completeThenFree hcomplete hreleased _ _ _ x.2))

theorem emits_send {result : Call → Reply → ℤ × OutParam} {call : Call}
    {p : Pointer} (hcommand : P (commandEvent call)) (hobtained : ∀ id, P (.obtained id)) :
    Traced.Emits env P (send result call p) := by
  intro s e he
  rcases List.mem_cons.mp he with rfl | he
  · exact hcommand
  · generalize (result call (env.replies s.sent)).2 = out at he
    cases out with
    | response r =>
      rw [List.mem_singleton.mp he]
      exact hobtained _
    | _ => cases he

end Emits

/-! ### The handlers that do not select a format -/

def Event.cmgf (e : Event) : Option CString := e.commandText.bind cmgfValue

/-- None of the commands of this part selects a format. -/
abbrev Plain {α : Type} (env : Environment) (m : RilM α) : Prop :=
  Traced.Emits env (fun e => e.cmgf = none) m

section Plain
variable {env : Environment}

theorem plain_complete (t : Token) (e : RilErrno) (data : ResponseData) :
    Plain env (complete t e data) := .emit rfl

theorem plain_notify (n : Notification) : Plain env (notify n) := .emit rfl

theorem plain_getCtx : Plain env getCtx := .bind .current (fun _ => .pure)

theorem plain_modifyCtx (f : SessionCtx → SessionCtx) : Plain env (modifyCtx f) := .update

theorem plain_storeString (buffer : FixedBuffer) (size : ℕ) (text : CString) :
    Plain env (storeString buffer size text) := .ite .pure (.emit rfl)

theorem plain_deref {α : Type} (data : Option α) : Plain env (deref data) := by
  cases data with
  | none => exact .fault
  | some a => exact .pure

theorem plain_derefStrings (data : Option (List (Option CString))) (n : ℕ) :
    Plain env (derefStrings data n) :=
  .ite .pure (.bind (plain_deref data) (fun _ => .ite .pure .fault))

theorem plain_succeeded (failed : ℤ → Bool) (err : ℤ) (p : Pointer) :
    Plain env (succeeded failed err p) := emits_succeeded failed err p

theorem plain_firstIntermediate (p : Pointer) : Plain env (firstIntermediate p) :=
  emits_firstIntermediate p

theorem plain_atResponseFree (p : Pointer) : Plain env (atResponseFree p) :=
  emits_atResponseFree (fun _ => rfl) p

theorem cmgf_commandEvent (call : Call) : (commandEvent call).cmgf = cmgfValue call.command := by
  unfold commandEvent
  split <;> rfl

theorem plain_send {result : Call → Reply → ℤ × OutParam} {call : Call} {p : Pointer}
    (h : cmgfValue call.command = none) : Plain env (send result call p) :=
  emits_send ((cmgf_commandEvent call).trans h) (fun _ => rfl)

theorem plain_queryLine {failed : ℤ → Bool} {command responsePrefix : CString} {p : Pointer}
    (h : cmgfValue command = none) : Plain env (queryLine failed command responsePrefix p) := by
  refine .bind (plain_send h) (fun x => .bind (plain_succeeded _ _ _) (fun _ => ?_))
  exact .ite (.bind (plain_firstIntermediate _) (fun _ => .pure)) .pure

theorem plain_atSendCommandNull {command : CString} (h : cmgfValue command = none) :
    Plain env (atSendCommandNull command) := .bind (plain_send h) (fun _ => .pure)

theorem plain_completeThenFree (t : Token) (e : RilErrno) (data : ResponseData) (p : Pointer) :
    Plain env (completeThenFree t e data p) :=
  emits_completeThenFree (fun _ _ _ => rfl) (fun _ => rfl) t e data p

theorem plain_freeThenComplete (t : Token) (e : RilErrno) (data : ResponseData) (p : Pointer) :
    Plain env (freeThenComplete t e data p) :=
  .bind (plain_atResponseFree p) (fun _ => plain_complete t e data)

theorem plain_freeAll (ps : List Pointer) : Plain env (freeAll ps) := by
  induction ps with
  | nil => exact .pure
  | cons p ps ih => exact .bind (plain_atResponseFree p) (fun _ => ih)

theorem plain_completeThenFreeAll (t : Token) (e : RilErrno) (data : ResponseData)
    (ps : List Pointer) : Plain env (completeThenFreeAll t e data ps) :=
  .bind (plain_complete t e data) (fun _ => plain_freeAll ps)

/-- What follows a query for every line that the query yields. -/
theorem plain_query {α : Type} {failed : ℤ → Bool} {command responsePrefix : CString} {p : Pointer}
    {f : Pointer × Option CString → RilM α} (h : cmgfValue command = none)
    (hf : ∀ p line, Plain env (f (p, line))) :
    Plain env (queryLine failed command responsePrefix p >>= f) :=
  .bind (plain_queryLine h) (fun x => hf x.1 x.2)

theorem plain_setRadioState (newState : RadioState) : Plain env (setRadioState newState) := by
  refine .bind plain_getCtx (fun ctx => .bind (plain_modifyCtx _) (fun _ => ?_))
  refine .ite .pure (.bind (plain_notify _) (fun _ => ?_))
  exact .ite (.bind (plain_atSendCommandNull rfl) (fun _ => .pure)) (.ite (plain_notify _) .pure)

theorem plain_isRadioOn : Plain env isRadioOn :=
  plain_query rfl (fun p _ => .bind (plain_atResponseFree p) (fun _ => .pure))

theorem plain_requestRadioPower (data : Option ℤ) (datalen : ℕ) (t : Token) :
    Plain env (requestRadioPower data datalen t) := by
  have hdone : ∀ state (p : Pointer), Plain env (do
      setRadioState state
      freeThenComplete t .success .null p) := fun state p =>
    .bind (plain_setRadioState state) (fun _ => plain_freeThenComplete _ _ _ p)
  refine .ite .fault (.bind (plain_deref data) (fun _ => .bind plain_getCtx (fun ctx => ?_)))
  refine .ite ?_ (.ite ?_ (plain_freeThenComplete _ _ _ none))
  · refine .bind (plain_send rfl) (fun x => .bind (plain_succeeded _ _ _) (fun _ => ?_))
    exact .ite (hdone _ x.2) (plain_freeThenComplete _ _ _ x.2)
  · refine .bind (plain_send rfl) (fun x => .bind (plain_succeeded _ _ _) (fun _ => ?_))
    refine .ite (hdone _ x.2) (.bind plain_isRadioOn (fun _ => ?_))
    exact .ite (plain_freeThenComplete _ _ _ x.2) (hdone _ x.2)

theorem plain_sendAll {commands : List CString} (h : ∀ c ∈ commands, cmgfValue c = none) :
    Plain env (sendAll commands) := by
  induction commands with
  | nil => exact .pure
  | cons command commands ih =>
    refine .bind (plain_atSendCommandNull (h command (.head _))) (fun _ => .ite .pure ?_)
    exact ih (fun c hc => h c (.tail _ hc))

theorem plain_requestScreenState (data : Option ℤ) (datalen : ℕ) (t : Token) :
    Plain env (requestScreenState data datalen t) := by
  refine .ite .fault (.bind (plain_deref data) (fun _ => ?_))
  refine .ite ?_ (.ite ?_ (plain_complete _ _ _))
  · refine .bind (plain_sendAll (by decide)) (fun _ => .ite ?_ (plain_complete _ _ _))
    exact .bind (plain_notify _) (fun _ => .bind (plain_modifyCtx _) (fun _ => plain_complete _ _ _))
  · refine .bind (plain_sendAll (by decide)) (fun _ => .ite ?_ (plain_complete _ _ _))
    exact .bind (plain_modifyCtx _) (fun _ => plain_complete _ _ _)

theorem plain_requestSignalStrength (t : Token) : Plain env (requestSignalStrength t) := by
  refine plain_query rfl (fun p line => ?_)
  dsimp only
  split
  · exact .bind (plain_complete _ _ _) (fun _ => plain_completeThenFree _ _ _ p)
  · split <;> exact plain_completeThenFree _ _ _ p

theorem plain_requestRegistrationStateEVDO (request : RegistrationRequest) (t : Token) :
    Plain env (requestRegistrationStateEVDO request t) := by
  refine plain_query rfl (fun status line => ?_)
  dsimp only
  split
  · exact plain_completeThenFreeAll _ _ _ _
  refine plain_query rfl (fun protocolrev line => ?_)
  dsimp only
  split
  · exact plain_completeThenFreeAll _ _ _ _
  refine plain_query rfl (fun sidnid line => ?_)
  dsimp only
  split
  · exact plain_completeThenFreeAll _ _ _ _
  refine plain_query rfl (fun roaming line => ?_)
  dsimp only
  split <;> exact plain_completeThenFreeAll _ _ _ _

theorem plain_requestQueryNetworkSelectionMode (t : Token) :
    Plain env (requestQueryNetworkSelectionMode t) := by
  refine plain_query rfl (fun p line => ?_)
  dsimp only
  split
  · exact plain_freeThenComplete _ _ _ p
  · exact .bind plain_getCtx (fun _ => plain_completeThenFree _ _ _ p)

theorem plain_setNetworkSelection {command : CString} (h : cmgfValue command = none) (mode : ℤ)
    (t : Token) : Plain env (setNetworkSelection command mode t) :=
  .bind (plain_atSendCommandNull h) (fun _ =>
    .bind (plain_modifyCtx _) (fun _ => plain_complete _ _ _))

theorem plain_requestGetIMEI (t : Token) : Plain env (requestGetIMEI t) := by
  refine plain_query rfl (fun p line => ?_)
  dsimp only
  split <;> exact plain_completeThenFree _ _ _ p

theorem plain_requestBasebandVersion (t : Token) : Plain env (requestBasebandVersion t) := by
  refine .bind .environment (fun _ => plain_query rfl (fun p line => ?_))
  dsimp only
  split
  · exact plain_complete _ _ _
  refine plain_query rfl (fun p line => ?_)
  dsimp only
  split
  · exact plain_complete _ _ _
  refine plain_query rfl (fun p line => ?_)
  dsimp only
  split <;> exact plain_complete _ _ _

theorem plain_requestGetPreferredNetworkType (t : Token) :
    Plain env (requestGetPreferredNetworkType t) := by
  refine plain_query rfl (fun p line => ?_)
  dsimp only
  split <;> exact plain_completeThenFree _ _ _ p

theorem plain_requestSetPreferredNetworkType (data : Option ℤ) (t : Token) :
    Plain env (requestSetPreferredNetworkType data t) := by
  refine .bind (plain_deref data) (fun mode => ?_)
  split
  · exact plain_completeThenFree _ _ _ none
  · exact .bind (plain_atSendCommandNull rfl) (fun _ =>
      .ite (plain_completeThenFree _ _ _ none) (plain_complete _ _ _))

theorem plain_networkDone (p p2 : Pointer) (info : NetworkInfo) :
    Plain env (networkDone p p2 info) := by
  refine .bind (plain_modifyCtx _) (fun _ => .bind (plain_atResponseFree p) (fun _ => ?_))
  refine .bind (plain_atResponseFree p2) (fun _ => .bind plain_getCtx (fun _ => ?_))
  exact .bind (.emit rfl) (fun _ => .pure)

theorem plain_networkError (p p2 : Pointer) : Plain env (networkError p p2) :=
  .bind (plain_atResponseFree p) (fun _ => .bind (plain_atResponseFree p2) (fun _ => .pure))

theorem plain_getNetworkInfo : Plain env getNetworkInfo := by
  have hsearch : ∀ p mccmnc, Plain env (searchOperator p mccmnc) := by
    intro p mccmnc
    unfold searchOperator
    split
    · exact plain_networkDone p none _
    · refine plain_query rfl (fun p2 line => ?_)
      dsimp only
      split
      · exact plain_networkError p p2
      · exact plain_networkDone p p2 _
  refine plain_query rfl (fun p line => ?_)
  dsimp only
  split
  · exact plain_networkError p none
  · refine .bind .environment (fun _ => ?_)
    split
    · exact .fault
    · exact .bind (plain_storeString _ _ _) (fun _ => hsearch p _)

theorem plain_requestOperator (t : Token) : Plain env (requestOperator t) := by
  refine .bind plain_getNetworkInfo (fun info => ?_)
  cases info with
  | none => exact plain_complete _ _ _
  | some info =>
    exact .bind .environment (fun _ => .bind (plain_storeString _ _ _) (fun _ => plain_complete _ _ _))

theorem plain_requestQueryAvailableNetworks (t : Token) :
    Plain env (requestQueryAvailableNetworks t) := by
  refine .bind plain_getNetworkInfo (fun info => ?_)
  cases info with
  | none => exact plain_complete _ _ _
  | some info => exact .bind .environment (fun _ => plain_complete _ _ _)

theorem plain_requestGetIMSI (t : Token) : Plain env (requestGetIMSI t) := by
  refine .bind plain_getNetworkInfo (fun info => ?_)
  cases info with
  | none => exact plain_completeThenFree _ _ _ none
  | some info =>
    refine plain_query rfl (fun p line => ?_)
    dsimp only
    split
    · exact plain_completeThenFree _ _ _ p
    · refine .bind .environment (fun _ => .bind (plain_storeString _ _ _) (fun _ => ?_))
      exact plain_completeThenFree _ _ _ p

theorem plain_fireAndForget {command : CString} (h : cmgfValue command = none) (t : Token) :
    Plain env (fireAndForget command t) :=
  .bind (plain_atSendCommandNull h) (fun _ => plain_complete _ _ _)

theorem plain_requestSeparateConnection (data : Option ℤ) (t : Token) :
    Plain env (requestSeparateConnection data t) :=
  .bind (plain_deref data) (fun _ => .ite (plain_fireAndForget rfl t) (plain_complete _ _ _))

theorem plain_completeBySuccess (failed : ℤ → Bool) (t : Token) (data : ResponseData)
    (failure : RilErrno) (x : ℤ × Pointer) : Plain env (completeBySuccess failed t data failure x) :=
  emits_completeBySuccess (fun _ _ _ => rfl) (fun _ => rfl) failed t data failure x

theorem plain_requestSMSAcknowledge (data : Option ℤ) (t : Token) :
    Plain env (requestSMSAcknowledge data t) := by
  have htwice : ∀ {command : CString}, cmgfValue command = none → Plain env (do
      fireAndForget command t
      complete t .genericFailure .null) := fun h =>
    .bind (plain_fireAndForget h t) (fun _ => plain_complete _ _ _)
  exact .bind (plain_deref data) (fun _ =>
    .ite (htwice rfl) (.ite (htwice rfl) (plain_complete _ _ _)))

theorem plain_requestSimIo (data : Option SimIo) (t : Token) :
    Plain env (requestSimIo data t) := by
  refine .bind (plain_deref data) (fun args => ?_)
  refine plain_query rfl (fun p line => ?_)
  dsimp only
  split <;> exact plain_completeThenFree _ _ _ p

theorem plain_cpinText {strings : List (Option CString)} {command : CString}
    (h : cpinText strings = some command) : cmgfValue command = none := by
  unfold cpinText at h
  split at h
  · obtain rfl := Option.some.inj h
    rfl
  · obtain rfl := Option.some.inj h
    rfl
  · cases h

theorem plain_requestEnterSimPin (data : Option (List (Option CString))) (datalen : ℕ) (t : Token) :
    Plain env (requestEnterSimPin data datalen t) := by
  refine .bind (plain_derefStrings data _) (fun strings => ?_)
  split
  · exact plain_completeThenFree _ _ _ none
  · next command hcommand =>
    exact .bind (plain_send (plain_cpinText hcommand)) (fun x => plain_completeBySuccess _ _ _ _ x)

theorem plain_requestCancelUSSD (t : Token) : Plain env (requestCancelUSSD t) := by
  refine .bind (plain_send rfl) (fun x => .bind (plain_succeeded _ _ _) (fun _ => ?_))
  refine .ite ?_ (plain_completeThenFree _ _ _ x.2)
  exact .bind (plain_firstIntermediate x.2) (fun _ => plain_completeThenFree _ _ _ x.2)

theorem plain_requestGetCurrentCallsEVDO (t : Token) :
    Plain env (requestGetCurrentCallsEVDO t) := by
  refine .bind (plain_send rfl) (fun x => .bind (plain_succeeded _ _ _) (fun _ => ?_))
  refine .ite ?_ (plain_complete _ _ _)
  split
  · exact .fault
  · exact plain_completeThenFree _ _ _ _

theorem plain_requestSetupDataCallEVDO (t : Token) : Plain env (requestSetupDataCallEVDO t) := by
  refine .bind .environment (fun _ => .bind plain_getCtx (fun _ => ?_))
  refine .bind (plain_storeString _ _ _) (fun _ => .bind (.emit rfl) (fun _ => ?_))
  refine .ite (plain_complete _ _ _) ?_
  split
  · exact plain_complete _ _ _
  · refine .bind (plain_modifyCtx _) (fun _ => .bind (plain_storeString _ _ _) (fun _ => ?_))
    refine .bind (plain_storeString _ _ _) (fun _ => .bind (plain_storeString _ _ _) (fun _ => ?_))
    exact .bind plain_getCtx (fun _ => plain_complete _ _ _)

theorem plain_requestDeactivateDataCallEVDO (t : Token) :
    Plain env (requestDeactivateDataCallEVDO t) := by
  refine .bind (plain_atSendCommandNull rfl) (fun _ => .bind ?_ (fun _ => ?_))
  · exact .bind .environment (fun _ => .ite (.emit rfl) .pure)
  · refine .bind (plain_modifyCtx _) (fun _ => ?_)
    exact .bind (plain_complete _ _ _) (fun _ => plain_notify _)

theorem plain_requestDataCallList (t : Token) : Plain env (requestDataCallList t) :=
  .bind plain_getCtx (fun _ => .bind (plain_complete _ _ _) (fun _ => plain_complete _ _ _))

theorem plain_sendBody (data : Option SmsArgs) (t : Token) : Plain env (do
    let args ← deref data
    let pdu ← deref args.pdu
    let body ← storeTerminator pdu
    storeString .smsLog 128 (smsLogText args.smsc pdu body)
    let x ← atSendCommandSms (ascii "AT^HCMGS=" ++ args.smsc.getD (ascii "00")) body
      (ascii "^HCMGS:") none
    completeBySuccess isNonzero t .smsResponse .genericFailure x) := by
  refine .bind (plain_deref data) (fun args => .bind (plain_deref args.pdu) (fun pdu => ?_))
  refine .bind (.ite (.bind (.emit rfl) (fun _ => .pure)) .pure) (fun body => ?_)
  refine .bind (plain_storeString _ _ _) (fun _ => .bind (plain_send rfl) (fun x => ?_))
  exact plain_completeBySuccess _ _ _ _ x

def RilRequest.sendsMessage : RilRequest → Bool
  | .sendSms _ => true
  | _ => false

theorem plain_handle (t : Token) {request : RilRequest} (h : request.sendsMessage = false) :
    Plain env (handle t request) := by
  cases request with
  | getSimStatus => exact plain_complete _ _ _
  | getCurrentCalls => exact plain_requestGetCurrentCallsEVDO t
  | screenState data datalen => exact plain_requestScreenState data datalen t
  | radioPower data datalen => exact plain_requestRadioPower data datalen t
  | dial data => exact .bind (plain_deref data) (fun _ => plain_fireAndForget rfl t)
  | hangup data => exact .bind (plain_deref data) (fun _ => plain_fireAndForget rfl t)
  | hangupWaitingOrBackground => exact plain_fireAndForget rfl t
  | hangupForegroundResumeBackground => exact plain_fireAndForget rfl t
  | switchWaitingOrHoldingAndActive => exact plain_fireAndForget rfl t
  | answer => exact plain_fireAndForget rfl t
  | conference => exact plain_fireAndForget rfl t
  | udub => exact plain_fireAndForget rfl t
  | separateConnection data => exact plain_requestSeparateConnection data t
  | signalStrength => exact plain_requestSignalStrength t
  | registration request => exact plain_requestRegistrationStateEVDO request t
  | operator => exact plain_requestOperator t
  | dtmf data => exact .bind (plain_deref data) (fun _ => plain_fireAndForget rfl t)
  | sendSms data => cases h
  | setupDataCall => exact plain_requestSetupDataCallEVDO t
  | deactivateDataCall => exact plain_requestDeactivateDataCallEVDO t
  | lastDataCallFailCause => exact plain_complete _ _ _
  | smsAcknowledge data => exact plain_requestSMSAcknowledge data t
  | getIMSI => exact plain_requestGetIMSI t
  | basebandVersion => exact plain_requestBasebandVersion t
  | getIMEI => exact plain_requestGetIMEI t
  | setPreferredNetworkType data => exact plain_requestSetPreferredNetworkType data t
  | getPreferredNetworkType => exact plain_requestGetPreferredNetworkType t
  | simIo data => exact plain_requestSimIo data t
  | sendUSSD => exact plain_complete _ _ _
  | cancelUSSD => exact plain_requestCancelUSSD t
  | queryNetworkSelectionMode => exact plain_requestQueryNetworkSelectionMode t
  | setNetworkSelectionAutomatic => exact plain_setNetworkSelection rfl _ t
  | setNetworkSelectionManual => exact plain_setNetworkSelection rfl _ t
  | queryAvailableNetworks => exact plain_requestQueryAvailableNetworks t
  | dataCallList => exact plain_requestDataCallList t
  | oemHookRaw data => exact plain_complete _ _ _
  | oemHookStrings data datalen =>
    exact .bind (plain_derefStrings data _) (fun _ => plain_complete _ _ _)
  | writeSmsToSim data =>
    refine .bind (plain_deref data) (fun args => .bind (plain_deref args.pdu) (fun _ => ?_))
    exact .bind (plain_send rfl) (fun x => plain_completeBySuccess _ _ _ _ x)
  | deleteSmsOnSim data =>
    refine .bind (plain_deref data) (fun _ => ?_)
    exact .bind (plain_send rfl) (fun x => plain_completeBySuccess _ _ _ _ x)
  | enterSimPin request data datalen => exact plain_requestEnterSimPin data datalen t
  | other code => exact plain_complete _ _ _

/-! #### The calls of the main loop -/

theorem plain_pollSignalStrength (saved : CharArray 64) : Plain env (pollSignalStrength saved) := by
  refine plain_query rfl (fun p line => ?_)
  dsimp only
  split
  · exact .bind (plain_atResponseFree p) (fun _ => .pure)
  · refine .ite .pure ?_
    split
    · exact .bind (plain_atResponseFree p) (fun _ => .pure)
    · exact .bind (plain_notify _) (fun _ => .bind (plain_atResponseFree p) (fun _ => .pure))

theorem plain_pollNetworkRegistration (saved : CharArray 64) :
    Plain env (pollNetworkRegistration saved) := by
  refine plain_query rfl (fun p line => ?_)
  dsimp only
  split
  · exact .bind (plain_atResponseFree p) (fun _ => .pure)
  · refine .ite .pure (.bind (plain_notify _) (fun _ => ?_))
    exact .bind (plain_atResponseFree p) (fun _ => .pure)

theorem plain_fw100ModemTimer (saved : PollSaved) : Plain env (fw100ModemTimer saved) := by
  have htty : ∀ ctx : SessionCtx, Plain env
      (if ctx.gpsTtyEnable then Traced.emit (.writeGPSTty gpsTestGpgsa) else pure ()) :=
    fun ctx => .ite (.emit rfl) .pure
  have hsentences : Plain env writeTestSentences :=
    .bind plain_getCtx (fun ctx => .ite (.bind (.emit rfl) (fun _ => htty ctx)) (htty ctx))
  refine .bind (plain_pollSignalStrength _) (fun _ => ?_)
  refine .bind (plain_pollNetworkRegistration _) (fun _ => ?_)
  exact .bind hsentences (fun _ => .pure)

theorem plain_readerLines (lines : List ReaderLine) : Plain env (readerLines lines) := by
  have hone : ∀ line : ReaderLine, Plain env (readerLine line) := by
    intro line s e he
    obtain ⟨u, -, rfl⟩ := List.mem_map.mp he
    cases u <;> rfl
  induction lines with
  | nil => exact .pure
  | cons line lines ih => exact .bind (hone line) (fun _ => ih)

theorem plain_queryDuring {lines : List ReaderLine} {command responsePrefix : CString}
    (h : cmgfValue command = none) : Plain env (queryDuring lines command responsePrefix) :=
  .bind (plain_queryLine h) (fun _ => .bind (plain_readerLines lines) (fun _ => .pure))

theorem plain_activateDone (ret : ℤ) (ps : List Pointer) : Plain env (activateDone ret ps) :=
  .bind (plain_freeAll ps) (fun _ =>
    .bind plain_getCtx (fun _ => .bind (.emit rfl) (fun _ => .pure)))

theorem plain_waitForOta (asleep : ℕ → List ReaderLine) (tries n : ℕ) :
    Plain env (waitForOta asleep tries n) := by
  induction tries generalizing n with
  | zero => exact plain_readerLines _
  | succ tries ih =>
    exact .bind (plain_readerLines _) (fun _ => .bind plain_getCtx (fun _ => .ite (ih _) .pure))

theorem plain_otaspCall (reader : ReaderThread) (ps : List Pointer) :
    Plain env (otaspCall reader ps) := by
  have hconfirm : ∀ ps, Plain env (confirmMdn reader ps) := by
    intro ps
    refine .bind (plain_queryDuring rfl) (fun x => ?_)
    dsimp only
    split
    · exact plain_activateDone _ _
    · exact .bind (plain_modifyCtx _) (fun _ => plain_activateDone _ _)
  refine .bind (plain_modifyCtx _) (fun _ => .bind (plain_send rfl) (fun x => ?_))
  refine .bind (plain_readerLines _) (fun _ => .bind (plain_waitForOta _ _ _) (fun _ => ?_))
  refine .bind (plain_readerLines _) (fun _ => .bind plain_getCtx (fun _ => ?_))
  exact .ite (.bind (plain_modifyCtx _) (fun _ => hconfirm _)) (plain_activateDone _ _)

theorem plain_activateCarrier (reader : ReaderThread) (ps : List Pointer) :
    Plain env (activateCarrier reader ps) := by
  have hauto : ∀ ps, Plain env (autoActivate reader ps) := by
    intro ps
    refine .bind plain_getCtx (fun _ => .ite (plain_activateDone _ _) ?_)
    refine .bind (plain_modifyCtx _) (fun _ => .bind plain_getCtx (fun _ => ?_))
    refine .ite ?_ (plain_otaspCall reader ps)
    exact .bind (plain_modifyCtx _) (fun _ => plain_activateDone _ _)
  refine .bind (plain_queryDuring rfl) (fun x => ?_)
  dsimp only
  split
  · exact plain_activateDone _ _
  · exact .ite (plain_activateDone _ _) (.ite (hauto _) (plain_activateDone _ _))

theorem plain_activateHelper (reader : ReaderThread) : Plain env (activateHelper reader) := by
  refine .bind (plain_queryDuring rfl) (fun x => ?_)
  dsimp only
  split
  · exact plain_activateDone _ _
  refine .bind (.bind (plain_storeString _ _ _) (fun _ => plain_modifyCtx _)) (fun _ => ?_)
  refine .bind (plain_queryDuring rfl) (fun x => ?_)
  split
  · exact plain_activateDone _ _
  · refine .ite (plain_activateCarrier reader _) (.bind (plain_modifyCtx _) (fun _ => ?_))
    exact .bind (plain_modifyCtx _) (fun _ => plain_activateDone _ _)

theorem plain_mainLoop (c : MainLoopCall) : Plain env c.call := by
  cases c with
  | modemTimer saved => exact .bind (plain_fw100ModemTimer saved) (fun _ => .pure)
  | activateHelper reader => exact .bind (plain_activateHelper reader) (fun _ => .pure)

end Plain

end Fw100.Request
