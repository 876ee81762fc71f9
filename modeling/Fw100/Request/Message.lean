import Fw100.Request.Calls

/-!
# Messages and the card

Short messages, access to the card and supplementary services.
-/
namespace Fw100.Request
open Library Text Channel Session

variable {env : Environment}

/-- A command whose success alone decides how the request is completed. -/
def completeBySuccess (failed : ℤ → Bool) (t : Token) (data : ResponseData) (failure : RilErrno)
    (x : ℤ × Pointer) : RilM Unit := do
  if ← succeeded failed x.1 x.2 then completeThenFree t .success data x.2
  else completeThenFree t failure .null x.2

theorem completes_completeBySuccess {failed : ℤ → Bool} (hf : TestsZero failed) (t : Token)
    (data : ResponseData) (failure : RilErrno) {x : ℤ × Pointer} (h : Usable x.1 x.2) :
    Completes env t (completeBySuccess failed t data failure x) := by
  refine .silent_bind (shows_succeeded hf h) (fun _ _ => ?_)
  exact .ite (fun _ => completes_completeThenFree _ _ _ _)
    (fun _ => completes_completeThenFree _ _ _ _)

def terminatePdu (pdu : CString) : CString :=
  if pdu.getLast? = some 26 then pdu else pdu.dropLast ++ [26]

/-- The body that is sent. `pdu[len-1]` of an empty one lies in front of it. -/
def storeTerminator (pdu : CString) : RilM CString :=
  if pdu = [] then do
    Traced.emit (.overrun .smsPdu)
    pure []
  else pure (terminatePdu pdu)

/-- The text that is printed into `tmp[128]`. -/
def smsLogText (smsc : Option CString) (pdu body : CString) : CString :=
  ascii "smsc=" ++ smsc.getD (ascii "00") ++ ascii " pdu=" ++ body ++ ascii " ctrlz=" ++
    (if pdu.getLast? = some 26 then ascii "0" else ascii "1") ++ ascii " nulsmsc=" ++
    (if smsc.isNone then ascii "1" else ascii "0") ++ ascii "\n"

/-- The two strings that the payload points at. -/
structure SmsArgs where
  smsc : Option CString
  pdu : Option CString
deriving DecidableEq, Repr

def requestSendSMSEVDO (data : Option SmsArgs) (t : Token) : RilM Unit := do
  let _ ← atSendCommandNull (ascii "at+cmgf=1")
  let args ← deref data
  let pdu ← deref args.pdu
  let body ← storeTerminator pdu
  storeString .smsLog 128 (smsLogText args.smsc pdu body)
  let x ← atSendCommandSms (ascii "AT^HCMGS=" ++ args.smsc.getD (ascii "00")) body
    (ascii "^HCMGS:") none
  completeBySuccess isNonzero t .smsResponse .genericFailure x

/-- There is a body and its log line fits. -/
def SmsArgs.Fits (args : SmsArgs) : Prop :=
  ∃ pdu, args.pdu = some pdu ∧ pdu ≠ [] ∧
    (smsLogText args.smsc pdu (terminatePdu pdu)).length < 128

theorem showsAt_requestSendSMSEVDO_iff {s : RequestState} (data : Option SmsArgs) (t : Token) :
    ShowsAt env s [.completed t] (requestSendSMSEVDO data t) (fun _ _ => True) ↔
      ∃ args, data = some args ∧ args.Fits := by
  unfold requestSendSMSEVDO SmsArgs.Fits
  obtain ⟨_, s', -, hbind⟩ := ShowsAt.silent_bind_iff (α := Unit)
    (ShowsAt.of_shows (quiet_atSendCommandNull (ascii "at+cmgf=1")) s)
  rw [hbind, showsAt_deref_bind_iff]
  refine exists_congr (fun args => and_congr_right (fun _ => ?_))
  rw [showsAt_deref_bind_iff]
  refine exists_congr (fun pdu => and_congr_right (fun _ => ?_))
  by_cases hpdu : pdu = []
  · refine iff_of_false ?_ (by simp [hpdu])
    rw [ShowsAt, Traced.ends_bind, storeTerminator, if_pos hpdu, Traced.ends_bind, Traced.ends_emit,
      Traced.ends_pure]
    rintro ⟨_, -, hmarks, -⟩
    simp [Event.mark] at hmarks
  · have hbody : storeTerminator pdu = pure (terminatePdu pdu) := by rw [storeTerminator, if_neg hpdu]
    have hsend : ∀ s, ShowsAt env s [.completed t] (do
        let x ← atSendCommandSms (ascii "AT^HCMGS=" ++ args.smsc.getD (ascii "00"))
          (terminatePdu pdu) (ascii "^HCMGS:") none
        completeBySuccess isNonzero t .smsResponse .genericFailure x) (fun _ _ => True) := fun s =>
      Traced.Observes.silent_bind (shows_send_checked rfl none)
        (fun x hx => completes_completeBySuccess testsZero_isNonzero t _ _ hx.1) s
    rw [hbody, ShowsAt.pure_bind, ShowsAt.store_bind]
    simp [hpdu, hsend]

/-- The completion with success is followed by the one at the error label. -/
def requestSMSAcknowledge (data : Option ℤ) (t : Token) : RilM Unit := do
  let ackSuccess ← deref data
  if ackSuccess = 1 then
    fireAndForget (ascii "AT+CNMA=1") t
    complete t .genericFailure .null
  else if ackSuccess = 0 then
    fireAndForget (ascii "AT+CNMA=2") t
    complete t .genericFailure .null
  else complete t .genericFailure .null

theorem showsAt_requestSMSAcknowledge_iff {s : RequestState} (data : Option ℤ) (t : Token) :
    ShowsAt env s [.completed t] (requestSMSAcknowledge data t) (fun _ _ => True) ↔
      ∃ ackSuccess, data = some ackSuccess ∧ ackSuccess ≠ 0 ∧ ackSuccess ≠ 1 := by
  have htwice : ∀ command, ¬ ShowsAt env s [.completed t] (do
      fireAndForget command t
      complete t .genericFailure .null) (fun _ _ => True) := by
    intro command honce
    have hboth : Shows env [.completed t, .completed t] (do
        fireAndForget command t
        complete t .genericFailure .null) (fun _ => True) :=
      (completes_fireAndForget command t).bind (fun _ _ => completes_complete _ _ _)
    have hsame := (hboth.ends_iff _).mp (honce.mono (fun _ _ _ h => h.1))
    simp at hsame
  rw [requestSMSAcknowledge, showsAt_deref_bind_iff]
  refine exists_congr (fun ackSuccess => and_congr_right (fun _ => ?_))
  split
  · next h1 => exact iff_of_false (htwice _) (by simp [h1])
  · next h1 =>
    split
    · next h0 => exact iff_of_false (htwice _) (by simp [h0])
    · next h0 => exact iff_of_true (completes_complete _ _ _ s) ⟨h0, h1⟩

/-- The fields of `RIL_SMS_WriteArgs` that are sent. -/
structure SmsWriteArgs where
  pdu : Option CString
  status : ℤ
deriving DecidableEq, Repr

def requestWriteSmsToSim (data : Option SmsWriteArgs) (t : Token) : RilM Unit := do
  let args ← deref data
  let pdu ← deref args.pdu
  let x ← atSendCommandSms
    (ascii "AT+CMGW=" ++ decimal (pdu.length / 2 : ℕ) ++ ascii "," ++ decimal args.status) pdu
    (ascii "+CMGW:") none
  completeBySuccess isNonzero t .null .genericFailure x

theorem showsAt_requestWriteSmsToSim_iff {s : RequestState} (data : Option SmsWriteArgs)
    (t : Token) :
    ShowsAt env s [.completed t] (requestWriteSmsToSim data t) (fun _ _ => True) ↔
      ∃ args, data = some args ∧ args.pdu.isSome = true := by
  rw [requestWriteSmsToSim, showsAt_deref_bind_iff]
  refine exists_congr (fun args => and_congr_right (fun _ => showsAt_deref_iff (fun pdu => ?_)))
  exact .silent_bind (shows_send_checked rfl none)
    (fun _ hx => completes_completeBySuccess testsZero_isNonzero t _ _ hx.1)

def requestDeleteSmsOnSim (data : Option ℤ) (t : Token) : RilM Unit := do
  let index ← deref data
  let x ← atSendCommand (ascii "AT+CMGD=" ++ decimal index) none
  completeBySuccess isNegative t .null .genericFailure x

theorem showsAt_requestDeleteSmsOnSim_iff {s : RequestState} (data : Option ℤ) (t : Token) :
    ShowsAt env s [.completed t] (requestDeleteSmsOnSim data t) (fun _ _ => True) ↔
      data.isSome = true :=
  showsAt_deref_iff (fun _ => .silent_bind (shows_atSendCommand _ _)
    (fun _ hx => completes_completeBySuccess testsZero_isNegative t _ _ hx))

structure SimIo where
  command : ℤ
  fileid : ℤ
  p1 : ℤ
  p2 : ℤ
  p3 : ℤ
  data : Option CString
deriving DecidableEq, Repr

def SimIo.text (args : SimIo) : CString :=
  ascii "AT+CRSM=" ++ decimal args.command ++ ascii "," ++ decimal args.fileid ++ ascii "," ++
    decimal args.p1 ++ ascii "," ++ decimal args.p2 ++ ascii "," ++ decimal args.p3 ++
    match args.data with
    | none => []
    | some data => ascii "," ++ data

def crsmFields (line : CString) : Option (ℤ × ℤ × Option CString) := do
  let cur ← tokStart line
  let (sw1, cur) ← tokInt cur
  let (sw2, cur) ← tokInt cur
  if atTokHasmore cur then
    let (simResponse, _) ← tokStr cur
    pure (sw1, sw2, some simResponse)
  else pure (sw1, sw2, none)

def requestSimIo (data : Option SimIo) (t : Token) : RilM Unit := do
  let args ← deref data
  let (p, line) ← queryLine isNegative args.text (ascii "+CRSM:") none
  match line.bind crsmFields with
  | none => completeThenFree t .genericFailure .null p
  | some (sw1, sw2, simResponse) => completeThenFree t .success (.simIo sw1 sw2 simResponse) p

theorem showsAt_requestSimIo_iff {s : RequestState} (data : Option SimIo) (t : Token) :
    ShowsAt env s [.completed t] (requestSimIo data t) (fun _ _ => True) ↔ data.isSome = true := by
  refine showsAt_deref_iff (fun args => ?_)
  apply completes_query testsZero_isNegative
  intro p line
  dsimp only
  split
  · exact completes_completeThenFree _ _ _ _
  · exact completes_completeThenFree _ _ _ _

/-- The number of strings that are read; `datalen` admits no other length. -/
def pinCount (datalen : ℕ) : ℕ :=
  if datalen = sizeofPointer then 1 else if datalen = 2 * sizeofPointer then 2 else 0

def cpinText : List (Option CString) → Option CString
  | [pin] => some (ascii "AT+CPIN=" ++ printString pin)
  | [puk, pin] => some (ascii "AT+CPIN=" ++ printString puk ++ ascii "," ++ printString pin)
  | _ => none

def requestEnterSimPin (data : Option (List (Option CString))) (datalen : ℕ) (t : Token) :
    RilM Unit := do
  let strings ← derefStrings data (pinCount datalen)
  match cpinText strings with
  | none => completeThenFree t .passwordIncorrect .null none
  | some command =>
    let x ← atSendCommandSingleline command (ascii "+CPIN:") none
    completeBySuccess isNegative t .null .passwordIncorrect x

theorem showsAt_requestEnterSimPin_iff {s : RequestState} (data : Option (List (Option CString)))
    (datalen : ℕ) (t : Token) :
    ShowsAt env s [.completed t] (requestEnterSimPin data datalen t) (fun _ _ => True) ↔
      pinCount datalen ≤ (data.getD []).length := by
  refine showsAt_derefStrings_iff (fun strings => ?_)
  split
  · exact completes_completeThenFree _ _ _ _
  · exact .silent_bind (shows_send_checked rfl none)
      (fun _ hx => completes_completeBySuccess testsZero_isNegative t _ _ hx.1)

def requestSendUSSD (t : Token) : RilM Unit := complete t .requestNotSupported .null

def requestCancelUSSD (t : Token) : RilM Unit := do
  let (err, p) ← atSendCommandNumeric (ascii "AT+CUSD=2") none
  if ← succeeded isNegative err p then
    let line ← firstIntermediate p
    completeThenFree t .success (.string line) p
  else completeThenFree t .genericFailure .null p

theorem completes_requestCancelUSSD (t : Token) : Completes env t (requestCancelUSSD t) := by
  apply Traced.Observes.silent_bind (shows_send_checked rfl none)
  rintro ⟨err, p⟩ hline
  refine .silent_bind (shows_succeeded testsZero_isNegative hline.1) (fun ok hok => ?_)
  refine .ite (fun hb => ?_) (fun _ => completes_completeThenFree _ _ _ _)
  rcases hok hb with ⟨h0, held, rfl, hsuccess⟩
  apply Traced.Observes.silent_bind (shows_firstIntermediate (hline.2 held rfl h0 hsuccess))
  exact fun _ _ => completes_completeThenFree _ _ _ _

end Fw100.Request
