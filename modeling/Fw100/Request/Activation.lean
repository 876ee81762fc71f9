import Fw100.Library.Machine
import Fw100.Session.Unsolicited
import Fw100.Request.Device

/-!
# Activation of the module

`activateHelper` reads the identity and the number of the module and, for one carrier, makes
the provisioning call. While it waits, the reader thread goes on handling lines; what it
records about the call decides how the helper ends.
-/
namespace Fw100.Request
open Library Text Channel Session

def UnsolEvent.event : UnsolEvent → Event
  | .notify n => .notify n
  | .writeGPSFifo sentence => .writeGPSFifo sentence
  | .writeGPSTty sentence => .writeGPSTty sentence

def readerLine (line : ReaderLine) : RilM Unit := fun _ s =>
  ⟨.ok (), { s with ctx := (line.handle s.ctx).1 }, (line.handle s.ctx).2.map UnsolEvent.event⟩

def readerLines : List ReaderLine → RilM Unit
  | [] => pure ()
  | line :: lines => do
    readerLine line
    readerLines lines

/-- The lines that the reader thread handles during one call of `activateHelper`. -/
structure ReaderThread where
  /-- While the command with this number is under way. -/
  during : ℕ → List ReaderLine
  /-- During each second of the wait. -/
  asleep : ℕ → List ReaderLine
  /-- Between the wait and the look at the message. -/
  behind : List ReaderLine

def ReaderThread.idle : ReaderThread := ⟨fun _ => [], fun _ => [], []⟩

def queryDuring (lines : List ReaderLine) (command responsePrefix : CString) :
    RilM (Pointer × Option CString) := do
  let x ← queryLine isNonzero command responsePrefix none
  readerLines lines
  pure x

/-- `strncpy` and `strToUpper`, which runs on behind an array without a NUL. -/
def saveMeid (line : CString) : RilM Unit := do
  storeString .meid 32 (line.drop 6)
  modifyCtx (fun ctx => { ctx with meid := (CharArray.copy 32 (line.drop 6)).toUpper })

def saveMdn (line : CString) : RilM Unit :=
  modifyCtx (fun ctx => { ctx with mdn := .copy 32 (line.drop 6) })

/-- The test of three characters of the raw line. -/
def mdnIsZero (text : CString) : Bool :=
  text[6]? == some 48 && text[7]? == some 48 && text[8]? == some 48

def activateDone (ret : ℤ) (ps : List Pointer) : RilM ℤ := do
  freeAll ps
  let ctx ← getCtx
  Traced.emit (.wroteStatus (rilWriteStatus ctx))
  pure ret

/-- The wait for the end of the call: one second at least, and up to `tries` more. -/
def waitForOta (asleep : ℕ → List ReaderLine) : ℕ → ℕ → RilM Unit
  | 0, n => readerLines (asleep n)
  | tries + 1, n => do
    readerLines (asleep n)
    let ctx ← getCtx
    if ctx.otaMsgCnt < 5 then waitForOta asleep tries (n + 1) else pure ()

def confirmMdn (reader : ReaderThread) (ps : List Pointer) : RilM ℤ := do
  let (verify, line) ← queryDuring (reader.during 4) (ascii "AT+VMDN?") (ascii "+VMDN:")
  match line with
  | none => activateDone (-2) (ps ++ [verify])
  | some line => do
    saveMdn line
    activateDone 0 (ps ++ [verify])

/-- The provisioning call. Its result is ignored; the message that comes in decides. -/
def otaspCall (reader : ReaderThread) (ps : List Pointer) : RilM ℤ := do
  modifyCtx (fun ctx => { ctx with otaMsgCnt := 0 })
  let (_, otasp) ← atSendCommandSingleline (ascii "AT+CDV=*22899") (ascii "OK") none
  readerLines (reader.during 3)
  waitForOta reader.asleep 30 0
  readerLines reader.behind
  let ctx ← getCtx
  if strstr ctx.otaMsg.text (ascii "MSG:8") then
    modifyCtx (fun ctx => { ctx with moduleIsActivated := 1 })
    confirmMdn reader (ps ++ [otasp])
  else activateDone (-2) (ps ++ [otasp])

/-- The limit on the number of calls. -/
def autoActivate (reader : ReaderThread) (ps : List Pointer) : RilM ℤ := do
  let ctx ← getCtx
  if ctx.moduleAutoActivate = 0 then activateDone (-2) ps
  else
    modifyCtx (fun ctx =>
      { ctx with moduleActivateRetry :=
          if ctx.moduleActivateRetry ≠ 0 then ctx.moduleActivateRetry - 1
          else ctx.moduleActivateRetry })
    let ctx ← getCtx
    if ctx.moduleActivateRetry = 0 then
      modifyCtx (fun ctx => { ctx with moduleIsActivated := 2 })
      activateDone (-2) ps
    else otaspCall reader ps

def activateCarrier (reader : ReaderThread) (ps : List Pointer) : RilM ℤ := do
  let (carrier, line) ← queryDuring (reader.during 2) (ascii "AT$QCMIPGETP=0") []
  match line with
  | none => activateDone (-2) (ps ++ [carrier])
  | some line =>
    if strstr line (ascii "sprint") then activateDone (-2) (ps ++ [carrier])
    else if strstr line (ascii "vzw") then autoActivate reader (ps ++ [carrier])
    else activateDone (-2) (ps ++ [carrier])

/-- The parameter `options` is not looked at. -/
def activateHelper (reader : ReaderThread) : RilM ℤ := do
  let (meid, line) ← queryDuring (reader.during 0) (ascii "AT^MEID") (ascii "^MEID:")
  match line with
  | none => activateDone (-1) [meid]
  | some line => do
    saveMeid line
    let (mdn, line) ← queryDuring (reader.during 1) (ascii "AT+VMDN?") (ascii "+VMDN:")
    match line with
    | none => activateDone (-1) [meid, mdn]
    | some line =>
      if mdnIsZero line then activateCarrier reader [meid, mdn]
      else do
        modifyCtx (fun ctx => { ctx with moduleIsActivated := 1 })
        saveMdn line
        activateDone 0 [meid, mdn]

/-! ### The provisioning calls of one run -/

def otaspCommand : Event := .command (ascii "AT+CDV=*22899")

def dials (events : List Event) : ℕ := events.count otaspCommand

/-- From this state the part ends without a fault, and its value, its last state and the number
of its provisioning calls satisfy `R`. -/
def Dials {α : Type} (env : Environment) (s : RequestState) (m : RilM α)
    (R : α → RequestState → ℕ → Prop) : Prop :=
  Traced.Ends env s m (fun a s' es => R a s' (dials es))

section Dials
variable {env : Environment} {s : RequestState} {α : Type}

theorem dials_append (es es' : List Event) : dials (es ++ es') = dials es + dials es' :=
  List.count_append

theorem dials_eq_zero {es : List Event} (h : ∀ e ∈ es, e ≠ otaspCommand) : dials es = 0 :=
  List.count_eq_zero.mpr (fun hmem => h _ hmem rfl)

@[simp] theorem dials_pure {a : α} {R : α → RequestState → ℕ → Prop} :
    Dials env s (pure a) R ↔ R a s 0 :=
  Traced.ends_pure

@[simp] theorem dials_bind {β : Type} {m : RilM β} {f : β → RilM α}
    {R : α → RequestState → ℕ → Prop} :
    Dials env s (m >>= f) R ↔
      Dials env s m (fun b s' n => Dials env s' (f b) (fun a s'' n' => R a s'' (n + n'))) := by
  simp only [Dials, Traced.ends_bind, dials_append]

@[simp] theorem dials_getCtx {R : SessionCtx → RequestState → ℕ → Prop} :
    Dials env s getCtx R ↔ R s.ctx s 0 :=
  ends_getCtx

@[simp] theorem dials_modifyCtx {f : SessionCtx → SessionCtx} {R : Unit → RequestState → ℕ → Prop} :
    Dials env s (modifyCtx f) R ↔ R () { s with ctx := f s.ctx } 0 :=
  ends_modifyCtx

@[simp] theorem dials_readerLine {line : ReaderLine} {R : Unit → RequestState → ℕ → Prop} :
    Dials env s (readerLine line) R ↔ R () { s with ctx := (line.handle s.ctx).1 } 0 := by
  have hnone : dials ((line.handle s.ctx).2.map UnsolEvent.event) = 0 := by
    apply dials_eq_zero
    simp only [List.mem_map]
    rintro _ ⟨u, -, rfl⟩
    cases u <;> exact nofun
  rw [Dials, Traced.ends_of_eq (show readerLine line env s = _ from rfl), hnone]

@[simp] theorem dials_readerLines {lines : List ReaderLine} {R : Unit → RequestState → ℕ → Prop} :
    Dials env s (readerLines lines) R ↔ R () { s with ctx := handleAll lines s.ctx } 0 := by
  induction lines generalizing s R with
  | nil => exact dials_pure
  | cons line lines ih => simp [readerLines, ih, handleAll]

/-- The session at the end of the wait. -/
def awaitOta (asleep : ℕ → List ReaderLine) : ℕ → ℕ → SessionCtx → SessionCtx
  | 0, n, ctx => handleAll (asleep n) ctx
  | tries + 1, n, ctx =>
    if (handleAll (asleep n) ctx).otaMsgCnt < 5 then
      awaitOta asleep tries (n + 1) (handleAll (asleep n) ctx)
    else handleAll (asleep n) ctx

@[simp] theorem dials_waitForOta {asleep : ℕ → List ReaderLine} {tries n : ℕ}
    {R : Unit → RequestState → ℕ → Prop} :
    Dials env s (waitForOta asleep tries n) R ↔
      R () { s with ctx := awaitOta asleep tries n s.ctx } 0 := by
  induction tries generalizing n s R with
  | zero => exact dials_readerLines
  | succ tries ih =>
    simp only [waitForOta, dials_bind, dials_readerLines, dials_getCtx, awaitOta]
    split
    · simp [ih]
    · simp

theorem dials_obtainedEvent (id : ℕ) (out : OutParam) : dials (obtainedEvent id out) = 0 := by
  cases out <;> rfl

theorem dials_queryDuring {lines : List ReaderLine} {command responsePrefix : CString}
    (hother : command ≠ ascii "AT+CDV=*22899")
    {R : Pointer × Option CString → RequestState → ℕ → Prop} :
    Dials env s (queryDuring lines command responsePrefix) R ↔
      R (Pointer.store none s.sent
          (checked (.singleline command responsePrefix true) (env.replies s.sent)).2,
        replyLine command responsePrefix (env.replies s.sent))
        ⟨handleAll lines s.ctx, s.sent + 1⟩ 0 := by
  have hquery : ∀ {R : Pointer × Option CString → RequestState → ℕ → Prop},
      Dials env s (queryLine isNonzero command responsePrefix none) R ↔
        R (Pointer.store none s.sent
            (checked (.singleline command responsePrefix true) (env.replies s.sent)).2,
          replyLine command responsePrefix (env.replies s.sent))
          { s with sent := s.sent + 1 } 0 := by
    intro R
    have hcommand : commandEvent (.singleline command responsePrefix true) ≠ otaspCommand :=
      fun h => hother (Event.command.inj h)
    have hnone := List.count_cons_of_ne hcommand
      (l := obtainedEvent s.sent
        (checked (.singleline command responsePrefix true) (env.replies s.sent)).2)
    rw [Dials, Traced.ends_of_eq (queryLine_eq env testsZero_isNonzero command responsePrefix none s),
      dials, hnone, ← dials, dials_obtainedEvent]
  simp [queryDuring, hquery]

@[simp] theorem dials_saveMeid {line : CString} {R : Unit → RequestState → ℕ → Prop} :
    Dials env s (saveMeid line) R ↔
      R () { s with ctx :=
        { s.ctx with meid := (CharArray.copy 32 (line.drop 6)).toUpper } } 0 := by
  have hstore : ∀ {R : Unit → RequestState → ℕ → Prop},
      Dials env s (storeString .meid 32 (line.drop 6)) R ↔ R () s 0 := by
    intro R
    rw [Dials, ends_storeString]
    split <;> rfl
  simp [saveMeid, hstore]

@[simp] theorem dials_saveMdn {line : CString} {R : Unit → RequestState → ℕ → Prop} :
    Dials env s (saveMdn line) R ↔
      R () { s with ctx := { s.ctx with mdn := .copy 32 (line.drop 6) } } 0 :=
  dials_modifyCtx

theorem dials_freeAll {ps : List Pointer} {R : Unit → RequestState → ℕ → Prop} :
    Dials env s (freeAll ps) R ↔ R () s 0 := by
  induction ps generalizing R with
  | nil => exact dials_pure
  | cons p ps ih =>
    have hfree : ∀ {R : Unit → RequestState → ℕ → Prop},
        Dials env s (atResponseFree p) R ↔ R () s 0 := by
      intro R
      cases p with
      | none => exact dials_pure
      | some held => exact Traced.ends_emit
    simp [freeAll, hfree, ih]

@[simp] theorem dials_activateDone {ret : ℤ} {ps : List Pointer}
    {R : ℤ → RequestState → ℕ → Prop} :
    Dials env s (activateDone ret ps) R ↔ R ret s 0 := by
  have hstatus : ∀ {lines : List CString} {R : Unit → RequestState → ℕ → Prop},
      Dials env s (Traced.emit (.wroteStatus lines)) R ↔ R () s 0 := Traced.ends_emit
  simp [activateDone, dials_freeAll, hstatus]

@[simp] theorem dials_otaspCommand {R : ℤ × Pointer → RequestState → ℕ → Prop} :
    let result := checked (.singleline (ascii "AT+CDV=*22899") (ascii "OK") true)
      (env.replies s.sent)
    Dials env s (atSendCommandSingleline (ascii "AT+CDV=*22899") (ascii "OK") none) R ↔
      R (result.1, Pointer.store none s.sent result.2) { s with sent := s.sent + 1 } 1 := by
  intro result
  have hsend : atSendCommandSingleline (ascii "AT+CDV=*22899") (ascii "OK") none env s =
      ⟨.ok (result.1, Pointer.store none s.sent result.2), { s with sent := s.sent + 1 },
        otaspCommand :: obtainedEvent s.sent result.2⟩ := rfl
  rw [Dials, Traced.ends_of_eq hsend, dials, List.count_cons_self, ← dials, dials_obtainedEvent]

end Dials

/-! ### The ways out -/

def meidReply (env : Environment) (n : ℕ) : Option CString :=
  replyLine (ascii "AT^MEID") (ascii "^MEID:") (env.replies n)

def mdnReply (env : Environment) (n : ℕ) : Option CString :=
  replyLine (ascii "AT+VMDN?") (ascii "+VMDN:") (env.replies n)

def carrierReply (env : Environment) (n : ℕ) : Option CString :=
  replyLine (ascii "AT$QCMIPGETP=0") [] (env.replies n)

structure Unprovisioned (env : Environment) (s : RequestState) (meid : CString) : Prop where
  meidLine : meidReply env s.sent = some meid
  mdnLine : ∃ mdn, mdnReply env (s.sent + 1) = some mdn ∧ mdnIsZero mdn = true
  carrierLine : ∃ line, carrierReply env (s.sent + 2) = some line ∧
    strstr line (ascii "sprint") = false ∧ strstr line (ascii "vzw") = true
  automatic : s.ctx.moduleAutoActivate ≠ 0

section Contexts
variable (reader : ReaderThread) (meid : CString) (ctx : SessionCtx)

def ctxMdn : SessionCtx :=
  handleAll (reader.during 1)
    { handleAll (reader.during 0) ctx with
      meid := (CharArray.copy 32 (meid.drop 6)).toUpper }

def ctxCarrier : SessionCtx := handleAll (reader.during 2) (ctxMdn reader meid ctx)

def ctxOta : SessionCtx :=
  handleAll reader.behind (awaitOta reader.asleep 30 0 (handleAll (reader.during 3)
    { ctxCarrier reader meid ctx with
      moduleActivateRetry := ctx.moduleActivateRetry - 1
      otaMsgCnt := 0 }))

def ReportsSuccess : Prop :=
  strstr (ctxOta reader meid ctx).otaMsg.text (ascii "MSG:8") = true

def ctxConfirm : SessionCtx :=
  handleAll (reader.during 4) { ctxOta reader meid ctx with moduleIsActivated := 1 }

theorem exists_awaitOta (asleep : ℕ → List ReaderLine) (tries n : ℕ) :
    ∃ cnt msg, awaitOta asleep tries n ctx = { ctx with otaMsgCnt := cnt, otaMsg := msg } := by
  induction tries generalizing n ctx with
  | zero => exact exists_handleAll _ _
  | succ tries ih =>
    rcases exists_handleAll (asleep n) ctx with ⟨cnt, msg, h⟩
    rw [awaitOta]
    split
    · rcases ih (handleAll (asleep n) ctx) (n + 1) with ⟨cnt', msg', h'⟩
      exact ⟨cnt', msg', by rw [h', h]⟩
    · exact ⟨cnt, msg, h⟩

theorem exists_ctxMdn :
    ∃ cnt msg, ctxMdn reader meid ctx =
      { ctx with
        meid := (CharArray.copy 32 (meid.drop 6)).toUpper
        otaMsgCnt := cnt
        otaMsg := msg } := by
  rcases exists_handleAll (reader.during 0) ctx with ⟨cnt, msg, h⟩
  rcases exists_handleAll (reader.during 1) { handleAll (reader.during 0) ctx with
    meid := (CharArray.copy 32 (meid.drop 6)).toUpper } with ⟨cnt', msg', h'⟩
  exact ⟨cnt', msg', by rw [ctxMdn, h', h]⟩

theorem exists_ctxCarrier :
    ∃ cnt msg, ctxCarrier reader meid ctx =
      { ctx with
        meid := (CharArray.copy 32 (meid.drop 6)).toUpper
        otaMsgCnt := cnt
        otaMsg := msg } := by
  rcases exists_ctxMdn reader meid ctx with ⟨cnt, msg, h⟩
  rcases exists_handleAll (reader.during 2) (ctxMdn reader meid ctx) with ⟨cnt', msg', h'⟩
  exact ⟨cnt', msg', by rw [ctxCarrier, h', h]⟩

/-- The provisioning call has used up one try. -/
theorem exists_ctxOta :
    ∃ cnt msg, ctxOta reader meid ctx =
      { ctx with
        meid := (CharArray.copy 32 (meid.drop 6)).toUpper
        moduleActivateRetry := ctx.moduleActivateRetry - 1
        otaMsgCnt := cnt
        otaMsg := msg } := by
  rcases exists_ctxCarrier reader meid ctx with ⟨_, _, hcarrier⟩
  rcases exists_handleAll (reader.during 3) { ctxCarrier reader meid ctx with
    moduleActivateRetry := ctx.moduleActivateRetry - 1, otaMsgCnt := 0 } with ⟨_, _, hduring⟩
  rcases exists_awaitOta (handleAll (reader.during 3) { ctxCarrier reader meid ctx with
    moduleActivateRetry := ctx.moduleActivateRetry - 1, otaMsgCnt := 0 }) reader.asleep 30 0
    with ⟨_, _, hwait⟩
  rcases exists_handleAll reader.behind (awaitOta reader.asleep 30 0
    (handleAll (reader.during 3) { ctxCarrier reader meid ctx with
      moduleActivateRetry := ctx.moduleActivateRetry - 1, otaMsgCnt := 0 })) with ⟨cnt, msg, h⟩
  exact ⟨cnt, msg, by rw [ctxOta, h, hwait, hduring, hcarrier]⟩

theorem exists_ctxConfirm :
    ∃ cnt msg, ctxConfirm reader meid ctx =
      { ctx with
        meid := (CharArray.copy 32 (meid.drop 6)).toUpper
        moduleActivateRetry := ctx.moduleActivateRetry - 1
        moduleIsActivated := 1
        otaMsgCnt := cnt
        otaMsg := msg } := by
  rcases exists_ctxOta reader meid ctx with ⟨_, _, h⟩
  rcases exists_handleAll (reader.during 4)
    { ctxOta reader meid ctx with moduleIsActivated := 1 } with ⟨cnt, msg, h'⟩
  exact ⟨cnt, msg, by rw [ctxConfirm, h', h]⟩

end Contexts

inductive ActivationExit (env : Environment) (reader : ReaderThread) (s : RequestState) :
    ℤ → SessionCtx → ℕ → Prop
  | noMeid (hmeid : meidReply env s.sent = none) :
    ActivationExit env reader s (-1) (handleAll (reader.during 0) s.ctx) 0
  | noMdn {meid : CString} (hmeid : meidReply env s.sent = some meid)
    (hmdn : mdnReply env (s.sent + 1) = none) :
    ActivationExit env reader s (-1) (ctxMdn reader meid s.ctx) 0
  | valid {meid mdn : CString} (hmeid : meidReply env s.sent = some meid)
    (hmdn : mdnReply env (s.sent + 1) = some mdn) (hzero : mdnIsZero mdn = false) :
    ActivationExit env reader s 0
      { ctxMdn reader meid s.ctx with
        moduleIsActivated := 1
        mdn := .copy 32 (mdn.drop 6) } 0
  | declined {meid mdn : CString} (hmeid : meidReply env s.sent = some meid)
    (hmdn : mdnReply env (s.sent + 1) = some mdn) (hzero : mdnIsZero mdn = true)
    (hasked : ¬ Unprovisioned env s meid) :
    ActivationExit env reader s (-2) (ctxCarrier reader meid s.ctx) 0
  | exhausted {meid : CString} (hasked : Unprovisioned env s meid)
    (hretry : s.ctx.moduleActivateRetry = 0 ∨ s.ctx.moduleActivateRetry = 1) :
    ActivationExit env reader s (-2)
      { ctxCarrier reader meid s.ctx with
        moduleActivateRetry := 0
        moduleIsActivated := 2 } 0
  | unanswered {meid : CString} (hasked : Unprovisioned env s meid)
    (hretry : s.ctx.moduleActivateRetry ≠ 0 ∧ s.ctx.moduleActivateRetry ≠ 1)
    (hmsg : ¬ ReportsSuccess reader meid s.ctx) :
    ActivationExit env reader s (-2) (ctxOta reader meid s.ctx) 1
  | unconfirmed {meid : CString} (hasked : Unprovisioned env s meid)
    (hretry : s.ctx.moduleActivateRetry ≠ 0 ∧ s.ctx.moduleActivateRetry ≠ 1)
    (hmsg : ReportsSuccess reader meid s.ctx) (hmdn : mdnReply env (s.sent + 4) = none) :
    ActivationExit env reader s (-2) (ctxConfirm reader meid s.ctx) 1
  | confirmed {meid mdn : CString} (hasked : Unprovisioned env s meid)
    (hretry : s.ctx.moduleActivateRetry ≠ 0 ∧ s.ctx.moduleActivateRetry ≠ 1)
    (hmsg : ReportsSuccess reader meid s.ctx) (hmdn : mdnReply env (s.sent + 4) = some mdn) :
    ActivationExit env reader s 0
      { ctxConfirm reader meid s.ctx with mdn := .copy 32 (mdn.drop 6) } 1

section Exits
variable {env : Environment} {s : RequestState} {reader : ReaderThread}

theorem exits_confirmMdn {meid : CString} (hasked : Unprovisioned env s meid)
    (hretry : s.ctx.moduleActivateRetry ≠ 0 ∧ s.ctx.moduleActivateRetry ≠ 1)
    (hmsg : ReportsSuccess reader meid s.ctx) (ps : List Pointer) :
    Dials env ⟨{ ctxOta reader meid s.ctx with moduleIsActivated := 1 }, s.sent + 4⟩
      (confirmMdn reader ps)
      (fun ret s' n => ActivationExit env reader s ret s'.ctx (1 + n)) := by
  unfold confirmMdn
  rw [dials_bind, dials_queryDuring (by decide)]
  dsimp only
  cases hmdn : replyLine (ascii "AT+VMDN?") (ascii "+VMDN:") (env.replies (s.sent + 4)) with
  | none =>
    rw [dials_activateDone]
    exact .unconfirmed hasked hretry hmsg hmdn
  | some mdn =>
    simp only [dials_bind, dials_saveMdn, dials_activateDone]
    exact .confirmed hasked hretry hmsg hmdn

theorem exits_otaspCall {meid : CString} (hasked : Unprovisioned env s meid)
    (hretry : s.ctx.moduleActivateRetry ≠ 0 ∧ s.ctx.moduleActivateRetry ≠ 1)
    (ps : List Pointer) :
    Dials env ⟨{ ctxCarrier reader meid s.ctx with
        moduleActivateRetry := s.ctx.moduleActivateRetry - 1 }, s.sent + 3⟩
      (otaspCall reader ps)
      (fun ret s' n => ActivationExit env reader s ret s'.ctx n) := by
  unfold otaspCall
  simp only [dials_bind, dials_modifyCtx, dials_otaspCommand, dials_readerLines,
    dials_waitForOta, dials_getCtx, zero_add]
  split
  · next hmsg =>
    simp only [dials_bind, dials_modifyCtx, zero_add]
    exact exits_confirmMdn hasked hretry hmsg _
  · next hmsg =>
    rw [dials_activateDone]
    exact .unanswered hasked hretry hmsg

theorem exits_autoActivate {meid mdn line : CString} (hmeid : meidReply env s.sent = some meid)
    (hmdn : mdnReply env (s.sent + 1) = some mdn) (hzero : mdnIsZero mdn = true)
    (hline : carrierReply env (s.sent + 2) = some line)
    (hsprint : strstr line (ascii "sprint") = false) (hvzw : strstr line (ascii "vzw") = true)
    (ps : List Pointer) :
    Dials env ⟨ctxCarrier reader meid s.ctx, s.sent + 3⟩ (autoActivate reader ps)
      (fun ret s' n => ActivationExit env reader s ret s'.ctx n) := by
  have hauto : (ctxCarrier reader meid s.ctx).moduleAutoActivate = s.ctx.moduleAutoActivate := by
    simp [ctxCarrier, ctxMdn]
  have hcount : (ctxCarrier reader meid s.ctx).moduleActivateRetry = s.ctx.moduleActivateRetry := by
    simp [ctxCarrier, ctxMdn]
  unfold autoActivate
  simp only [dials_bind, dials_getCtx, zero_add, hauto]
  by_cases h0 : s.ctx.moduleAutoActivate = 0
  · rw [if_pos h0, dials_activateDone]
    exact .declined hmeid hmdn hzero (fun hasked => hasked.automatic h0)
  · have hasked : Unprovisioned env s meid :=
      ⟨hmeid, ⟨mdn, hmdn, hzero⟩, ⟨line, hline, hsprint, hvzw⟩, h0⟩
    rw [if_neg h0]
    simp only [dials_bind, dials_modifyCtx, dials_getCtx, zero_add, hcount]
    by_cases hlast : s.ctx.moduleActivateRetry = 0 ∨ s.ctx.moduleActivateRetry = 1
    · have hdone : (if s.ctx.moduleActivateRetry ≠ 0 then s.ctx.moduleActivateRetry - 1
          else s.ctx.moduleActivateRetry) = 0 := by
        rcases hlast with h | h <;> simp [h]
      simp only [hdone, if_true, dials_bind, dials_modifyCtx, dials_activateDone]
      exact .exhausted hasked hlast
    · have hretry : s.ctx.moduleActivateRetry ≠ 0 ∧ s.ctx.moduleActivateRetry ≠ 1 := by
        simpa using hlast
      have hleft : s.ctx.moduleActivateRetry - 1 ≠ 0 := by omega
      rw [if_pos hretry.1, if_neg hleft]
      exact exits_otaspCall hasked hretry ps

theorem exits_activateCarrier {meid mdn : CString} (hmeid : meidReply env s.sent = some meid)
    (hmdn : mdnReply env (s.sent + 1) = some mdn) (hzero : mdnIsZero mdn = true)
    (ps : List Pointer) :
    Dials env ⟨ctxMdn reader meid s.ctx, s.sent + 2⟩ (activateCarrier reader ps)
      (fun ret s' n => ActivationExit env reader s ret s'.ctx n) := by
  have hdeclined : (∀ line, carrierReply env (s.sent + 2) = some line →
      strstr line (ascii "sprint") = false → strstr line (ascii "vzw") = false) →
      ActivationExit env reader s (-2) (ctxCarrier reader meid s.ctx) 0 := by
    intro hnot
    refine .declined hmeid hmdn hzero ?_
    rintro ⟨-, -, ⟨line, hline, hsprint, hvzw⟩, -⟩
    simp [hnot line hline hsprint] at hvzw
  unfold activateCarrier
  rw [dials_bind, dials_queryDuring (by decide)]
  dsimp only
  cases hline : replyLine (ascii "AT$QCMIPGETP=0") [] (env.replies (s.sent + 2)) with
  | none =>
    rw [dials_activateDone]
    exact hdeclined (fun line h => absurd (hline.symm.trans h) nofun)
  | some line =>
    have hsame : ∀ l, carrierReply env (s.sent + 2) = some l → l = line :=
      fun l h => (Option.some.inj (hline.symm.trans h)).symm
    dsimp only
    by_cases hsprint : strstr line (ascii "sprint") = true
    · rw [if_pos hsprint, dials_activateDone]
      refine hdeclined (fun l hl hl' => ?_)
      rw [hsame l hl, hsprint] at hl'
      cases hl'
    · rw [if_neg hsprint]
      by_cases hvzw : strstr line (ascii "vzw") = true
      · rw [if_pos hvzw]
        simp only [zero_add]
        exact exits_autoActivate hmeid hmdn hzero hline (by simpa using hsprint) hvzw _
      · rw [if_neg hvzw, dials_activateDone]
        refine hdeclined (fun l hl _ => ?_)
        rw [hsame l hl]
        simpa using hvzw

/-- Every call of `activateHelper` returns in one of these ways. -/
theorem exits_activateHelper (env : Environment) (s : RequestState) (reader : ReaderThread) :
    Dials env s (activateHelper reader)
      (fun ret s' n => ActivationExit env reader s ret s'.ctx n) := by
  unfold activateHelper
  rw [dials_bind, dials_queryDuring (by decide)]
  dsimp only
  cases hmeid : replyLine (ascii "AT^MEID") (ascii "^MEID:") (env.replies s.sent) with
  | none =>
    rw [dials_activateDone]
    exact .noMeid hmeid
  | some meid =>
    simp only [dials_bind, dials_saveMeid, zero_add]
    rw [dials_queryDuring (by decide)]
    dsimp only
    cases hmdn : replyLine (ascii "AT+VMDN?") (ascii "+VMDN:") (env.replies (s.sent + 1)) with
    | none =>
      rw [dials_activateDone]
      exact .noMdn hmeid hmdn
    | some mdn =>
      dsimp only
      by_cases hzero : mdnIsZero mdn = true
      · rw [if_pos hzero]
        simp only [zero_add]
        exact exits_activateCarrier hmeid hmdn hzero _
      · rw [if_neg hzero]
        simp only [dials_bind, dials_modifyCtx, dials_saveMdn, dials_activateDone]
        exact .valid hmeid hmdn (by simpa using hzero)

end Exits

/-! ### Calls in a row -/

structure ActivationCall where
  env : Environment
  reader : ReaderThread

/-- The session afterwards, the value that was returned and what was done. -/
def activationStep (ctx : SessionCtx) (call : ActivationCall) :
    SessionCtx × Except Fault ℤ × List Event :=
  let result := activateHelper call.reader call.env ⟨ctx, 0⟩
  (result.state.ctx, result.value, result.events)

/-- What a step of a run does. -/
theorem activationStep_exit (ctx : SessionCtx) (call : ActivationCall) :
    ∃ ret, (activationStep ctx call).2.1 = .ok ret ∧
      ActivationExit call.env call.reader ⟨ctx, 0⟩ ret (activationStep ctx call).1
        (dials (activationStep ctx call).2.2) := by
  rcases exits_activateHelper call.env ⟨ctx, 0⟩ call.reader with ⟨ret, hret, hexit⟩
  exact ⟨ret, hret, hexit⟩

end Fw100.Request
