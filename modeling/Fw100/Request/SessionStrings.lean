import Fw100.Request.ActivationSound
import Fw100.Request.Network

/-!
# The strings of the session

Four arrays of the session are filled with `strncpy` from lines of the modem, and `strlen`,
`strstr` and `fprintf` read them as C strings later. `strncpy` leaves no NUL behind a text that
fills its array.
-/
namespace Fw100.Request
open Library Text Channel Session

def Terminated {n : ℕ} (array : CharArray n) : Prop := 0 ∈ array.1

instance {n : ℕ} (array : CharArray n) : Decidable (Terminated array) :=
  inferInstanceAs (Decidable (_ ∈ _))

theorem terminated_copy {n : ℕ} {src : CString} (h : src.length < n) :
    Terminated (CharArray.copy n src) := by
  have hroom : n - src.length ≠ 0 := by omega
  simp [Terminated, CharArray.copy, strncpy, hroom]

theorem Terminated.toUpper {n : ℕ} {array : CharArray n} (h : Terminated array) :
    Terminated array.toUpper :=
  List.mem_map.mpr ⟨0, h, rfl⟩

structure CStrings (ctx : SessionCtx) : Prop where
  meid : Terminated ctx.meid
  mdn : Terminated ctx.mdn
  carrier : Terminated ctx.carrier
  otaMsg : Terminated ctx.otaMsg

inductive SessionStep where
  | activateHelper (call : ActivationCall)
  | getNetworkInfo (env : Environment)
  | onUnsolicited (line : ReaderLine)

def sessionStep (ctx : SessionCtx) : SessionStep → SessionCtx × Unit
  | .activateHelper call => ((activationStep ctx call).1, ())
  | .getNetworkInfo env => ((getNetworkInfo env ⟨ctx, 0⟩).state.ctx, ())
  | .onUnsolicited line => ((line.handle ctx).1, ())

/-- A line that fits `otaMsg[64]` if it is stored there. -/
def ReaderLine.Fits (line : ReaderLine) : Prop :=
  strStartsWith line.s (ascii "^OTACMSG:") = true → line.s.length < 64

/-- The text behind the prefix of a line fits an array of 32 bytes. -/
def FitsField (line : CString) : Prop := (line.drop 6).length < 32

instance (line : CString) : Decidable (FitsField line) := inferInstanceAs (Decidable (_ < _))

/-- The seconds of the wait, each with the session and the lines that the reader thread has. -/
inductive Awaits (asleep : ℕ → List ReaderLine) :
    ℕ → ℕ → SessionCtx → SessionCtx → List ReaderLine → Prop
  | now {tries n : ℕ} {ctx : SessionCtx} : Awaits asleep tries n ctx ctx (asleep n)
  | later {tries n : ℕ} {ctx ctx' : SessionCtx} {lines : List ReaderLine}
    (hmore : (handleAll (asleep n) ctx).otaMsgCnt < 5)
    (h : Awaits asleep tries (n + 1) (handleAll (asleep n) ctx) ctx' lines) :
    Awaits asleep (tries + 1) n ctx ctx' lines

/-- The session when the identity is stored, and when the provisioning call is made. -/
def ctxMeid (reader : ReaderThread) (meid : CString) (ctx : SessionCtx) : SessionCtx :=
  { handleAll (reader.during 0) ctx with meid := (CharArray.copy 32 (meid.drop 6)).toUpper }

def ctxCall (reader : ReaderThread) (meid : CString) (ctx : SessionCtx) : SessionCtx :=
  { ctxCarrier reader meid ctx with
    moduleActivateRetry := ctx.moduleActivateRetry - 1
    otaMsgCnt := 0 }

/-- The modem and the session lead to a provisioning call. -/
structure Calls (ctx : SessionCtx) (call : ActivationCall) (meid : CString) : Prop where
  asked : Unprovisioned call.env ⟨ctx, 0⟩ meid
  retry : ctx.moduleActivateRetry ≠ 0 ∧ ctx.moduleActivateRetry ≠ 1

/-- The lines that the reader thread handles during a call, and the session that it finds. -/
inductive Handles (ctx : SessionCtx) (call : ActivationCall) :
    SessionCtx → List ReaderLine → Prop
  | identity : Handles ctx call ctx (call.reader.during 0)
  | number {meid : CString} (hmeid : meidReply call.env 0 = some meid) :
    Handles ctx call (ctxMeid call.reader meid ctx) (call.reader.during 1)
  | carrier {meid mdn : CString} (hmeid : meidReply call.env 0 = some meid)
    (hmdn : mdnReply call.env 1 = some mdn) (hzero : mdnIsZero mdn = true) :
    Handles ctx call (ctxMdn call.reader meid ctx) (call.reader.during 2)
  | otasp {meid : CString} (hcalls : Calls ctx call meid) :
    Handles ctx call (ctxCall call.reader meid ctx) (call.reader.during 3)
  | wait {meid : CString} (hcalls : Calls ctx call meid) {ctx' : SessionCtx}
    {lines : List ReaderLine}
    (h : Awaits call.reader.asleep 30 0
      (handleAll (call.reader.during 3) (ctxCall call.reader meid ctx)) ctx' lines) :
    Handles ctx call ctx' lines
  | behind {meid : CString} (hcalls : Calls ctx call meid) :
    Handles ctx call
      (awaitOta call.reader.asleep 30 0
        (handleAll (call.reader.during 3) (ctxCall call.reader meid ctx))) call.reader.behind
  | confirm {meid : CString} (hcalls : Calls ctx call meid)
    (hmsg : ReportsSuccess call.reader meid ctx) :
    Handles ctx call { ctxOta call.reader meid ctx with moduleIsActivated := 1 }
      (call.reader.during 4)

theorem Awaits.exists_eq {asleep : ℕ → List ReaderLine} {tries n : ℕ} {ctx ctx' : SessionCtx}
    {lines : List ReaderLine} (h : Awaits asleep tries n ctx ctx' lines) :
    ∃ k, lines = asleep k := by
  induction h with
  | now => exact ⟨_, rfl⟩
  | later hmore hlater ih => exact ih

theorem Handles.eq_nil {ctx ctx' : SessionCtx} {call : ActivationCall} {lines : List ReaderLine}
    (h : Handles ctx call ctx' lines) (hidle : call.reader = .idle) : lines = [] := by
  cases h with
  | wait hcalls hwait =>
    obtain ⟨k, rfl⟩ := hwait.exists_eq
    rw [hidle]
    rfl
  | _ =>
    rw [hidle]
    rfl

/-- The identity and the numbers that a call stores fit their arrays, and so does each message of
the lines that are handled during the call. -/
structure ActivationCall.Fits (ctx : SessionCtx) (call : ActivationCall) : Prop where
  meid : ∀ line, meidReply call.env 0 = some line → FitsField line
  present : ∀ line, (meidReply call.env 0).isSome → mdnReply call.env 1 = some line →
    mdnIsZero line = false → FitsField line
  confirmed : Provisioned ctx call → ∀ line, mdnReply call.env 4 = some line → FitsField line
  reader : ∀ ctx' lines, Handles ctx call ctx' lines → ∀ line ∈ lines, ReaderLine.Fits line

def StoresFit (ctx : SessionCtx) : SessionStep → Prop
  | .activateHelper call => call.Fits ctx
  | .getNetworkInfo _ => True
  | .onUnsolicited line => ReaderLine.Fits line

/-! ### Unsolicited lines -/

theorem terminated_handleAll {lines : List ReaderLine} (hlines : ∀ line ∈ lines, ReaderLine.Fits line)
    {ctx : SessionCtx} (h : Terminated ctx.otaMsg) : Terminated (handleAll lines ctx).otaMsg :=
  otaMsg_handleAll h (fun line hl hs => terminated_copy (hlines line hl hs))

theorem CStrings.handleAll {ctx : SessionCtx} (h : CStrings ctx) {lines : List ReaderLine}
    (hlines : ∀ line ∈ lines, ReaderLine.Fits line) : CStrings (handleAll lines ctx) := by
  refine ⟨?_, ?_, ?_, terminated_handleAll hlines h.otaMsg⟩
  · simpa using h.meid
  · simpa using h.mdn
  · simpa using h.carrier

theorem CStrings.awaits {asleep : ℕ → List ReaderLine} {tries n : ℕ} {ctx ctx' : SessionCtx}
    {lines : List ReaderLine} (h : CStrings ctx) (hwait : Awaits asleep tries n ctx ctx' lines)
    (hfits : ∀ ctx' lines, Awaits asleep tries n ctx ctx' lines →
      ∀ line ∈ lines, ReaderLine.Fits line) : CStrings ctx' := by
  induction hwait with
  | now => exact h
  | later hmore hlater ih =>
    apply ih (h.handleAll (hfits _ _ .now))
    intro ctx'' lines hwait
    exact hfits ctx'' lines (.later hmore hwait)

theorem CStrings.awaitOta {asleep : ℕ → List ReaderLine} {tries n : ℕ} {ctx : SessionCtx}
    (h : CStrings ctx) (hfits : ∀ ctx' lines, Awaits asleep tries n ctx ctx' lines →
      ∀ line ∈ lines, ReaderLine.Fits line) : CStrings (awaitOta asleep tries n ctx) := by
  induction tries generalizing n ctx with
  | zero => exact h.handleAll (hfits _ _ .now)
  | succ tries ih =>
    have hnow := h.handleAll (hfits _ _ .now)
    rw [Request.awaitOta]
    split
    · next hmore => exact ih hnow (fun ctx' lines hwait => hfits ctx' lines (.later hmore hwait))
    · exact hnow

/-! ### One call of the helper -/

section Activation
variable {ctx : SessionCtx} {call : ActivationCall} {meid : CString}

theorem CStrings.ctxMeid (h : CStrings ctx) (hfits : call.Fits ctx)
    (hmeid : meidReply call.env 0 = some meid) : CStrings (ctxMeid call.reader meid ctx) := by
  have hfirst := h.handleAll (hfits.reader _ _ .identity)
  exact ⟨(terminated_copy (hfits.meid _ hmeid)).toUpper, hfirst.mdn, hfirst.carrier, hfirst.otaMsg⟩

theorem CStrings.ctxMdn (h : CStrings ctx) (hfits : call.Fits ctx)
    (hmeid : meidReply call.env 0 = some meid) : CStrings (ctxMdn call.reader meid ctx) :=
  (h.ctxMeid hfits hmeid).handleAll (hfits.reader _ _ (.number hmeid))

theorem CStrings.ctxCarrier (h : CStrings ctx) (hfits : call.Fits ctx)
    (hmeid : meidReply call.env 0 = some meid) {mdn : CString}
    (hmdn : mdnReply call.env 1 = some mdn) (hzero : mdnIsZero mdn = true) :
    CStrings (ctxCarrier call.reader meid ctx) :=
  (h.ctxMdn hfits hmeid).handleAll (hfits.reader _ _ (.carrier hmeid hmdn hzero))

theorem CStrings.ctxCall (h : CStrings ctx) (hfits : call.Fits ctx) (hcalls : Calls ctx call meid) :
    CStrings (ctxCall call.reader meid ctx) := by
  obtain ⟨mdn, hmdn, hzero⟩ := hcalls.asked.mdnLine
  have hcarrier := h.ctxCarrier hfits hcalls.asked.meidLine hmdn hzero
  exact ⟨hcarrier.meid, hcarrier.mdn, hcarrier.carrier, hcarrier.otaMsg⟩

theorem CStrings.otasp (h : CStrings ctx) (hfits : call.Fits ctx) (hcalls : Calls ctx call meid) :
    CStrings (Session.handleAll (call.reader.during 3) (Request.ctxCall call.reader meid ctx)) :=
  (h.ctxCall hfits hcalls).handleAll (hfits.reader _ _ (.otasp hcalls))

theorem CStrings.waited (h : CStrings ctx) (hfits : call.Fits ctx) (hcalls : Calls ctx call meid) :
    CStrings (Request.awaitOta call.reader.asleep 30 0
      (Session.handleAll (call.reader.during 3) (Request.ctxCall call.reader meid ctx))) :=
  (h.otasp hfits hcalls).awaitOta (fun _ _ hwait => hfits.reader _ _ (.wait hcalls hwait))

theorem CStrings.ctxOta (h : CStrings ctx) (hfits : call.Fits ctx) (hcalls : Calls ctx call meid) :
    CStrings (ctxOta call.reader meid ctx) :=
  (h.waited hfits hcalls).handleAll (hfits.reader _ _ (.behind hcalls))

theorem CStrings.ctxConfirm (h : CStrings ctx) (hfits : call.Fits ctx) (hcalls : Calls ctx call meid)
    (hmsg : ReportsSuccess call.reader meid ctx) : CStrings (ctxConfirm call.reader meid ctx) := by
  have hota := h.ctxOta hfits hcalls
  refine CStrings.handleAll ?_ (hfits.reader _ _ (.confirm hcalls hmsg))
  exact ⟨hota.meid, hota.mdn, hota.carrier, hota.otaMsg⟩

theorem CStrings.handles (h : CStrings ctx) (hfits : call.Fits ctx) {ctx' : SessionCtx}
    {lines before : List ReaderLine} (hhandles : Handles ctx call ctx' lines)
    (hbefore : before <+: lines) : CStrings (Session.handleAll before ctx') := by
  have hlines : ∀ line ∈ before, ReaderLine.Fits line :=
    fun line hline => hfits.reader _ _ hhandles line (hbefore.subset hline)
  refine CStrings.handleAll ?_ hlines
  cases hhandles with
  | identity => exact h
  | number hmeid => exact h.ctxMeid hfits hmeid
  | carrier hmeid hmdn hzero => exact h.ctxMdn hfits hmeid
  | otasp hcalls => exact h.ctxCall hfits hcalls
  | wait hcalls hwait =>
    exact (h.otasp hfits hcalls).awaits hwait (fun _ _ hw => hfits.reader _ _ (.wait hcalls hw))
  | behind hcalls => exact h.waited hfits hcalls
  | confirm hcalls hmsg =>
    have hota := h.ctxOta hfits hcalls
    exact ⟨hota.meid, hota.mdn, hota.carrier, hota.otaMsg⟩

end Activation

theorem CStrings.activationStep {ctx : SessionCtx} (h : CStrings ctx) {call : ActivationCall}
    (hfits : call.Fits ctx) : CStrings (activationStep ctx call).1 := by
  rcases activationStep_exit ctx call with ⟨ret, -, hexit⟩
  generalize (Request.activationStep ctx call).1 = ctx' at *
  generalize dials (Request.activationStep ctx call).2.2 = n at hexit
  cases hexit with
  | noMeid hmeid => exact h.handleAll (hfits.reader _ _ .identity)
  | noMdn hmeid hmdn => exact h.ctxMdn hfits hmeid
  | valid hmeid hmdn hzero =>
    have hsome : (meidReply call.env 0).isSome := Option.isSome_of_mem hmeid
    have hstrings := h.ctxMdn hfits hmeid
    have hmdnFits := hfits.present _ hsome hmdn hzero
    exact ⟨hstrings.meid, terminated_copy hmdnFits, hstrings.carrier, hstrings.otaMsg⟩
  | declined hmeid hmdn hzero hasked => exact h.ctxCarrier hfits hmeid hmdn hzero
  | exhausted hasked hretry =>
    obtain ⟨mdn, hmdn, hzero⟩ := hasked.mdnLine
    have hstrings := h.ctxCarrier hfits hasked.meidLine hmdn hzero
    exact ⟨hstrings.meid, hstrings.mdn, hstrings.carrier, hstrings.otaMsg⟩
  | unanswered hasked hretry hmsg => exact h.ctxOta hfits ⟨hasked, hretry⟩
  | unconfirmed hasked hretry hmsg hmdn => exact h.ctxConfirm hfits ⟨hasked, hretry⟩ hmsg
  | confirmed hasked hretry hmsg hmdn =>
    have hstrings := h.ctxConfirm hfits ⟨hasked, hretry⟩ hmsg
    have hmdnFits := hfits.confirmed ⟨_, hasked, hretry, hmsg⟩ _ hmdn
    exact ⟨hstrings.meid, terminated_copy hmdnFits, hstrings.carrier, hstrings.otaMsg⟩

/-! ### The name of the carrier -/

section Network
variable {env : Environment}

abbrev HasCStrings (s : RequestState) : Prop := CStrings s.ctx

theorem preserves_atResponseFree (p : Pointer) :
    Traced.Preserves env HasCStrings (atResponseFree p) := by
  cases p with
  | none => exact .pure
  | some held => exact .emit

theorem preserves_queryLine (failed : ℤ → Bool) (command responsePrefix : CString) (p : Pointer) :
    Traced.Preserves env HasCStrings (queryLine failed command responsePrefix p) := by
  refine .bind (fun _ h => h) (fun x => ?_)
  refine .bind ?_ (fun ok => ?_)
  · cases x.2 with
    | none =>
      simp only [succeeded]
      split
      · exact .pure
      · exact .fault
    | some held => exact .pure
  · split
    · refine .bind ?_ (fun _ => .pure)
      cases x.2 with
      | none => exact .fault
      | some held =>
        simp only [firstIntermediate]
        split
        · exact .fault
        · exact .pure
    · exact .pure

/-- The short names are shorter than `carrier[16]`. -/
theorem preserves_networkDone (p p2 : Pointer) {info : NetworkInfo}
    (h : info.shortName.length < 16) :
    Traced.Preserves env HasCStrings (networkDone p p2 info) := by
  refine .bind (.update (fun s hs => ⟨hs.meid, hs.mdn, terminated_copy h, hs.otaMsg⟩)) (fun _ => ?_)
  refine .bind (preserves_atResponseFree p) (fun _ => ?_)
  refine .bind (preserves_atResponseFree p2) (fun _ => ?_)
  exact .bind (.bind .current (fun _ => .pure)) (fun _ => .bind .emit (fun _ => .pure))

theorem preserves_networkError (p p2 : Pointer) :
    Traced.Preserves env HasCStrings (networkError p p2) :=
  .bind (preserves_atResponseFree p) (fun _ =>
    .bind (preserves_atResponseFree p2) (fun _ => .pure))

theorem shortName_of_table {entry : CString × CString × CString} (h : entry ∈ operatorInfo) :
    entry.2.2.length < 16 := by
  have hall : operatorInfo.all (fun entry => entry.2.2.length < 16) = true := by decide
  simpa using List.all_eq_true.mp hall entry h

theorem shortName_carrierOf (line : CString) : (carrierOf line).shortName.length < 16 := by
  unfold carrierOf
  split
  · decide
  · split <;> decide

theorem preserves_searchOperator (p : Pointer) (mccmnc : CString) :
    Traced.Preserves env HasCStrings (searchOperator p mccmnc) := by
  unfold searchOperator
  split
  · next hfind => exact preserves_networkDone p none (shortName_of_table (List.mem_of_find?_eq_some hfind))
  · refine .bind (preserves_queryLine _ _ _ _) (fun x => ?_)
    dsimp only
    split
    · exact preserves_networkError _ _
    · exact preserves_networkDone _ _ (shortName_carrierOf _)

theorem preserves_getNetworkInfo : Traced.Preserves env HasCStrings getNetworkInfo := by
  refine .bind (preserves_queryLine _ _ _ _) (fun x => ?_)
  dsimp only
  split
  · exact preserves_networkError _ _
  · refine .bind .environment (fun env' => ?_)
    split
    · exact .fault
    · refine .bind ?_ (fun _ => preserves_searchOperator _ _)
      unfold storeString
      split
      · exact .pure
      · exact .emit

end Network

/-! ### Whole runs -/

theorem CStrings.sessionStep {ctx : SessionCtx} (h : CStrings ctx) {step : SessionStep}
    (hfits : StoresFit ctx step) : CStrings (sessionStep ctx step).1 := by
  cases step with
  | activateHelper call => exact h.activationStep hfits
  | getNetworkInfo env => exact preserves_getNetworkInfo ⟨ctx, 0⟩ h
  | onUnsolicited line =>
    have hone : ∀ l ∈ [line], ReaderLine.Fits l := by
      intro l hl
      rw [List.mem_singleton.mp hl]
      exact hfits
    exact h.handleAll hone

/-- Inside a call the arrays are C strings wherever the reader thread handles a line, and
`strToUpper` and `strstr` find a NUL in the array they are given. -/
def ReadsInside (ctx : SessionCtx) : SessionStep → Prop
  | .activateHelper call =>
    (∀ ctx' lines before, Handles ctx call ctx' lines → before <+: lines →
      CStrings (handleAll before ctx')) ∧
    (∀ meid, meidReply call.env 0 = some meid → Terminated (ctxMdn call.reader meid ctx).meid) ∧
    ∀ meid, Calls ctx call meid → Terminated (ctxOta call.reader meid ctx).otaMsg
  | _ => True

theorem CStrings.readsInside {ctx : SessionCtx} (h : CStrings ctx) {step : SessionStep}
    (hfits : StoresFit ctx step) : ReadsInside ctx step := by
  cases step with
  | activateHelper call =>
    exact ⟨fun _ _ _ hhandles hbefore => h.handles hfits hhandles hbefore,
      fun _ hmeid => (h.ctxMdn hfits hmeid).meid, fun _ hcalls => (h.ctxOta hfits hcalls).otaMsg⟩
  | getNetworkInfo env => trivial
  | onUnsolicited line => trivial

theorem cstrings_init (dataDevname : Option CString) (dataCallIsAutomatic : ℤ)
    (file : Option (List CString)) :
    CStrings (rilReadControl (initSessionContext dataDevname dataCallIsAutomatic) file) := by
  have hzero : ∀ n, 0 < n → Terminated (CharArray.zero n) := by
    intro n hn
    simp [Terminated, CharArray.zero]
    omega
  rcases exists_rilReadControl (initSessionContext dataDevname dataCallIsAutomatic) file with
    ⟨_, _, h⟩
  rw [h]
  exact ⟨hzero 32 (by decide), hzero 32 (by decide), hzero 16 (by decide), hzero 64 (by decide)⟩

/-- From the state that `initSessionContext` leaves: as long as no text that is stored fills its
array, all four arrays are C strings in every state of the run, and inside the calls. -/
theorem session_strings_terminated (dataDevname : Option CString) (dataCallIsAutomatic : ℤ)
    (file : Option (List CString)) (steps : List SessionStep)
    (hfits : Along sessionStep StoresFit
      (rilReadControl (initSessionContext dataDevname dataCallIsAutomatic) file) steps) :
    let ctx := rilReadControl (initSessionContext dataDevname dataCallIsAutomatic) file
    (∀ before, before <+: steps → CStrings (run sessionStep ctx before).1) ∧
      Along sessionStep ReadsInside ctx steps := by
  intro ctx
  have hinit : CStrings ctx := cstrings_init dataDevname dataCallIsAutomatic file
  constructor
  · rw [forall_prefix_iff]
    refine ⟨hinit, Along.of_invariant CStrings (fun _ _ h hstep => ?_) hinit hfits⟩
    exact ⟨h.sessionStep hstep, h.sessionStep hstep⟩
  · refine Along.of_invariant CStrings (fun _ _ h hstep => ?_) hinit hfits
    exact ⟨h.readsInside hstep, h.sessionStep hstep⟩

def modestCall : ActivationCall where
  env := { Environment.terse with
    replies := fun n =>
      if n = 0 then .answered [ascii "^MEID:a1000009f8d0a2", ascii "OK"] (by decide)
      else .answered [ascii "+VMDN:8585551234", ascii "OK"] (by decide) }
  reader := .idle

theorem session_strings_terminated_modest :
    CStrings (run sessionStep (rilReadControl (initSessionContext none 0) none)
      [.activateHelper modestCall]).1 := by
  have hmeid : meidReply modestCall.env 0 = some (ascii "^MEID:a1000009f8d0a2") := by decide
  have hmdn : ∀ n, n ≠ 0 → ∀ line, mdnReply modestCall.env n = some line → FitsField line := by
    intro n hn line hline
    have hreply : mdnReply modestCall.env n = some (ascii "+VMDN:8585551234") := by
      simp only [modestCall, mdnReply, hn, if_false]
      decide
    obtain rfl := Option.some.inj (hreply.symm.trans hline)
    decide
  refine (session_strings_terminated none 0 none [.activateHelper modestCall] ⟨?_, trivial⟩).1 _
    List.prefix_rfl
  have hreader : ∀ ctx' lines, Handles (rilReadControl (initSessionContext none 0) none) modestCall
      ctx' lines → ∀ line ∈ lines, ReaderLine.Fits line := by
    intro ctx' lines hhandles line hline
    have hnone := hhandles.eq_nil rfl
    rw [hnone] at hline
    cases hline
  refine ⟨fun line hline => ?_, fun line _ hline _ => hmdn 1 (by decide) line hline,
    fun _ line hline => hmdn 4 (by decide) line hline, hreader⟩
  obtain rfl := Option.some.inj (hmeid.symm.trans hline)
  decide

/-- An identity of 32 characters leaves its array without a NUL. -/
theorem long_meid_unterminated :
    let env := { Environment.terse with
      replies := fun n =>
        if n = 0 then
          .answered [ascii "^MEID:a1000009f8d0a2a1000009f8d0a2a100", ascii "OK"] (by decide)
        else .failed .timeout }
    ¬ CStrings (run sessionStep (rilReadControl (initSessionContext none 0) none)
      [.activateHelper ⟨env, .idle⟩]).1 := by
  intro env hstrings
  exact absurd hstrings.meid (by decide +kernel)

end Fw100.Request
