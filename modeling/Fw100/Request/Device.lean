import Fw100.Request.Contract

/-!
# Registration, signal strength and the device

The handlers that ask the modem for one or more lines and report their fields.
-/
namespace Fw100.Request
open Library Text Channel Session

variable {env : Environment}

def csqFields (line : CString) : Option (ℤ × ℤ) := do
  let cur ← tokStart line
  let (rssi, cur) ← tokInt cur
  let (ber, _) ← tokInt cur
  pure (rssi, ber)

/-- A command that fails completes the request before it goes to the error label. -/
def requestSignalStrength (t : Token) : RilM Unit := do
  let (p, line) ← queryLine isNegative (ascii "AT+CSQ") (ascii "+CSQ:") none
  match line with
  | none => do
    complete t .genericFailure .null
    completeThenFree t .genericFailure .null p
  | some line =>
    match csqFields line with
    | none => completeThenFree t .genericFailure .null p
    | some (rssi, ber) =>
      completeThenFree t .success (.signalStrength [rssi, ber, 0, 0, 0, 0, 0]) p

theorem showsAt_requestSignalStrength_iff {s : RequestState} (t : Token) :
    ShowsAt env s [.completed t] (requestSignalStrength t) (fun _ _ => True) ↔
      (replyLine (ascii "AT+CSQ") (ascii "+CSQ:") (env.replies s.sent)).isSome = true := by
  unfold requestSignalStrength
  rw [ShowsAt.query_bind testsZero_isNegative]
  dsimp only
  cases replyLine (ascii "AT+CSQ") (ascii "+CSQ:") (env.replies s.sent) with
  | none =>
    refine iff_of_false ?_ (by simp)
    have htwice : ∀ p, Shows env [.completed t, .completed t] (do
        complete t .genericFailure .null
        completeThenFree t .genericFailure .null p) (fun _ => True) := fun p =>
      (completes_complete t _ _).bind (fun _ _ => completes_completeThenFree t _ _ p)
    intro honce
    have hsame := ((htwice _).ends_iff _).mp (honce.mono (fun _ _ _ h => h.1))
    simp at hsame
  | some line =>
    refine iff_of_true ?_ rfl
    dsimp only
    split
    · exact completes_completeThenFree _ _ _ _ _
    · exact completes_completeThenFree _ _ _ _ _

/-- The two requests that `requestRegistrationStateEVDO` serves. -/
inductive RegistrationRequest where
  | registrationState
  | gprsRegistrationState
deriving DecidableEq, Repr

/-- The technology is forced for the emulation of GSM, whatever the protocol revision is. -/
def radioTechnology : RegistrationRequest → CString
  | .registrationState => ascii "3"
  | .gprsRegistrationState => ascii "3"

def cregState (line : CString) : Option CString := do
  let cur ← tokStart line
  let (_, cur) ← tokInt cur
  let (_, cur) ← tokInt cur
  let (_, cur) ← tokInt cur
  let (state, _) ← tokStr cur
  pure state

def sysinfoFields (line : CString) : Option (ℤ × ℤ) := do
  let cur ← tokStart line
  let (_, cur) ← tokInt cur
  let (_, cur) ← tokInt cur
  let (roaming, cur) ← tokInt cur
  let (protocolrev, _) ← tokInt cur
  pure (roaming, protocolrev)

def csnidFields (line : CString) : Option (CString × CString) := do
  let cur ← tokStart line
  let (systemId, cur) ← tokStr cur
  let (networkId, _) ← tokStr cur
  pure (systemId, networkId)

def atoi (s : CString) : ℤ :=
  match parseNumber 10 s with
  | none => 0
  | some (negative, n) => strtol negative n

/-- The roaming indicator of `+VROM:` replaces the one of `^SYSINFO:`. -/
def vromField (line : CString) : Option CString := do
  let cur ← tokStart line
  let (_, cur) ← tokInt cur
  let (indicator, _) ← tokStr cur
  pure (if 12 < atoi indicator then ascii "1" else indicator)

def registrationResponse (request : RegistrationRequest)
    (state systemId networkId roaming : CString) : RegistrationResponse where
  registerState := some state
  lac := none
  cid := none
  radioTechnology := some (radioTechnology request)
  basestationId := some (ascii "0")
  basestationLatitude := some (ascii "0")
  basestationLongitude := some (ascii "0")
  concurrentService := some (ascii "0")
  systemId := some systemId
  networkId := some networkId
  roamingIndicator := some roaming
  prlState := some (ascii "1")
  prlRoamingIndicator := some (ascii "1")
  denyReason := some (ascii "0")
  priScrambleCode := none

def freeAll : List Pointer → RilM Unit
  | [] => pure ()
  | p :: ps => do
    atResponseFree p
    freeAll ps

def completeThenFreeAll (t : Token) (e : RilErrno) (data : ResponseData) (ps : List Pointer) :
    RilM Unit := do
  complete t e data
  freeAll ps

theorem quiet_freeAll (ps : List Pointer) : Quiet env (freeAll ps) := by
  induction ps with
  | nil => exact .pure trivial
  | cons p ps ih => exact .silent_bind (quiet_atResponseFree p) (fun _ _ => ih)

theorem completes_completeThenFreeAll (t : Token) (e : RilErrno) (data : ResponseData)
    (ps : List Pointer) : Completes env t (completeThenFreeAll t e data ps) :=
  .bind_silent (completes_complete t e data) (fun _ _ => quiet_freeAll ps)

def requestRegistrationStateEVDO (request : RegistrationRequest) (t : Token) : RilM Unit := do
  let (status, line) ← queryLine isNonzero (ascii "AT+CREG?") (ascii "+CREG:") none
  match line.bind cregState with
  | none => completeThenFreeAll t .genericFailure .null [status, none, none, none]
  | some state => do
    let (protocolrev, line) ← queryLine isNonzero (ascii "AT^SYSINFO") (ascii "^SYSINFO:") none
    match line.bind sysinfoFields with
    | none => completeThenFreeAll t .genericFailure .null [status, protocolrev, none, none]
    | some _ => do
      let (sidnid, line) ← queryLine isNonzero (ascii "AT+CSNID?") (ascii "+CSNID:") none
      match line.bind csnidFields with
      | none => completeThenFreeAll t .genericFailure .null [status, protocolrev, sidnid, none]
      | some (systemId, networkId) => do
        let (roaming, line) ← queryLine isNonzero (ascii "AT+VROM?") (ascii "+VROM:") none
        match line.bind vromField with
        | none =>
          completeThenFreeAll t .genericFailure .null [status, protocolrev, sidnid, roaming]
        | some indicator =>
          completeThenFreeAll t .success
            (.registration (registrationResponse request state systemId networkId indicator))
            [status, protocolrev, sidnid, roaming]

theorem completes_requestRegistrationStateEVDO (request : RegistrationRequest) (t : Token) :
    Completes env t (requestRegistrationStateEVDO request t) := by
  apply completes_query testsZero_isNonzero
  intro p line
  dsimp only
  split
  · exact completes_completeThenFreeAll _ _ _ _
  apply completes_query testsZero_isNonzero
  intro p line
  dsimp only
  split
  · exact completes_completeThenFreeAll _ _ _ _
  apply completes_query testsZero_isNonzero
  intro p line
  dsimp only
  split
  · exact completes_completeThenFreeAll _ _ _ _
  apply completes_query testsZero_isNonzero
  intro p line
  dsimp only
  split
  · exact completes_completeThenFreeAll _ _ _ _
  · exact completes_completeThenFreeAll _ _ _ _

def requestQueryNetworkSelectionMode (t : Token) : RilM Unit := do
  let (p, line) ← queryLine isNegative (ascii "AT+COPS?") (ascii "+COPS:") none
  match line.bind (fun line => (tokStart line).bind tokInt) with
  | none => freeThenComplete t .genericFailure .null p
  | some _ => do
    let ctx ← getCtx
    completeThenFree t .success (.int ctx.networkSelectMode) p

theorem completes_requestQueryNetworkSelectionMode (t : Token) :
    Completes env t (requestQueryNetworkSelectionMode t) := by
  apply completes_query testsZero_isNegative
  intro p line
  dsimp only
  split
  · exact completes_freeThenComplete _ _ _ _
  · exact .silent_bind quiet_getCtx (fun _ _ => completes_completeThenFree _ _ _ _)

/-- The two requests that select how a network is chosen. -/
def setNetworkSelection (command : CString) (mode : ℤ) (t : Token) : RilM Unit := do
  let _ ← atSendCommandNull command
  modifyCtx (fun ctx => { ctx with networkSelectMode := mode })
  complete t .success .null

theorem completes_setNetworkSelection (command : CString) (mode : ℤ) (t : Token) :
    Completes env t (setNetworkSelection command mode t) :=
  .silent_bind (quiet_atSendCommandNull command) (fun _ _ =>
    .silent_bind (quiet_modifyCtx _) (fun _ _ => completes_complete _ _ _))

def skipStrings : ℕ → Cursor → Option Cursor
  | 0, cur => some cur
  | n + 1, cur => do
    let (_, cur) ← tokStr cur
    skipStrings n cur

def imeiField (line : CString) : Option CString := do
  let cur ← tokStart line
  let cur ← skipStrings 6 cur
  let (imei, _) ← tokStr cur
  pure (strToUpper (trimHexMark imei))

def requestGetIMEI (t : Token) : RilM Unit := do
  let (p, line) ← queryLine isNonzero (ascii "AT+VGMUID?") (ascii "+VGMUID:") none
  match line.bind imeiField with
  | none => completeThenFree t .genericFailure .null p
  | some imei => completeThenFree t .success (.string imei) p

theorem completes_requestGetIMEI (t : Token) : Completes env t (requestGetIMEI t) := by
  apply completes_query testsZero_isNonzero
  intro p line
  dsimp only
  split
  · exact completes_completeThenFree _ _ _ _
  · exact completes_completeThenFree _ _ _ _

/-- The text at `pc + n` for the first token of a line. Behind a shorter token follows what
is left of the line, or what lies behind the line. -/
def textBehind (env : Environment) (n : ℕ) (line : CString) : Option CString := do
  let (token, cur) ← tokStr (some line)
  pure (if n ≤ token.length then token.drop n else cur.getD env.behindLine)

def versionText (model software hardware : CString) : CString :=
  (model ++ ascii " sw:" ++ software ++ ascii " hw:" ++ hardware).take 95

/-- The responses are not freed. -/
def requestBasebandVersion (t : Token) : RilM Unit := do
  let env ← Traced.environment
  let (p, line) ← queryLine isNonzero (ascii "AT+CGMM") (ascii "+CGMM:") none
  match line.bind (textBehind env 6) with
  | none => complete t .genericFailure .null
  | some model => do
    let (p, line) ← queryLine isNonzero (ascii "AT+GMR") (ascii "+GMR:") p
    match line.bind (textBehind env 6) with
    | none => complete t .genericFailure .null
    | some software => do
      let (_, line) ← queryLine isNonzero (ascii "AT^HWVER") (ascii "^HWVER:") p
      match line.bind (textBehind env 7) with
      | none => complete t .genericFailure .null
      | some hardware => complete t .success (.string (versionText model software hardware))

theorem completes_requestBasebandVersion (t : Token) :
    Completes env t (requestBasebandVersion t) := by
  refine .silent_bind .environment (fun _ _ => ?_)
  apply completes_query testsZero_isNonzero
  intro p line
  dsimp only
  split
  · exact completes_complete _ _ _
  apply completes_query testsZero_isNonzero
  intro p line
  dsimp only
  split
  · exact completes_complete _ _ _
  apply completes_query testsZero_isNonzero
  intro p line
  dsimp only
  split
  · exact completes_complete _ _ _
  · exact completes_complete _ _ _

def networkModeHybrid : ℤ := 4

def networkModeCdmaNoEvdo : ℤ := 5

def networkModeEvdoNoCdma : ℤ := 6

def preferredMode (value : ℤ) : ℤ :=
  if value = 2 then networkModeCdmaNoEvdo
  else if value = 4 then networkModeEvdoNoCdma
  else if value = 8 then networkModeHybrid
  else 0

def preferredValue (mode : ℤ) : Option ℤ :=
  if mode = networkModeCdmaNoEvdo then some 2
  else if mode = networkModeEvdoNoCdma then some 4
  else if mode = networkModeHybrid then some 8
  else none

def requestGetPreferredNetworkType (t : Token) : RilM Unit := do
  let (p, line) ← queryLine isNegative (ascii "AT^PREFMODE?") (ascii "PREFMODE:") none
  match line.bind (fun line => (tokStart line).bind tokInt) with
  | none => completeThenFree t .genericFailure .null p
  | some (mode, _) => completeThenFree t .success (.int (preferredMode mode)) p

theorem completes_requestGetPreferredNetworkType (t : Token) :
    Completes env t (requestGetPreferredNetworkType t) := by
  apply completes_query testsZero_isNegative
  intro p line
  dsimp only
  split
  · exact completes_completeThenFree _ _ _ _
  · exact completes_completeThenFree _ _ _ _

def requestSetPreferredNetworkType (data : Option ℤ) (t : Token) : RilM Unit := do
  let mode ← deref data
  match preferredValue mode with
  | none => completeThenFree t .genericFailure .null none
  | some value =>
    let err ← atSendCommandNull (ascii "AT^PREFMODE=" ++ decimal value)
    if err ≠ 0 then completeThenFree t .genericFailure .null none
    else complete t .success .null

theorem showsAt_requestSetPreferredNetworkType_iff {s : RequestState} (data : Option ℤ)
    (t : Token) :
    ShowsAt env s [.completed t] (requestSetPreferredNetworkType data t) (fun _ _ => True) ↔
      data.isSome = true := by
  refine showsAt_deref_iff (fun mode => ?_)
  split
  · exact completes_completeThenFree _ _ _ _
  · refine .silent_bind (quiet_atSendCommandNull _) (fun _ _ => ?_)
    exact .ite (fun _ => completes_completeThenFree _ _ _ _) (fun _ => completes_complete _ _ _)

end Fw100.Request
