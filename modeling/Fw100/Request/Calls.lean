import Fw100.Request.Contract

/-!
# Voice calls

The list of current calls and the requests that send one command and do not look at its
result.
-/
namespace Fw100.Request
open Library Text Channel Session

variable {env : Environment}

def fireAndForget (command : CString) (t : Token) : RilM Unit := do
  let _ ← atSendCommandNull command
  complete t .success .null

theorem completes_fireAndForget (command : CString) (t : Token) :
    Completes env t (fireAndForget command t) :=
  .silent_bind (quiet_atSendCommandNull command) (fun _ _ => completes_complete _ _ _)

def clirText (clir : ℤ) : CString :=
  if clir = 1 then ascii "I" else if clir = 2 then ascii "i" else []

structure Dial where
  address : Option CString
  clir : ℤ
deriving DecidableEq, Repr

def requestDial (data : Option Dial) (t : Token) : RilM Unit := do
  let dial ← deref data
  fireAndForget (ascii "ATD" ++ printString dial.address ++ clirText dial.clir ++ ascii ";") t

def requestHangup (data : Option ℤ) (t : Token) : RilM Unit := do
  let line ← deref data
  fireAndForget (ascii "AT+CHLD=1" ++ decimal line) t

/-- `%c` of a NUL ends the command. -/
def requestDtmf (data : Option UInt8) (t : Token) : RilM Unit := do
  let c ← deref data
  fireAndForget (ascii "AT+VTS=" ++ if c = 0 then [] else [c]) t

def requestSeparateConnection (data : Option ℤ) (t : Token) : RilM Unit := do
  let party ← deref data
  if 0 < party ∧ party < 10 then fireAndForget (ascii "AT+CHLD=2" ++ decimal party) t
  else complete t .genericFailure .null

theorem showsAt_requestSeparateConnection_iff {s : RequestState} (data : Option ℤ) (t : Token) :
    ShowsAt env s [.completed t] (requestSeparateConnection data t) (fun _ _ => True) ↔
      data.isSome = true :=
  showsAt_deref_iff (fun _ =>
    .ite (fun _ => completes_fireAndForget _ _) (fun _ => completes_complete _ _ _))

def clccStateToRILState (state : ℤ) : Option CallState :=
  match state with
  | 0 => some .active
  | 1 => some .holding
  | 2 => some .dialing
  | 3 => some .alerting
  | 4 => some .incoming
  | 5 => some .waiting
  | _ => none

/-- A call in an array that was cleared by `memset`. -/
def RilCall.cleared : RilCall := ⟨.active, 0, 0, false, false, false, none⟩

/-- The characters that `strspn` accepts in a number. -/
def dialable : CString := ascii "+*#0123456789"

/-- A text that starts with no dialable character is dropped, apart from three. -/
def keepNumber (number : CString) : Option CString :=
  if (number.head?.any dialable.contains) || number == ascii "Restricted"
      || number == ascii "NotAvailable" || number == ascii "UNKNOWN" then some number
  else none

/-- The optional end of a `+CLCC:` line. -/
def callNumber (call : RilCall) (cur : Cursor) : Bool × RilCall :=
  if atTokHasmore cur then
    let number := atTokNextstr cur
    if number.err < 0 then (true, call)
    else
      let call := { call with number := (number.out.getD call.number).bind keepNumber }
      let toa := atTokNextint number.cur
      (0 ≤ toa.err, { call with toa := toa.out.getD call.toa })
  else (true, call)

/-- `callFromCLCCLine` writes into the given slot as it goes, also when it fails later. -/
def callFromCLCCLine (line : CString) (call : RilCall) : Bool × RilCall :=
  match tokStart line with
  | none => (false, call)
  | some cur =>
    let index := atTokNextint cur
    let call := { call with index := index.out.getD call.index }
    if index.err < 0 then (false, call)
    else
      let isMT := atTokNextbool index.cur
      let call := { call with isMT := isMT.out.getD call.isMT }
      if isMT.err < 0 then (false, call)
      else
        match tokInt isMT.cur with
        | none => (false, call)
        | some (state, cur) =>
          match clccStateToRILState state with
          | none => (false, call)
          | some state =>
            let call := { call with state := state }
            match tokInt cur with
            | none => (false, call)
            | some (mode, cur) =>
              let call := { call with isVoice := mode = 0 }
              if mode ≠ 0 then (false, call)
              else
                let isMpty := atTokNextbool cur
                let call := { call with isMpty := isMpty.out.getD call.isMpty }
                if isMpty.err < 0 then (false, call) else callNumber call isMpty.cur

/-- The loop over the lines. `p_calls->index` is the index of the first slot. -/
def collectCalls : List CString → List RilCall → ℕ → List RilCall × ℕ
  | [], calls, n => (calls, n)
  | line :: lines, calls, n =>
    match callFromCLCCLine line (calls.getD n .cleared) with
    | (false, call) => collectCalls lines (calls.set n call) n
    | (true, call) =>
      let calls := (calls.set n call).modify 0 (fun first => { first with index := n + 1 })
      collectCalls lines calls (n + 1)

def reportedCalls (lines : List CString) : List RilCall :=
  let (calls, n) := collectCalls lines (List.replicate lines.length .cleared) 0
  calls.take n

/-- A command that fails leaves its response behind. -/
def requestGetCurrentCallsEVDO (t : Token) : RilM Unit := do
  let (err, p) ← atSendCommandMultiline (ascii "AT+CLCC") (ascii "+CLCC:") none
  if ← succeeded isNonzero err p then
    match p with
    | none => Traced.fault .nullPointer
    | some held =>
      completeThenFree t .success (.calls (reportedCalls held.response.intermediates)) p
  else complete t .genericFailure .null

theorem completes_requestGetCurrentCallsEVDO (t : Token) :
    Completes env t (requestGetCurrentCallsEVDO t) := by
  apply Traced.Observes.silent_bind (shows_atSendCommandMultiline _ _ _)
  rintro ⟨err, p⟩ husable
  refine .silent_bind (shows_succeeded testsZero_isNonzero husable) (fun ok hok => ?_)
  refine .ite (fun hb => ?_) (fun _ => completes_complete _ _ _)
  rcases hok hb with ⟨-, held, rfl, -⟩
  exact completes_completeThenFree _ _ _ _

end Fw100.Request
