import Fw100.Channel.Response

/-!
# Sending one command

`writeline`, `writeCtrlZ` and the critical sections of
`at_send_command_full_nolock`: the part up to the condition wait and the part
that follows a wake-up. The wrappers that the request handlers use are at the end.
-/
namespace Fw100.Channel
open Library Text

def atErrorGeneric : ℤ := -1
def atErrorCommandPending : ℤ := -2
def atErrorChannelClosed : ℤ := -3
def atErrorTimeout : ℤ := -4
def atErrorInvalidThread : ℤ := -5
def atErrorInvalidResponse : ℤ := -6

def AtChannel.loaded : AtChannel := ⟨false, false, .noResult, none, none, none⟩

def AtChannel.atOpen (ch : AtChannel) : AtChannel :=
  { ch with
    fdOpen := true
    readerClosed := false
    responsePrefix := none
    smsPDU := none
    response := none }

def AtChannel.onReaderClosed (ch : AtChannel) : AtChannel := { ch with readerClosed := true }

inductive WriteResult where
  | wrote (n : ℕ)
  | eintr
  | error
deriving DecidableEq, Repr

/-- The loop that writes a string, with the bytes that reach the device. An
environment that has no more to say takes everything. -/
def writeAll : CString → List WriteResult → Bool × List UInt8 × List WriteResult
  | s, [] => (true, s, [])
  | [], ws => (true, [], ws)
  | s, .eintr :: ws => writeAll s ws
  | _, .error :: ws => (false, [], ws)
  | s, .wrote n :: ws =>
    let (ok, sent, ws) := writeAll (s.drop n) ws
    (ok, s.take n ++ sent, ws)

/-- The common body of `writeline` and `writeCtrlZ`: the string, then its
terminator, which is written again as long as nothing is taken. -/
def AtChannel.writeTerminated (terminator : UInt8) (ch : AtChannel) (s : CString)
    (ws : List WriteResult) : ℤ × List UInt8 × List WriteResult :=
  if !ch.fdOpen || ch.readerClosed then (atErrorChannelClosed, [], ws)
  else
    match writeAll s ws with
    | (false, sent, ws) => (atErrorGeneric, sent, ws)
    | (true, sent, ws) =>
      match writeAll [terminator] ws with
      | (false, last, ws) => (atErrorGeneric, sent ++ last, ws)
      | (true, last, ws) => (0, sent ++ last, ws)

def AtChannel.writeline := AtChannel.writeTerminated 13

def AtChannel.writeCtrlZ := AtChannel.writeTerminated 26

def AtChannel.clearPendingCommand (ch : AtChannel) : AtChannel :=
  { ch with response := none, responsePrefix := none, smsPDU := none }

inductive OutParam where
  | untouched
  | null
  | response (r : ATResponse)
deriving DecidableEq, Repr

/-- Where a command thread is after one of its critical sections. `crashed` is
the access to `sp_response->finalResponse` through a `NULL` pointer. -/
inductive Progress where
  | waiting
  | returned (err : ℤ) (out : OutParam)
  | crashed
deriving DecidableEq, Repr

/-- From the entry of `at_send_command_full_nolock` to the condition wait. -/
def beginCommand (ch : AtChannel) (call : Call) (ws : List WriteResult) :
    Progress × AtChannel × List WriteResult :=
  if ch.response.isSome then
    (.returned atErrorCommandPending .untouched, ch.clearPendingCommand, ws)
  else
    let (err, _, ws) := ch.writeline call.command ws
    if err < 0 then (.returned err .untouched, ch.clearPendingCommand, ws)
    else (.waiting, ch.pend call, ws)

/-- The reader stored the intermediate lines in reverse order. -/
def ATResponse.reverseIntermediates (r : ATResponse) : ATResponse :=
  { r with intermediates := r.intermediates.reverse }

/-- A return from the condition wait: the loop condition is tested again. -/
def resume (ch : AtChannel) (call : Call) : Progress × AtChannel :=
  match ch.response with
  | none => (.crashed, ch)
  | some r =>
    if r.finalResponse.isNone && !ch.readerClosed then (.waiting, ch)
    else
      (.returned (if ch.readerClosed then atErrorChannelClosed else 0)
        (if call.wantsResponse then .response r.reverseIntermediates else .untouched),
        ch.clearPendingCommand)

/-- `at_send_command_full` on a thread that is alone with the reader thread: the
reader handles `lines` and may then end before the command thread resumes. -/
def atSendCommandFull (call : Call) (ch : AtChannel) (ws : List WriteResult)
    (lines : List CString) (closes : Bool) : Progress × AtChannel × List (List Effect) :=
  match beginCommand ch call ws with
  | (.waiting, ch, _) =>
    let (ch, effects) := processLines ch lines
    let (progress, ch) := resume (if closes then ch.onReaderClosed else ch) call
    (progress, ch, effects)
  | (progress, ch, _) => (progress, ch, [])

def Progress.requireIntermediate : Progress → Progress
  | .returned err (.response r) =>
    if err == 0 && r.success && r.intermediates.isEmpty then .returned atErrorInvalidResponse .null
    else .returned err (.response r)
  | progress => progress

def atSendCommandChecked (call : Call) (ch : AtChannel) (ws : List WriteResult)
    (lines : List CString) (closes : Bool) : Progress × AtChannel × List (List Effect) :=
  let (progress, ch, effects) := atSendCommandFull call ch ws lines closes
  (progress.requireIntermediate, ch, effects)

namespace Call

def plain (command : CString) (wantsResponse : Bool) : Call :=
  ⟨command, .noResult, none, none, false, wantsResponse, by simp⟩

def singleline (command pre : CString) (wantsResponse : Bool) : Call :=
  ⟨command, .singleline, some pre, none, false, wantsResponse, by simp⟩

def numeric (command : CString) (wantsResponse : Bool) : Call :=
  ⟨command, .numeric, none, none, false, wantsResponse, by simp⟩

def sms (command pdu pre : CString) (wantsResponse : Bool) : Call :=
  ⟨command, .singleline, some pre, some pdu, false, wantsResponse, by simp⟩

def multiline (command pre : CString) (wantsResponse : Bool) : Call :=
  ⟨command, .multiline, some pre, none, false, wantsResponse, by simp⟩

end Call

def atSendCommand (command : CString) (wantsResponse : Bool) :=
  atSendCommandFull (.plain command wantsResponse)

def atSendCommandSingleline (command responsePrefix : CString) (wantsResponse : Bool) :=
  atSendCommandChecked (.singleline command responsePrefix wantsResponse)

def atSendCommandNumeric (command : CString) (wantsResponse : Bool) :=
  atSendCommandChecked (.numeric command wantsResponse)

def atSendCommandSms (command pdu responsePrefix : CString) (wantsResponse : Bool) :=
  atSendCommandChecked (.sms command pdu responsePrefix wantsResponse)

def atSendCommandMultiline (command responsePrefix : CString) (wantsResponse : Bool) :=
  atSendCommandFull (.multiline command responsePrefix wantsResponse)

end Fw100.Channel
