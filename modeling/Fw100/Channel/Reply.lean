import Fw100.Channel.Exchange

/-!
# What a command returns to its caller

Seen from a request handler one command is a single step: it returns an error code and
may store a response. `Reply` lists the ways in which that step can end.
-/
namespace Fw100.Channel
open Library Text

inductive SendError where
  | generic
  | commandPending
  | channelClosed
  | timeout
  | invalidThread
deriving DecidableEq, Repr

def SendError.code : SendError → ℤ
  | .generic => atErrorGeneric
  | .commandPending => atErrorCommandPending
  | .channelClosed => atErrorChannelClosed
  | .timeout => atErrorTimeout
  | .invalidThread => atErrorInvalidThread

/-- The command line has been written: only the wait for an answer has failed. -/
def SendError.delivered : SendError → Bool
  | .timeout => true
  | _ => false

inductive Reply where
  | failed (e : SendError)
  | answered (lines : List CString) (final_isSome : (lastFinal lines).isSome)
  | closed (lines : List CString)

def Call.out (call : Call) (lines : List CString) : OutParam :=
  if call.wantsResponse then .response (call.assemble lines) else .untouched

namespace Reply

def delivered : Reply → Bool
  | .failed e => e.delivered
  | _ => true

def result (call : Call) : Reply → ℤ × OutParam
  | .failed e => (e.code, .untouched)
  | .answered lines _ => (0, call.out lines)
  | .closed lines => (atErrorChannelClosed, call.out lines)

def checkIntermediate : ℤ × OutParam → ℤ × OutParam
  | (err, .response r) =>
    if err == 0 && r.success && r.intermediates.isEmpty then (atErrorInvalidResponse, .null)
    else (err, .response r)
  | (err, out) => (err, out)

end Reply

theorem requireIntermediate_returned (r : ℤ × OutParam) :
    (Progress.returned r.1 r.2).requireIntermediate =
      .returned (Reply.checkIntermediate r).1 (Reply.checkIntermediate r).2 := by
  rcases r with ⟨err, out⟩
  cases out with
  | untouched => rfl
  | null => rfl
  | response r =>
    simp only [Progress.requireIntermediate, Reply.checkIntermediate]
    split <;> rfl

/-- A write that fails reports one of two errors. -/
theorem writeTerminated_err (terminator : UInt8) (ch : AtChannel) (s : CString)
    (ws : List WriteResult) :
    (ch.writeTerminated terminator s ws).1 = 0 ∨
      ∃ e : SendError, e.delivered = false ∧
        (ch.writeTerminated terminator s ws).1 = e.code := by
  unfold AtChannel.writeTerminated
  split
  · exact .inr ⟨.channelClosed, rfl, rfl⟩
  · split
    · exact .inr ⟨.generic, rfl, rfl⟩
    · split
      · exact .inr ⟨.generic, rfl, rfl⟩
      · exact .inl rfl

theorem beginCommand_reply (ch : AtChannel) (call : Call) (ws : List WriteResult) :
    (∃ e : SendError, e.delivered = false ∧
        (beginCommand ch call ws).1 = .returned e.code .untouched) ∨
      (beginCommand ch call ws).1 = .waiting ∧ (beginCommand ch call ws).2.1 = ch.pend call := by
  unfold beginCommand
  split
  · exact .inl ⟨.commandPending, rfl, rfl⟩
  · obtain h0 | ⟨e, hundelivered, he⟩ := writeTerminated_err 13 ch call.command ws
    · right
      simp [AtChannel.writeline, h0]
    · by_cases hneg : e.code < 0
      · left
        exact ⟨e, hundelivered, by simp [AtChannel.writeline, he, hneg]⟩
      · cases e <;> exact absurd (by decide) hneg

/-- Every call of `at_send_command_full` that returns ends in one of these ways. -/
theorem atSendCommandFull_reply (call : Call) (ch : AtChannel) (ws : List WriteResult)
    (lines : List CString) (closes : Bool) :
    (atSendCommandFull call ch ws lines closes).1 = .waiting ∨
      ∃ reply : Reply, (atSendCommandFull call ch ws lines closes).1 =
        .returned (reply.result call).1 (reply.result call).2 := by
  obtain ⟨⟨progress, ch', ws'⟩, hb⟩ : ∃ b, beginCommand ch call ws = b := ⟨_, rfl⟩
  rcases beginCommand_reply ch call ws with ⟨e, -, he⟩ | ⟨hwait, hpend⟩
  · rw [hb] at he
    obtain rfl : progress = .returned e.code .untouched := he
    exact .inr ⟨.failed e, by simp [atSendCommandFull, hb, Reply.result]⟩
  · rw [hb] at hwait hpend
    obtain rfl : progress = .waiting := hwait
    obtain rfl : ch' = ch.pend call := hpend
    have hfull : (atSendCommandFull call ch ws lines closes).1 =
        (resume ((if closes then ch.onReaderClosed else ch).after call lines) call).1 := by
      have hlines := processLines_pend ch call lines
      simp only [atSendCommandFull, hb, hlines]
      cases closes <;> rfl
    rw [hfull, resume_after]
    generalize (if closes then ch.onReaderClosed else ch) = ch₁
    cases hclosed : ch₁.readerClosed with
    | true => exact .inr ⟨.closed lines, by simp [Reply.result, Call.out]⟩
    | false =>
      cases hlast : lastFinal lines with
      | none => exact .inl (by simp)
      | some l =>
        exact .inr ⟨.answered lines (by simp [hlast]), by simp [Reply.result, Call.out]⟩

theorem atSendCommandChecked_reply (call : Call) (ch : AtChannel) (ws : List WriteResult)
    (lines : List CString) (closes : Bool) :
    (atSendCommandChecked call ch ws lines closes).1 = .waiting ∨
      ∃ reply : Reply, (atSendCommandChecked call ch ws lines closes).1 =
        .returned (Reply.checkIntermediate (reply.result call)).1
          (Reply.checkIntermediate (reply.result call)).2 := by
  simp only [atSendCommandChecked]
  obtain hwait | ⟨reply, hreply⟩ := atSendCommandFull_reply call ch ws lines closes
  · exact .inl (by rw [hwait]; rfl)
  · exact .inr ⟨reply, by rw [hreply, requireIntermediate_returned]⟩

/-- On an idle open channel every answer of the modem is such an end. -/
theorem atSendCommandFull_answered (call : Call) {ch : AtChannel} (hopen : ch.fdOpen = true)
    (hlive : ch.readerClosed = false) (hidle : ch.response = none) (lines : List CString)
    (hfinal : (lastFinal lines).isSome) :
    (atSendCommandFull call ch [] lines false).1 =
      .returned ((Reply.answered lines hfinal).result call).1
        ((Reply.answered lines hfinal).result call).2 := by
  have hbegin : beginCommand ch call [] = (.waiting, ch.pend call, []) := by
    simp [beginCommand, hidle, AtChannel.writeline, AtChannel.writeTerminated, hopen, hlive,
      writeAll]
  rcases Option.isSome_iff_exists.mp hfinal with ⟨l, hl⟩
  simp only [atSendCommandFull, hbegin, processLines_pend, Bool.false_eq_true, if_false,
    resume_after, hl, hlive]
  simp [Reply.result, Call.out]

end Fw100.Channel
