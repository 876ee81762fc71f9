import Fw100.Channel.Prompt
import Fw100.Request.Commands

/-!
# The body of a message on the wire

`requestSendSMSEVDO` terminates the body itself and `writeCtrlZ` terminates it again. What the
modem receives after its prompt is followed from the request to the descriptor.
-/
namespace Fw100.Request
open Library Text Channel Session

def Event.message : Event → Option (CString × CString)
  | .smsCommand s pdu => some (s, pdu)
  | _ => none

/-- The bytes that follow the prompt for each message command of a handler, when the reader
handles `lines` before the final response. -/
def messageBytes (ch : AtChannel) (lines : List CString) (ws : List WriteResult)
    (events : List Event) : List (List UInt8) :=
  (events.filterMap Event.message).map (fun m =>
    readerBytes (ch.pend (.sms m.1 m.2 (ascii "^HCMGS:") true)) lines ws)

def bodyOnce (pdu : CString) : List UInt8 :=
  (if pdu.getLast? = some 26 then pdu.dropLast else pdu) ++ [26]

/-- The one message command carries the body in which the terminator was stored. -/
theorem message_requestSendSMSEVDO (env : Environment) (s : RequestState) (smsc : Option CString)
    {pdu : CString} (hpdu : pdu ≠ []) (t : Token) :
    (requestSendSMSEVDO (some ⟨smsc, some pdu⟩) t env s).events.filterMap Event.message =
      [(ascii "AT^HCMGS=" ++ smsc.getD (ascii "00"), terminatePdu pdu)] := by
  have hstore : ∀ s, ∃ es, storeString .smsLog 128 (smsLogText smsc pdu (terminatePdu pdu)) env s =
      ⟨.ok (), s, es⟩ ∧ es.filterMap Event.message = [] := by
    intro s
    unfold storeString
    split
    · exact ⟨[], rfl, rfl⟩
    · exact ⟨[.overrun .smsLog], rfl, rfl⟩
  have hsend : ∀ s, ∃ x es, atSendCommandSms (ascii "AT^HCMGS=" ++ smsc.getD (ascii "00"))
      (terminatePdu pdu) (ascii "^HCMGS:") none env s = ⟨.ok x, { s with sent := s.sent + 1 }, es⟩ ∧
        es.filterMap Event.message =
          [(ascii "AT^HCMGS=" ++ smsc.getD (ascii "00"), terminatePdu pdu)] := by
    intro s
    refine ⟨_, _, rfl, ?_⟩
    rw [List.filterMap_cons, filterMap_obtainedEvent rfl]
    rfl
  obtain ⟨logged, hlog, hlogged⟩ := hstore { s with sent := s.sent + 1 }
  obtain ⟨x, sent, hsms, hsent⟩ := hsend { s with sent := s.sent + 1 }
  have hquiet : Traced.Emits env (fun e => e.message = none)
      (completeBySuccess isNonzero t .smsResponse .genericFailure x) :=
    emits_completeBySuccess (fun _ _ _ => rfl) (fun _ => rfl) _ _ _ _ _
  have hlast := hquiet.filterMap_eq_nil { s with sent := s.sent + 1 + 1 }
  have hpure : storeTerminator pdu env { s with sent := s.sent + 1 } =
      ⟨.ok (terminatePdu pdu), { s with sent := s.sent + 1 }, []⟩ := by
    rw [storeTerminator, if_neg hpdu]
    rfl
  have hfirst : [Event.command (ascii "at+cmgf=1")].filterMap Event.message = [] := rfl
  unfold requestSendSMSEVDO
  rw [Traced.bind_eq (atSendCommandNull_eq env _ s), deref_bind, deref_bind, Traced.bind_eq hpure,
    Traced.bind_eq hlog, Traced.bind_eq hsms]
  simp only [List.filterMap_append, hfirst, hlogged, hsent, hlast,
    List.nil_append, List.append_nil]

/-- The last character is lost or the terminator is there twice. -/
theorem terminatePdu_ne_bodyOnce {pdu : CString} (hpdu : pdu ≠ []) :
    terminatePdu pdu ++ [26] ≠ bodyOnce pdu := by
  obtain ⟨body, c, rfl⟩ := (List.eq_nil_or_concat' pdu).resolve_left hpdu
  unfold terminatePdu bodyOnce
  by_cases hc : c = 26
  · simp [hc]
  · simp [hc, Ne.symm hc]

/-- On no body and under no schedule of writes does the modem receive the body as it was passed
with one terminator. -/
theorem message_body_never_sent_as_passed (env : Environment) (s : RequestState)
    (smsc : Option CString) (pdu : CString) (hpdu : pdu ≠ []) (t : Token) (ch : AtChannel)
    (hopen : ch.fdOpen = true) (hlive : ch.readerClosed = false) (lines : List CString)
    (hprompt : smsPromptLine ∈ lines) (ws : List WriteResult) (hws : WriteResult.error ∉ ws) :
    ∃ bytes, messageBytes ch lines ws (requestSendSMSEVDO (some ⟨smsc, some pdu⟩) t env s).events = [bytes] ∧
      bytes ≠ bodyOnce pdu := by
  refine ⟨terminatePdu pdu ++ [26], ?_, terminatePdu_ne_bodyOnce hpdu⟩
  set call := Call.sms (ascii "AT^HCMGS=" ++ smsc.getD (ascii "00")) (terminatePdu pdu)
    (ascii "^HCMGS:") true with hcall
  have hpending : (ch.pend call).response.isSome := rfl
  have hbody : (ch.pend call).smsPDU = some (terminatePdu pdu) := rfl
  have hbytes : readerBytes (ch.pend call) lines ws = terminatePdu pdu ++ [26] :=
    readerBytes_one_prompt (show (ch.pend call).fdOpen = true from hopen) hlive hpending hbody
      hprompt hws
  rw [messageBytes, message_requestSendSMSEVDO env s smsc hpdu t, List.map_singleton, ← hcall, hbytes]

theorem message_body_without_last_character :
    let env := Environment.terse
    let ws := [WriteResult.wrote 3, .eintr, .wrote 0, .wrote 9]
    messageBytes AtChannel.loaded.atOpen [smsPromptLine] ws
        (requestSendSMSEVDO (some ⟨none, some (ascii "0011000A9121")⟩) 7 env
          ⟨initSessionContext none 0, 0⟩).events ≠
      [bodyOnce (ascii "0011000A9121")] := by
  decide

theorem message_body_with_two_terminators :
    let env := Environment.terse
    let pdu := ascii "0011" ++ [26]
    ∃ bytes, messageBytes AtChannel.loaded.atOpen [smsPromptLine] [.wrote 2]
        (requestSendSMSEVDO (some ⟨none, some pdu⟩) 7 env ⟨initSessionContext none 0, 0⟩).events =
          [bytes] ∧ bytes ≠ bodyOnce pdu := by
  intro env pdu
  exact message_body_never_sent_as_passed env _ none pdu (by decide) 7 AtChannel.loaded.atOpen rfl rfl
    [smsPromptLine] (by decide) [.wrote 2] (by decide)

end Fw100.Request
