import Fw100.Channel.Command

/-!
# What the reader thread writes

The reader answers the prompt of a message command itself. The bytes that reach the modem
while it handles a list of lines depend on what the calls of `write` return; a schedule
without an error delivers the body and its terminator in full.
-/
namespace Fw100.Channel
open Library Text

/-! ### The write loops -/

/-- Short and interrupted calls are made up for. -/
theorem writeAll_of_no_error {ws : List WriteResult} (h : WriteResult.error ∉ ws) (s : CString) :
    ∃ rest, writeAll s ws = (true, s, rest) ∧ WriteResult.error ∉ rest := by
  induction ws generalizing s with
  | nil => exact ⟨[], by simp [writeAll]⟩
  | cons w ws ih =>
    have hlater : WriteResult.error ∉ ws := fun hmem => h (.tail _ hmem)
    cases s with
    | nil => exact ⟨w :: ws, by simp [writeAll], h⟩
    | cons c s =>
      cases w with
      | error => exact absurd (.head _) h
      | eintr => exact ih hlater (c :: s)
      | wrote n =>
        obtain ⟨rest, hrest, hno⟩ := ih hlater ((c :: s).drop n)
        refine ⟨rest, ?_, hno⟩
        rw [writeAll, hrest]
        · simp only [List.take_append_drop]
        · simp

theorem writeCtrlZ_of_no_error {ch : AtChannel} (hopen : ch.fdOpen = true)
    (hlive : ch.readerClosed = false) (s : CString) {ws : List WriteResult}
    (h : WriteResult.error ∉ ws) :
    ∃ rest, ch.writeCtrlZ s ws = (0, s ++ [26], rest) ∧ WriteResult.error ∉ rest := by
  obtain ⟨rest, hbody, hrest⟩ := writeAll_of_no_error h s
  obtain ⟨last, hterminator, hlast⟩ := writeAll_of_no_error hrest [26]
  refine ⟨last, ?_, hlast⟩
  simp [AtChannel.writeCtrlZ, AtChannel.writeTerminated, hopen, hlive, hbody, hterminator]

/-! ### The lines of one command -/

/-- The bytes that one effect sends, with what is left of the schedule. -/
def Effect.write (ch : AtChannel) (ws : List WriteResult) : Effect → List UInt8 × List WriteResult
  | .writeCtrlZ pdu => (ch.writeCtrlZ pdu ws).2
  | .unsolicited _ _ => ([], ws)
  | .nullPrefix => ([], ws)

def writeEffects (ch : AtChannel) : List Effect → List WriteResult → List UInt8 × List WriteResult
  | [], ws => ([], ws)
  | e :: es, ws =>
    let (sent, ws) := e.write ch ws
    let (later, ws) := writeEffects ch es ws
    (sent ++ later, ws)

def readerBytes : AtChannel → List CString → List WriteResult → List UInt8
  | _, [], _ => []
  | ch, line :: lines, ws =>
    let (sent, ws) := writeEffects ch (processLine ch line).2 ws
    sent ++ readerBytes (processLine ch line).1 lines ws

theorem processLine_no_prompt {ch : AtChannel} {line : CString}
    (h : ch.smsPDU = none ∨ line ≠ smsPromptLine) (ws : List WriteResult) :
    writeEffects ch (processLine ch line).2 ws = ([], ws) ∧
      (processLine ch line).1.smsPDU = ch.smsPDU ∧
      (processLine ch line).1.response.isSome = ch.response.isSome := by
  have hskip : (ch.smsPDU.isSome && line == smsPromptLine) = false := by
    rcases h with h | h
    · simp [h]
    · simp [h]
  unfold processLine
  split
  · exact ⟨rfl, rfl, rfl⟩
  · next r hr =>
    simp only [hskip, Bool.false_eq_true, if_false]
    repeat' split
    all_goals simp [writeEffects, Effect.write, handleUnsolicited, hr]

theorem readerBytes_no_prompt {ch : AtChannel} {lines : List CString}
    (h : ch.smsPDU = none ∨ smsPromptLine ∉ lines) (ws : List WriteResult) :
    readerBytes ch lines ws = [] := by
  induction lines generalizing ch with
  | nil => rfl
  | cons line lines ih =>
    have hline : ch.smsPDU = none ∨ line ≠ smsPromptLine :=
      h.imp_right (fun hmem heq => hmem (heq ▸ .head _))
    obtain ⟨hsent, hpdu, -⟩ := processLine_no_prompt hline ws
    have hlater : (processLine ch line).1.smsPDU = none ∨ smsPromptLine ∉ lines := by
      rw [hpdu]
      exact h.imp_right (fun hmem hlater => hmem (.tail _ hlater))
    rw [readerBytes, hsent]
    exact ih hlater

/-- One prompt among the lines is answered with the body and one terminator. -/
theorem readerBytes_one_prompt {ch : AtChannel} {pdu : CString} (hopen : ch.fdOpen = true)
    (hlive : ch.readerClosed = false) (hpending : ch.response.isSome)
    (hbody : ch.smsPDU = some pdu) {lines : List CString} (hone : smsPromptLine ∈ lines)
    {ws : List WriteResult} (hws : WriteResult.error ∉ ws) :
    readerBytes ch lines ws = pdu ++ [26] := by
  induction lines generalizing ch with
  | nil => cases hone
  | cons line lines ih =>
    by_cases hline : line = smsPromptLine
    · subst hline
      obtain ⟨rest, hwrite, -⟩ := writeCtrlZ_of_no_error hopen hlive pdu hws
      have hquiet : readerBytes { ch with smsPDU := none } lines rest = [] :=
        readerBytes_no_prompt (.inl rfl) rest
      obtain ⟨r, hr⟩ := Option.isSome_iff_exists.mp hpending
      have hprompt := processLine_prompt hr hbody
      simp [readerBytes, hprompt, writeEffects, Effect.write, hwrite, hquiet]
    · obtain ⟨hsent, hpdu, hresponse⟩ := processLine_no_prompt (.inr hline) ws
      have hlater : smsPromptLine ∈ lines := (List.mem_cons.mp hone).resolve_left (Ne.symm hline)
      rw [readerBytes, hsent]
      exact ih ((processLine_fdOpen ch line).trans hopen)
        ((processLine_readerClosed ch line).trans hlive) (hresponse ▸ hpending)
        (hpdu.trans hbody) hlater

end Fw100.Channel
