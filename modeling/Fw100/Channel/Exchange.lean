import Fw100.Channel.Command

/-!
# One command and the lines that arrive for it

The response a command returns, in terms of the lines that the reader handled
between the write and the return from the condition wait.
-/
namespace Fw100.Channel
open Library Text

theorem resume_after (ch : AtChannel) (call : Call) (lines : List CString) :
    resume (ch.after call lines) call =
      if (lastFinal lines).isNone && !ch.readerClosed then (.waiting, ch.after call lines)
      else
        (.returned (if ch.readerClosed then atErrorChannelClosed else 0)
          (if call.wantsResponse then .response (call.assemble lines) else .untouched),
          (ch.pend call).clearPendingCommand) := by
  have hresp : (ch.after call lines).response = some ⟨(call.assemble lines).success,
      lastFinal lines, (call.intermediates (nonFinal lines)).reverse⟩ := rfl
  have hback : (ATResponse.mk (call.assemble lines).success (lastFinal lines)
      (call.intermediates (nonFinal lines)).reverse).reverseIntermediates = call.assemble lines := by
    simp [ATResponse.reverseIntermediates, Call.assemble]
  unfold resume
  rw [hresp]
  simp only [hback]
  rfl

theorem resume_after_final (ch : AtChannel) (call : Call) {lines : List CString} {l : CString}
    (h : lastFinal lines = some l) :
    resume (ch.after call lines) call =
      (.returned (if ch.readerClosed then atErrorChannelClosed else 0)
        (if call.wantsResponse then .response (call.assemble lines) else .untouched),
        (ch.pend call).clearPendingCommand) := by
  simp [resume_after, h]

theorem nonFinal_of_forall {lines : List CString} (h : ∀ l ∈ lines, isFinalResponse l = false) :
    nonFinal lines = lines := by
  simpa [nonFinal] using h

theorem nonFinal_append_final {before after : List CString} {l : CString}
    (h : ∀ l ∈ before, isFinalResponse l = false) (hl : isFinalResponse l = true) :
    nonFinal (before ++ l :: after) = before ++ nonFinal after := by
  have hb := nonFinal_of_forall h
  unfold nonFinal at hb ⊢
  simp [hb, hl]

theorem lastFinal_append_final (before after : List CString) {l : CString}
    (hl : isFinalResponse l = true) :
    lastFinal (before ++ l :: after) = some ((lastFinal after).getD l) := by
  simp [lastFinal, hl, List.getLast?_append, List.getLast?_cons]

/-- The first final response and the lines that arrive before the thread resumes. -/
theorem Call.assemble_append_final (call : Call) {before after : List CString} {l : CString}
    (h : ∀ l ∈ before, isFinalResponse l = false) (hl : isFinalResponse l = true) :
    call.assemble (before ++ l :: after) =
      ⟨isFinalResponseSuccess ((lastFinal after).getD l), some ((lastFinal after).getD l),
        call.intermediates (before ++ nonFinal after)⟩ := by
  simp [Call.assemble, nonFinal_append_final h hl, lastFinal_append_final before after hl]

def Call.late (call : Call) (before after : List CString) : List CString :=
  if call.promptOpen before then (nonFinal after).erase smsPromptLine else nonFinal after

theorem Call.intermediates_append_eq_iff (call : Call) (before after : List CString) :
    call.intermediates (before ++ nonFinal after) = call.intermediates before ↔
      (call.type = .multiline ∨ (call.routed before).any call.wants = false →
        (call.late before after).any call.wants = false) := by
  have hr : call.routed (before ++ nonFinal after) =
      call.routed before ++ call.late before after := call.routed_append before (nonFinal after)
  unfold Call.intermediates
  rw [hr]
  by_cases hm : call.type = .multiline
  · simp [hm]
  · cases hf : (call.routed before).find? call.wants with
    | none =>
      have hnone : (call.routed before).any call.wants = false := by
        simpa [List.find?_eq_none] using hf
      simp [hm, hf, hnone, List.find?_append, List.find?_eq_none]
    | some x =>
      have hsome : (call.routed before).any call.wants = true := by
        rw [List.any_eq_true]
        exact ⟨x, List.mem_of_find?_eq_some hf, List.find?_some hf⟩
      simp [hm, hf, hsome, List.find?_append]

/-- The response is the one of the lines up to the first final response unless
a later line, handled before the thread resumes, is taken for the command too. -/
theorem response_fixed_by_first_final_iff (ch : AtChannel) (call : Call)
    (hw : call.wantsResponse = true) (before after : List CString) (final : CString)
    (hb : ∀ l ∈ before, isFinalResponse l = false) (hf : isFinalResponse final = true) :
    (∃ err, (resume (processLines (ch.pend call) (before ++ final :: after)).1 call).1 =
        .returned err (.response
          ⟨isFinalResponseSuccess final, some final, call.intermediates before⟩)) ↔
      (∀ l, lastFinal after = some l → l = final) ∧
        (call.type = .multiline ∨ (call.routed before).any call.wants = false →
          (call.late before after).any call.wants = false) := by
  rw [processLines_pend, resume_after_final ch call (lastFinal_append_final before after hf),
    call.assemble_append_final hb hf, ← call.intermediates_append_eq_iff before after]
  simp only [hw, if_true, Progress.returned.injEq, OutParam.response.injEq, ATResponse.mk.injEq,
    exists_and_right, exists_eq', true_and]
  constructor
  · rintro ⟨-, hlast, hint⟩
    refine ⟨fun l hl => ?_, hint⟩
    simpa [hl] using hlast
  · rintro ⟨hlast, hint⟩
    have hget : (lastFinal after).getD final = final := by
      cases h : lastFinal after with
      | none => rfl
      | some l => exact hlast l h
    simp [hget, hint]

/-- `NO CARRIER` lands between `OK` and the wake-up. -/
theorem response_replaced_by_late_no_carrier :
    let call := Call.plain (ascii "AT+CHUP") true
    let lines := [ascii "OK", ascii "NO CARRIER"]
    ¬ ∃ err, (resume (processLines (AtChannel.loaded.atOpen.pend call) lines).1 call).1 =
      .returned err (.response
        ⟨isFinalResponseSuccess (ascii "OK"), some (ascii "OK"), call.intermediates []⟩) := by
  rintro call lines ⟨err, h⟩
  have hlate : (resume (processLines (AtChannel.loaded.atOpen.pend call) lines).1 call).1 =
      .returned 0 (.response ⟨false, some (ascii "NO CARRIER"), []⟩) := by decide
  rw [hlate] at h
  have hne : some (ascii "NO CARRIER") ≠ some (ascii "OK") := by decide
  simp only [Progress.returned.injEq, OutParam.response.injEq, ATResponse.mk.injEq] at h
  exact hne h.2.2.1

theorem response_fixed_by_first_final_csq :
    let call := Call.singleline (ascii "AT+CSQ") (ascii "+CSQ:") true
    let before := [ascii "+CREG:1", ascii "+CSQ:13,99"]
    ∃ err, (resume (processLines (AtChannel.loaded.atOpen.pend call)
        (before ++ ascii "OK" :: [ascii "+CSQ:14,99"])).1 call).1 =
      .returned err (.response
        ⟨isFinalResponseSuccess (ascii "OK"), some (ascii "OK"), call.intermediates before⟩) := by
  intro call before
  exact (response_fixed_by_first_final_iff _ call rfl before [ascii "+CSQ:14,99"] (ascii "OK")
    (by decide) (by decide)).mpr ⟨by decide, by decide⟩

def NeedsIntermediate (full wrapped : Progress) : Prop :=
  (∀ r, wrapped = .returned 0 (.response r) → r.success = true → r.intermediates ≠ []) ∧
    ∀ r, full = .returned 0 (.response r) → r.success = true → r.intermediates = [] →
      wrapped = .returned atErrorInvalidResponse .null

theorem requireIntermediate_needs (p : Progress) : NeedsIntermediate p p.requireIntermediate := by
  constructor
  · intro r h hs he
    unfold Progress.requireIntermediate at h
    split at h
    · split at h
      · simp at h
      · next hc =>
        simp only [Progress.returned.injEq, OutParam.response.injEq] at h
        rcases h with ⟨rfl, rfl⟩
        simp [hs, he] at hc
    · next hne => exact hne 0 r h
  · rintro r rfl hs he
    simp [Progress.requireIntermediate, hs, he]

end Fw100.Channel
