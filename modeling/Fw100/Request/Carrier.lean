import Fw100.Request.Network

/-!
# Which line names the carrier

The second query of `getNetworkInfo` has an empty response prefix, so the first line that is no
final response is taken for its answer, whatever it is.
-/
namespace Fw100.Request
open Library Text Channel Session

variable {env : Environment} {s : RequestState}

/-- The first query yields codes that the table does not have. -/
def Unlisted (env : Environment) (n : ℕ) : Prop :=
  ∃ mcc cur mnc, vmccmncReply env n = some (mcc, cur) ∧ mncText env cur = some mnc ∧
    operatorInfo.find? (fun entry => entry.1 == mcc ++ mnc) = none

/-- Without a match in the table the line of the second query decides. -/
theorem ends_getNetworkInfo (h : Unlisted env s.sent) {line : CString}
    (hline : replyLine (ascii "AT$QCMIPGETP=0") [] (env.replies (s.sent + 1)) = some line) :
    Traced.Ends env s getNetworkInfo (fun found s' _ =>
      found = some (carrierOf line) ∧
        s'.ctx.carrier = .copy 16 (carrierOf line).shortName) := by
  rcases h with ⟨mcc, cur, mnc, hreply, hmnc, hfind⟩
  unfold getNetworkInfo
  rw [ends_query_bind testsZero_isNonzero]
  dsimp only
  rw [← vmccmncReply, hreply]
  simp only [Traced.ends_bind, Traced.ends_environment, hmnc, ends_storeString]
  unfold searchOperator
  simp only [hfind]
  rw [ends_query_bind testsZero_isNonzero]
  dsimp only
  rw [hline]
  simp [networkDone]

/-- A line that the reader thread hands to `processLine` and that ends no command. -/
def PlainLine (line : CString) : Prop :=
  isFinalResponse line = false ∧ isSMSUnsolicited line = false

theorem lastFinal_ok (lines : List CString) (line : CString) :
    lastFinal (lines ++ [line, ascii "OK"]) = some (ascii "OK") := by
  rw [List.append_cons]
  exact lastFinal_concat_of_final (by decide) (lines ++ [line])

/-- The answer to a query with an empty prefix is the first line there is. -/
theorem replyLine_empty_prefix (command : CString) {lines : List CString} {line : CString}
    (hlines : ∀ l ∈ lines, PlainLine l) (hline : PlainLine line)
    (hfinal : (lastFinal (lines ++ [line, ascii "OK"])).isSome) :
    replyLine command [] (.answered (lines ++ [line, ascii "OK"]) hfinal) =
      some (lines.headD line) := by
  have hsuccess : isFinalResponseSuccess (ascii "OK") = true := by decide
  have hplain : ∀ l ∈ lines ++ [line], isFinalResponse l = false := by
    simp only [List.mem_append, List.mem_singleton]
    rintro l (hl | rfl)
    · exact (hlines l hl).1
    · exact hline.1
  have hnonFinal : nonFinal (lines ++ [line, ascii "OK"]) = lines ++ [line] := by
    rw [List.append_cons, nonFinal_concat_of_final (by decide)]
    exact nonFinal_of_forall hplain
  have hwants : (Call.singleline command [] true).wants = fun _ => true := by
    funext l
    cases l <;> rfl
  have hfirst (ls : List CString) :
      (Call.singleline command [] true).intermediates ls = ls.head?.toList := by
    change (ls.find? (Call.singleline command [] true).wants).toList = ls.head?.toList
    rw [hwants]
    cases ls <;> rfl
  simp only [replyLine, Call.assemble, lastFinal_ok, hnonFinal, Option.any_some, hsuccess, if_true,
    hfirst]
  cases lines <;> rfl

/-- The modem answers command number `n` with these lines, its data line and `OK`. -/
def Environment.answering (env : Environment) (n : ℕ) (lines : List CString) (data : CString) :
    Environment :=
  { env with
    replies := Function.update env.replies n
      (.answered (lines ++ [data, ascii "OK"]) (by rw [lastFinal_ok, Option.isSome_some])) }

theorem Unlisted.answering {n : ℕ} (h : Unlisted env n) (lines : List CString) (data : CString) :
    Unlisted (env.answering (n + 1) lines data) n := by
  have hsame : (env.answering (n + 1) lines data).replies n = env.replies n :=
    Function.update_of_ne (by omega) _ _
  rcases h with ⟨mcc, cur, mnc, hreply, hmnc, hfind⟩
  exact ⟨mcc, cur, mnc, by rw [vmccmncReply, hsame]; exact hreply, hmnc, hfind⟩

/-- **Lines in front of the data line.** The operator and the stored carrier are those of the
data line alone if and only if the first line of the answer names the same carrier. -/
theorem operator_ignores_inserted_iff (env : Environment) (s : RequestState)
    (inserted : List CString) (data : CString) (hinserted : ∀ l ∈ inserted, PlainLine l)
    (hdata : PlainLine data) (hunlisted : Unlisted env s.sent) :
    let found := getNetworkInfo (env.answering (s.sent + 1) inserted data) s
    let expected := getNetworkInfo (env.answering (s.sent + 1) [] data) s
    (found.value = expected.value ∧ found.state.ctx.carrier = expected.state.ctx.carrier) ↔
      carrierOf (inserted.headD data) = carrierOf data := by
  intro found expected
  have hrun : ∀ lines : List CString, (∀ l ∈ lines, PlainLine l) →
      let run := getNetworkInfo (env.answering (s.sent + 1) lines data) s
      run.value = .ok (some (carrierOf (lines.headD data))) ∧
        run.state.ctx.carrier = .copy 16 (carrierOf (lines.headD data)).shortName := by
    intro lines hlines run
    have hline := replyLine_empty_prefix (ascii "AT$QCMIPGETP=0") hlines hdata
      (by rw [lastFinal_ok, Option.isSome_some])
    have hreply := Function.update_self (s.sent + 1)
      (Reply.answered (lines ++ [data, ascii "OK"]) (by rw [lastFinal_ok, Option.isSome_some]))
      env.replies
    rw [← hreply] at hline
    rcases ends_getNetworkInfo (hunlisted.answering lines data) hline with ⟨info, hvalue, rfl, hcarrier⟩
    exact ⟨hvalue, hcarrier⟩
  rcases hrun inserted hinserted with ⟨hvalue, hcarrier⟩
  rcases hrun [] (by simp) with ⟨hvalue', hcarrier'⟩
  constructor
  · rintro ⟨hsame, -⟩
    have hboth := (hvalue.symm.trans hsame).trans hvalue'
    simpa using hboth
  · intro hsame
    exact ⟨by rw [hvalue, hvalue', hsame, List.headD_nil],
      by rw [hcarrier, hcarrier', hsame, List.headD_nil]⟩

/-- The answer to the first query of a modem in a network that the table does not have. -/
def Environment.roaming : Environment :=
  { Environment.terse with
    replies := fun _ => .answered [ascii "+VMCCMNC:1,310,120", ascii "OK"] (by decide) }

/-- A signal strength report that comes before the answer makes the operator unknown. -/
theorem inserted_line_taken_for_carrier :
    let s : RequestState := ⟨initSessionContext none 0, 0⟩
    let alone := getNetworkInfo (Environment.roaming.answering 1 [] (ascii "user@sprintpcs.com")) s
    let late := getNetworkInfo
      (Environment.roaming.answering 1 [ascii "+CSQ:20,99"] (ascii "user@sprintpcs.com")) s
    alone.value.toOption.join.map NetworkInfo.shortName = some (ascii "SPCS") ∧
      late.value.toOption.join.map NetworkInfo.shortName = some (ascii "UNK") ∧
      alone.state.ctx.carrier ≠ late.state.ctx.carrier := by
  decide +kernel

theorem operator_ignores_inserted_none :
    let s : RequestState := ⟨initSessionContext none 0, 0⟩
    let late := getNetworkInfo
      (Environment.roaming.answering 1 [ascii "AT$QCMIPGETP=0 sprint"] (ascii "user@sprintpcs.com")) s
    late.value = (getNetworkInfo
      (Environment.roaming.answering 1 [] (ascii "user@sprintpcs.com")) s).value := by
  intro s late
  exact ((operator_ignores_inserted_iff Environment.roaming s [ascii "AT$QCMIPGETP=0 sprint"]
    (ascii "user@sprintpcs.com")
    (by simp only [List.mem_singleton, forall_eq]; exact ⟨by decide, by decide⟩)
    ⟨by decide, by decide⟩
    ⟨ascii "310", some (ascii "120"), ascii "120", by decide +kernel, by decide +kernel,
      by decide +kernel⟩).mpr (by decide +kernel)).1

end Fw100.Request
