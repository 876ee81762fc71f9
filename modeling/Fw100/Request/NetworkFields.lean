import Fw100.Request.Fields
import Fw100.Request.Network

/-!
# The codes of the network

`getNetworkInfo` reads three tokens and tests the result of the first two calls only. A line
with two fields, which is the form of the unsolicited `+VMCCMNC:`, goes on with a token that was
never set.
-/
namespace Fw100.Request
open Library Text Channel Session

variable {env : Environment} {s : RequestState}

def vmccmncTokens (line : CString) : List CString :=
  match tokStart line with
  | none => []
  | some cur => firstTokens 3 cur

/-- The lookup of the second and third of three fields. -/
def lookupTokens (p : Pointer) : List CString → RilM (Option NetworkInfo)
  | [_, mcc, mnc] => searchOperator p (mcc ++ mnc)
  | _ => networkError p none

/-- What the function is for: the lookup of the codes of the captured line. -/
def networkInfoOf (line : CString) : RilM (Option NetworkInfo) := do
  let (p, _) ← queryLine isNonzero (ascii "AT+VMCCMNC?") (ascii "+VMCCMNC:") none
  lookupTokens p (vmccmncTokens line)

/-- The run is the one that the tokens of the line determine; without three of them it returns
an error and leaves the carrier and the status file alone. -/
def UsesProducedTokens (env : Environment) (s : RequestState) (line : CString) : Prop :=
  getNetworkInfo env s = networkInfoOf line env s ∧
    ((vmccmncTokens line).length < 3 →
      (getNetworkInfo env s).value = .ok none ∧ (getNetworkInfo env s).state.ctx = s.ctx ∧
        ∀ lines, Event.wroteStatus lines ∉ (getNetworkInfo env s).events)

/-- Three fields of which the first is a number and the others fit the array, or too few of them
and not two with a number in front. -/
def TokensTested (line : CString) : Prop :=
  match vmccmncTokens line with
  | [first, mcc, mnc] => (parseNumber 10 first).isSome ∧ (mcc ++ mnc).length < 32
  | [first, _] => parseNumber 10 first = none
  | _ => True

/-! ### The two continuations of the query -/

def Event.isReleased : Event → Bool
  | .released _ => true
  | _ => false

theorem emits_networkError (p p2 : Pointer) :
    Traced.Emits env (fun e => e.isReleased = true) (networkError p p2) := by
  have hfree : ∀ p : Pointer, Traced.Emits env (fun e => e.isReleased = true) (atResponseFree p) := by
    intro p
    cases p with
    | none => exact .pure
    | some held => exact .emit rfl
  exact .bind (hfree p) (fun _ => .bind (hfree p2) (fun _ => .pure))

theorem ends_networkError (p p2 : Pointer) :
    Traced.Ends env s (networkError p p2) (fun found s' es =>
      found = none ∧ s' = s ∧ ∀ lines, Event.wroteStatus lines ∉ es) := by
  simp [networkError]

theorem ends_networkDone (p p2 : Pointer) (info : NetworkInfo) :
    Traced.Ends env s (networkDone p p2 info) (fun _ _ es => ∃ e ∈ es, e.isReleased = false) := by
  simp only [networkDone, Traced.ends_bind, ends_modifyCtx, ends_atResponseFree, ends_getCtx,
    Traced.ends_emit, Traced.ends_pure]
  refine ⟨.wroteStatus (rilWriteStatus { s.ctx with carrier := .copy 16 info.shortName }), ?_, rfl⟩
  simp

/-- A search sends a command or writes the status. -/
theorem ends_searchOperator (p : Pointer) (mccmnc : CString) :
    Traced.Ends env s (searchOperator p mccmnc) (fun _ _ es => ∃ e ∈ es, e.isReleased = false) := by
  unfold searchOperator
  split
  · exact ends_networkDone p none _
  · rw [ends_query_bind testsZero_isNonzero]
    have hcommand : (commandEvent (Call.singleline (ascii "AT$QCMIPGETP=0") [] true)).isReleased = false :=
      rfl
    dsimp only
    split
    · exact (ends_networkError p _).mono (fun _ _ _ _ => ⟨_, .head _, hcommand⟩)
    · exact (ends_networkDone p _ _).mono (fun _ _ _ _ => ⟨_, .head _, hcommand⟩)

theorem searchOperator_ne_networkError (p p2 : Pointer) (mccmnc : CString) :
    searchOperator p mccmnc env s ≠ networkError p p2 env s := by
  intro heq
  have hsearch : Traced.Ends env s (searchOperator p mccmnc) _ := ends_searchOperator p mccmnc
  obtain ⟨_, -, e, he, hloud⟩ := hsearch
  rw [heq] at he
  exact Bool.false_ne_true (hloud.symm.trans (emits_networkError p p2 s e he))

def printAndSearch (p : Pointer) (mccmnc : CString) : RilM (Option NetworkInfo) := do
  storeString .mccmnc 32 mccmnc
  searchOperator p mccmnc

theorem printAndSearch_of_lt {mccmnc : CString} (h : mccmnc.length < 32) (p : Pointer) :
    printAndSearch p mccmnc env s = searchOperator p mccmnc env s := by
  rw [printAndSearch, storeString, if_pos h]
  rfl

theorem printAndSearch_of_not_lt {mccmnc : CString} (h : ¬ mccmnc.length < 32) (p : Pointer) :
    (printAndSearch p mccmnc env s).events =
      .overrun .mccmnc :: (searchOperator p mccmnc env s).events := by
  rw [printAndSearch, storeString, if_neg h]
  rfl

theorem printAndSearch_eq_iff (p : Pointer) (mccmnc : CString) :
    printAndSearch p mccmnc env s = searchOperator p mccmnc env s ↔ mccmnc.length < 32 := by
  constructor
  · intro heq
    by_contra hlong
    have hevents : (printAndSearch p mccmnc env s).events = _ := printAndSearch_of_not_lt hlong p
    rw [heq] at hevents
    simpa using congrArg List.length hevents
  · exact fun h => printAndSearch_of_lt h p

theorem printAndSearch_ne_networkError (p p2 : Pointer) (mccmnc : CString) :
    printAndSearch p mccmnc env s ≠ networkError p p2 env s := by
  by_cases hfits : mccmnc.length < 32
  · rw [printAndSearch_of_lt hfits]
    exact searchOperator_ne_networkError p p2 mccmnc
  · intro heq
    have hevents : (printAndSearch p mccmnc env s).events = _ := printAndSearch_of_not_lt hfits p
    rw [heq] at hevents
    have hemits : Traced.Emits env _ (networkError p p2) := emits_networkError p p2
    cases hemits s (.overrun .mccmnc) (hevents ▸ .head _)

/-! ### The tokens of a captured line -/

/-- What `getNetworkInfo` does with the codes that it has read. -/
def lookupCodes (env : Environment) (p : Pointer) : Option (CString × Cursor) → RilM (Option NetworkInfo)
  | none => networkError p none
  | some (mcc, cur) =>
    match mncText env cur with
    | none => Traced.fault .wildPointer
    | some mnc => printAndSearch p (mcc ++ mnc)

def vmccmncPointer (env : Environment) (s : RequestState) : Pointer :=
  Pointer.store none s.sent
    (checked (.singleline (ascii "AT+VMCCMNC?") (ascii "+VMCCMNC:") true) (env.replies s.sent)).2

theorem getNetworkInfo_eq_iff {line : CString}
    (hline : replyLine (ascii "AT+VMCCMNC?") (ascii "+VMCCMNC:") (env.replies s.sent) = some line) :
    getNetworkInfo env s = networkInfoOf line env s ↔
      lookupCodes env (vmccmncPointer env s) (vmccmncFields line) env { s with sent := s.sent + 1 } =
        lookupTokens (vmccmncPointer env s) (vmccmncTokens line) env { s with sent := s.sent + 1 } := by
  have hquery := queryLine_eq env testsZero_isNonzero (ascii "AT+VMCCMNC?") (ascii "+VMCCMNC:") none s
  dsimp only at hquery
  rw [hline] at hquery
  apply (Traced.bind_eq_bind_iff hquery).trans
  cases hfields : vmccmncFields line with
  | none => simp only [Option.bind_some, hfields, lookupCodes, vmccmncPointer]
  | some codes =>
    simp only [Option.bind_some, hfields, lookupCodes, vmccmncPointer]
    rfl

theorem lookupCodes_without_mnc_ne (p : Pointer) (mcc : CString) :
    lookupCodes env p (some (mcc, none)) env s ≠ networkError p none env s := by
  have htoken : mncText env none = env.mnctoken := rfl
  simp only [lookupCodes, htoken]
  cases env.mnctoken with
  | none =>
    intro heq
    have herror : Traced.Ends env s (networkError p none) _ := ends_networkError p none
    obtain ⟨_, hvalue, -⟩ := herror
    rw [← heq] at hvalue
    cases hvalue
  | some mnc => exact printAndSearch_ne_networkError p none (mcc ++ mnc)

/-- The calls that are tested fail on a first field that is no number or on a missing second. -/
theorem vmccmncFields_eq {line rest first : CString} {cur : Cursor}
    (h : tokStart line = some (some rest)) (hfirst : nextTok (some rest) = (some first, cur)) :
    vmccmncFields line = if (parseNumber 10 first).isSome then tokStr cur else none := by
  simp only [vmccmncFields, h, tokInt_some hfirst, Option.bind_eq_bind, Option.bind_some]
  cases parseNumber 10 first <;> rfl

theorem getNetworkInfo_tested_iff {line : CString}
    (hline : replyLine (ascii "AT+VMCCMNC?") (ascii "+VMCCMNC:") (env.replies s.sent) = some line) :
    getNetworkInfo env s = networkInfoOf line env s ↔ TokensTested line := by
  have hcolon : ascii "+VMCCMNC:" = ascii "+VMCCMNC" ++ [58] := rfl
  obtain ⟨rest, hrest⟩ : ∃ rest, tokStart line = some (some rest) :=
    tokStart_of_replyLine (hcolon ▸ hline)
  obtain ⟨first, cur, hfirst⟩ := nextTok_some rest
  have htokens : vmccmncTokens line = first :: firstTokens 2 cur := by
    simp only [vmccmncTokens, hrest, firstTokens_succ hfirst]
  rw [getNetworkInfo_eq_iff hline, TokensTested, vmccmncFields_eq hrest hfirst, htokens]
  cases cur with
  | none => simp [firstTokens_none, tokStr_none, lookupCodes, lookupTokens]
  | some second =>
    obtain ⟨mcc, cur, hmcc⟩ := nextTok_some second
    rw [firstTokens_succ hmcc, tokStr_some hmcc]
    cases hnumber : parseNumber 10 first with
    | none =>
      simp only [Option.isSome_none, Bool.false_eq_true, if_false]
      cases cur with
      | none => exact iff_of_true rfl hnumber
      | some third =>
        obtain ⟨mnc, cur, hmnc⟩ := nextTok_some third
        rw [firstTokens_succ hmnc, firstTokens_zero]
        refine iff_of_false (fun heq => ?_) (by simp [hnumber])
        exact searchOperator_ne_networkError _ none (mcc ++ mnc) heq.symm
    | some n =>
      simp only [Option.isSome_some, if_true]
      cases cur with
      | none =>
        refine iff_of_false (fun heq => ?_) (by simp [firstTokens_none, hnumber])
        exact lookupCodes_without_mnc_ne _ mcc heq
      | some third =>
        obtain ⟨mnc, cur, hmnc⟩ := nextTok_some third
        have hmncText : mncText env (some third) = some mnc := by
          simp only [mncText, tokStr_some hmnc]
        rw [firstTokens_succ hmnc, firstTokens_zero]
        simp only [lookupCodes, lookupTokens, hmncText, printAndSearch_eq_iff, hnumber,
          Option.isSome_some, true_and]

/-- Without three fields nothing is changed. -/
theorem ends_networkInfoOf_short {line : CString} (h : (vmccmncTokens line).length < 3) :
    Traced.Ends env s (networkInfoOf line) (fun found s' es =>
      found = none ∧ s'.ctx = s.ctx ∧ ∀ lines, Event.wroteStatus lines ∉ es) := by
  have herror : ∀ p, lookupTokens p (vmccmncTokens line) = networkError p none := by
    intro p
    unfold lookupTokens
    split
    · next heq =>
      rw [heq] at h
      exact absurd h (by simp)
    · rfl
  rw [networkInfoOf, ends_query_bind testsZero_isNonzero]
  simp only [herror]
  apply (ends_networkError _ none).mono
  rintro found s' es ⟨hnone, rfl, hquiet⟩
  refine ⟨hnone, rfl, fun lines hmem => ?_⟩
  rcases List.mem_append.mp hmem with hmem | hmem
  · generalize (checked _ _).2 = out at hmem
    cases out <;> simp [commandEvent, Call.singleline, obtainedEvent] at hmem
  · exact hquiet lines hmem

/-- On every captured line: the function uses only tokens that the tokenizer produced exactly if
each call that fails on the line is one of those that are tested, and the codes fit the array. -/
theorem network_tokens_produced_iff (env : Environment) (s : RequestState) (line : CString)
    (hline : replyLine (ascii "AT+VMCCMNC?") (ascii "+VMCCMNC:") (env.replies s.sent) = some line) :
    UsesProducedTokens env s line ↔ TokensTested line := by
  rw [UsesProducedTokens, getNetworkInfo_tested_iff hline]
  apply and_iff_left_of_imp
  intro htested hshort
  rw [(getNetworkInfo_tested_iff hline).mpr htested]
  have hends : Traced.Ends env s (networkInfoOf line) _ := ends_networkInfoOf_short hshort
  obtain ⟨_, hvalue, rfl, hctx, hquiet⟩ := hends
  exact ⟨hvalue, hctx, hquiet⟩

/-- The line of the logs, with nothing readable behind the unset pointer. -/
theorem network_tokens_unset :
    let env : Environment := { Environment.terse with
      replies := fun _ => .answered [ascii "+VMCCMNC:310,00", ascii "OK"] (by decide) }
    let s : RequestState := ⟨initSessionContext none 0, 0⟩
    replyLine (ascii "AT+VMCCMNC?") (ascii "+VMCCMNC:") (env.replies s.sent) =
        some (ascii "+VMCCMNC:310,00") ∧
      ¬ UsesProducedTokens env s (ascii "+VMCCMNC:310,00") := by
  refine ⟨by decide, ?_⟩
  rintro ⟨-, hshort⟩
  exact absurd (hshort (by decide)).1 (by decide)

theorem network_tokens_produced_verizon :
    let env : Environment := { Environment.terse with
      replies := fun _ => .answered [ascii "+VMCCMNC:1,310,004", ascii "OK"] (by decide) }
    UsesProducedTokens env ⟨initSessionContext none 0, 0⟩ (ascii "+VMCCMNC:1,310,004") := by
  intro env
  have htested : TokensTested (ascii "+VMCCMNC:1,310,004") := by
    change (parseNumber 10 (ascii "1")).isSome = true ∧ (ascii "310" ++ ascii "004").length < 32
    decide
  exact (network_tokens_produced_iff env _ _ (by decide)).mpr htested

end Fw100.Request
