import Fw100.Request.Calls

/-!
# The list of current calls as it is reported

What each `+CLCC:` line says by itself, and when the list that
`requestGetCurrentCallsEVDO` reports says the same. A rejected line leaves its slot filled in for
the next line, and the index that is patched is always the one of the first slot.
-/
namespace Fw100.Request
open Library Text Channel Session

variable {env : Environment}

structure ClccHead where
  index : ℤ
  isMT : Bool
  state : CallState
  isMpty : Bool
  rest : Cursor

def clccHead (line : CString) : Option ClccHead := do
  let cur ← tokStart line
  let (index, cur) ← tokInt cur
  let (isMT, cur) ← tokBool cur
  let (code, cur) ← tokInt cur
  let state ← clccStateToRILState code
  let (mode, cur) ← tokInt cur
  if mode ≠ 0 then none
  else
    let (isMpty, rest) ← tokBool cur
    pure ⟨index, isMT, state, isMpty, rest⟩

/-- The number that is kept and its type, which may be missing. -/
def clccNumber (cur : Cursor) : Option (Option CString × Option ℤ) :=
  if atTokHasmore cur then
    (tokStr cur).map (fun token => (keepNumber token.1, (tokInt token.2).map Prod.fst))
  else none

/-- The number field of a line that has one, whether or not the line is accepted. -/
def numberField (line : CString) : Option (Option CString) :=
  (clccHead line).bind (fun head => (clccNumber head.rest).map Prod.fst)

def acceptedCall (line : CString) : Option RilCall :=
  match callFromCLCCLine line .cleared with
  | (true, call) => some call
  | (false, _) => none

/-- The accepted lines in order, numbered from one. -/
def listedCalls (lines : List CString) : List RilCall :=
  (lines.filterMap acceptedCall).mapIdx (fun k call => { call with index := k + 1 })

section Line

theorem Token.ok_of_neg {α : Type} {tok : Text.Token α} (h : tok.err < 0) : tok.ok = none := by
  rw [Text.Token.ok, if_pos h]

theorem Token.ok_of_zero {α : Type} {tok : Text.Token α} {a : α} (h : tok.err = 0)
    (hout : tok.out = some a) : tok.ok = some (a, tok.cur) := by
  rw [Text.Token.ok, if_neg (by omega), hout, Option.map_some]

/-- An integer is stored with success, or an error is reported and at most a zero is stored. -/
theorem atTokNextint_cases (cur : Cursor) :
    ((atTokNextint cur).err < 0 ∧ ((atTokNextint cur).out = none ∨ (atTokNextint cur).out = some 0)) ∨
      ∃ n, (atTokNextint cur).err = 0 ∧ (atTokNextint cur).out = some n := by
  cases cur with
  | none => exact .inl ⟨by decide, .inl rfl⟩
  | some s =>
    rcases nextTok_some s with ⟨tok, cur, htok⟩
    simp only [atTokNextint, atTokNextintBase, htok]
    cases parseNumber 10 tok with
    | none => exact .inl ⟨neg_one_lt_zero, .inr rfl⟩
    | some number => exact .inr ⟨_, rfl, rfl⟩

theorem atTokNextbool_cases (cur : Cursor) :
    (atTokNextbool cur).err < 0 ∨
      ∃ b, (atTokNextbool cur).err = 0 ∧ (atTokNextbool cur).out = some b := by
  rcases atTokNextint_cases cur with ⟨herr, -⟩ | ⟨n, herr, hout⟩
  · simp [atTokNextbool, herr]
  · by_cases h0 : n = 0
    · exact .inr ⟨false, by simp [atTokNextbool, herr, hout, h0]⟩
    · by_cases h1 : n = 1
      · exact .inr ⟨true, by simp [atTokNextbool, herr, hout, h1]⟩
      · exact .inl (by simp [atTokNextbool, herr, hout, h0, h1])

/-- The slot with the fields of the line in front of the number. -/
def ClccHead.fill (head : ClccHead) (call : RilCall) : RilCall :=
  { call with
    index := head.index
    isMT := head.isMT
    state := head.state
    isVoice := true
    isMpty := head.isMpty }

/-- Either the line fails in front of the number and leaves the number and its type alone, or
the number decides. -/
theorem callFromCLCCLine_cases (line : CString) (call : RilCall) :
    (clccHead line = none ∧ (callFromCLCCLine line call).1 = false ∧
      (callFromCLCCLine line call).2.number = call.number ∧
      (callFromCLCCLine line call).2.toa = call.toa) ∨
    ∃ head, clccHead line = some head ∧
      callFromCLCCLine line call = callNumber (head.fill call) head.rest := by
  unfold callFromCLCCLine clccHead
  cases tokStart line with
  | none => simp
  | some cur =>
    simp only [tokInt, tokBool, Option.bind_eq_bind, Option.bind_some]
    rcases atTokNextint_cases cur with ⟨herr, -⟩ | ⟨index, herr, hout⟩
    · simp [Token.ok_of_neg herr, herr]
    simp only [Token.ok_of_zero herr hout, herr, hout, lt_irrefl, if_false, Option.bind_some,
      Option.getD_some]
    rcases atTokNextbool_cases (atTokNextint cur).cur with hmt | ⟨isMT, hmt, hmtout⟩
    · simp [Token.ok_of_neg hmt, hmt]
    simp only [Token.ok_of_zero hmt hmtout, hmt, hmtout, lt_irrefl, if_false, Option.bind_some,
      Option.getD_some]
    cases hcode : (atTokNextint (atTokNextbool (atTokNextint cur).cur).cur).ok with
    | none => simp
    | some code =>
      simp only [Option.bind_some]
      cases hstate : clccStateToRILState code.1 with
      | none => simp
      | some state =>
        simp only [Option.bind_some]
        cases hmode : (atTokNextint code.2).ok with
        | none => simp
        | some mode =>
          simp only [Option.bind_some]
          by_cases hvoice : mode.1 = 0
          · rcases atTokNextbool_cases mode.2 with hmpty | ⟨isMpty, hmpty, hmptyout⟩
            · simp [hvoice, Token.ok_of_neg hmpty, hmpty]
            · simp [hvoice, Token.ok_of_zero hmpty hmptyout, hmpty, hmptyout, ClccHead.fill]
          · simp [hvoice]

/-- What the end of a line makes of a call. -/
theorem callNumber_eq (call : RilCall) (cur : Cursor) :
    match clccNumber cur with
    | none => callNumber call cur = (true, call)
    | some (number, some toa) => callNumber call cur = (true, { call with number := number, toa := toa })
    | some (number, none) => ∃ toa, (toa = 0 ∨ toa = call.toa) ∧
        callNumber call cur = (false, { call with number := number, toa := toa }) := by
  unfold clccNumber callNumber
  by_cases hmore : atTokHasmore cur = true
  · obtain ⟨s, rfl⟩ : ∃ s, cur = some s := by
      cases cur with
      | none => simp [atTokHasmore] at hmore
      | some s => exact ⟨s, rfl⟩
    rcases nextTok_some s with ⟨tok, next, htok⟩
    have hstr : atTokNextstr (some s) = ⟨0, some (some tok), next⟩ := by
      simp [atTokNextstr, htok]
    have htokStr : tokStr (some s) = some (tok, next) := by
      simp [tokStr, hstr, Text.Token.ok]
    rw [if_pos hmore, if_pos hmore, htokStr, hstr]
    rcases atTokNextint_cases next with ⟨herr, hout⟩ | ⟨toa, herr, hout⟩
    · rcases hout with hout | hout
      · simp [tokInt, Token.ok_of_neg herr, herr, hout]
      · simp [tokInt, Token.ok_of_neg herr, herr, hout]
    · simp [tokInt, Token.ok_of_zero herr hout, herr, hout]
  · simp [hmore]

/-- Whether a line is accepted does not depend on what its slot holds. -/
theorem callFromCLCCLine_accepts (line : CString) (call : RilCall) :
    (callFromCLCCLine line call).1 = (acceptedCall line).isSome := by
  have hcleared : (acceptedCall line).isSome = (callFromCLCCLine line .cleared).1 := by
    unfold acceptedCall
    split <;> simp_all
  rw [hcleared]
  rcases callFromCLCCLine_cases line call with ⟨hnone, hfail, -⟩ | ⟨head, hhead, hcall⟩
  · rcases callFromCLCCLine_cases line .cleared with ⟨-, hfail', -⟩ | ⟨_, hhead, -⟩
    · rw [hfail, hfail']
    · rw [hnone] at hhead
      cases hhead
  · rcases callFromCLCCLine_cases line .cleared with ⟨hnone, -⟩ | ⟨head', hhead', hcall'⟩
    · rw [hnone] at hhead
      cases hhead
    · obtain rfl : head = head' := by simpa [hhead] using hhead'
      rw [hcall, hcall']
      have hnumber := callNumber_eq (head.fill call) head.rest
      have hnumber' := callNumber_eq (head.fill .cleared) head.rest
      revert hnumber hnumber'
      split
      · intro hnumber hnumber'
        rw [hnumber, hnumber']
      · intro hnumber hnumber'
        rw [hnumber, hnumber']
      · rintro ⟨_, -, hnumber⟩ ⟨_, -, hnumber'⟩
        rw [hnumber, hnumber']

/-- A rejected line leaves its number behind, and no type of address. -/
theorem callFromCLCCLine_rejected {line : CString} (h : acceptedCall line = none)
    {slot : RilCall} (htoa : slot.toa = 0) :
    ∃ slot', callFromCLCCLine line slot = (false, slot') ∧ slot'.toa = 0 ∧
      slot'.number = (numberField line).getD slot.number := by
  have hfail : (callFromCLCCLine line slot).1 = false := by
    rw [callFromCLCCLine_accepts, h, Option.isSome_none]
  refine ⟨_, Prod.ext hfail rfl, ?_⟩
  rcases callFromCLCCLine_cases line slot with ⟨hnone, -, hnumber, htoa'⟩ | ⟨head, hhead, hcall⟩
  · simp [numberField, hnone, hnumber, htoa', htoa]
  · have hnumber := callNumber_eq (head.fill slot) head.rest
    rw [hcall] at hfail ⊢
    simp only [numberField, hhead, Option.bind_some]
    revert hnumber
    split
    · intro hnumber
      rw [hnumber] at hfail
      cases hfail
    · intro hnumber
      rw [hnumber] at hfail
      cases hfail
    · next hfield =>
      rintro ⟨toa, hzero, hnumber⟩
      rw [hnumber, hfield]
      refine ⟨?_, rfl⟩
      rcases hzero with rfl | rfl
      · rfl
      · exact htoa

/-- An accepted line says everything about its call, except a number that it does not have. -/
theorem callFromCLCCLine_accepted {line : CString} {call : RilCall}
    (h : acceptedCall line = some call) {slot : RilCall} (htoa : slot.toa = 0) :
    callFromCLCCLine line slot =
      (true, { call with number := (numberField line).getD slot.number }) := by
  have hok : (callFromCLCCLine line slot).1 = true := by
    rw [callFromCLCCLine_accepts, h, Option.isSome_some]
  have hown : callFromCLCCLine line .cleared = (true, call) := by
    unfold acceptedCall at h
    split at h <;> simp_all
  rcases callFromCLCCLine_cases line slot with ⟨-, hfail, -⟩ | ⟨head, hhead, hcall⟩
  · rw [hfail] at hok
    cases hok
  rcases callFromCLCCLine_cases line .cleared with ⟨hnone, -⟩ | ⟨head', hhead', hcall'⟩
  · rw [hnone] at hhead
    cases hhead
  obtain rfl : head = head' := by simpa [hhead] using hhead'
  have hnumber := callNumber_eq (head.fill slot) head.rest
  have hnumber' := callNumber_eq (head.fill .cleared) head.rest
  rw [hcall] at hok ⊢
  rw [hown] at hcall'
  simp only [numberField, hhead, Option.bind_some]
  revert hnumber hnumber'
  split
  · next hfield =>
    intro hnumber hnumber'
    obtain rfl : call = head.fill .cleared := by simpa [hnumber'] using hcall'
    rw [hnumber, hfield]
    simp [ClccHead.fill, htoa, RilCall.cleared]
  · next hfield =>
    intro hnumber hnumber'
    obtain rfl := (Prod.ext_iff.mp (hcall'.trans hnumber')).2
    rw [hnumber, hfield]
    rfl
  · rintro ⟨_, -, hnumber⟩ -
    rw [hnumber] at hok
    cases hok

end Line

section Loop

/-- The number that rejected lines leave in the slot they share. -/
def staleNumber (rejected : List CString) : Option CString :=
  rejected.foldl (fun number line => (numberField line).getD number) none

/-- At most one line is accepted, and it has a number field of its own or the rejected lines in
front of it leave no number. -/
def CallsClean (lines : List CString) : Prop :=
  match lines.dropWhile (fun line => (acceptedCall line).isNone) with
  | [] => True
  | line :: rest =>
    (∀ l ∈ rest, acceptedCall l = none) ∧
      ((numberField line).isSome = true ∨
        staleNumber (lines.takeWhile (fun line => (acceptedCall line).isNone)) = none)

/-- Rejected lines write into the first slot as long as no line is accepted. -/
theorem collectCalls_rejected {rejected : List CString}
    (h : ∀ line ∈ rejected, acceptedCall line = none) (lines : List CString) {slot : RilCall}
    (htoa : slot.toa = 0) (calls : List RilCall) :
    ∃ slot', collectCalls (rejected ++ lines) (slot :: calls) 0 =
        collectCalls lines (slot' :: calls) 0 ∧ slot'.toa = 0 ∧
      slot'.number = rejected.foldl (fun number line => (numberField line).getD number)
        slot.number := by
  induction rejected generalizing slot with
  | nil => exact ⟨slot, rfl, htoa, rfl⟩
  | cons line rejected ih =>
    rcases callFromCLCCLine_rejected (h line (by simp)) htoa with ⟨next, hnext, hzero, hnumber⟩
    rcases ih (fun l hl => h l (by simp [hl])) hzero with ⟨slot', hcollect, hzero', hnumber'⟩
    refine ⟨slot', ?_, hzero', ?_⟩
    · simpa [collectCalls, hnext] using hcollect
    · rw [hnumber', hnumber, List.foldl_cons]

/-- Behind the first call the loop counts the accepted lines and keeps patching the first index. -/
theorem collectCalls_behind (lines : List CString) (first : RilCall) (calls : List RilCall) {n : ℕ}
    (hn : 1 ≤ n) :
    (collectCalls lines (first :: calls) n).2 = n + (lines.filterMap acceptedCall).length ∧
      ∃ calls', calls'.length = calls.length ∧ (collectCalls lines (first :: calls) n).1 =
        { first with
          index := if lines.filterMap acceptedCall = [] then first.index
            else n + (lines.filterMap acceptedCall).length } :: calls' := by
  induction lines generalizing first calls n with
  | nil => exact ⟨rfl, calls, rfl, rfl⟩
  | cons line lines ih =>
    have haccepts := callFromCLCCLine_accepts line ((first :: calls).getD n .cleared)
    rcases Nat.exists_eq_add_of_le' hn with ⟨k, rfl⟩
    rcases hcall : callFromCLCCLine line ((first :: calls).getD (k + 1) .cleared) with ⟨ok, call⟩
    rw [hcall] at haccepts
    cases ok with
    | false =>
      have hnone : acceptedCall line = none := by simpa using haccepts.symm
      rcases ih first (calls.set k call) hn with ⟨hcount, calls', hlen, heq⟩
      rw [collectCalls, hcall, List.filterMap_cons_none hnone]
      exact ⟨hcount, calls', by simpa using hlen, heq⟩
    | true =>
      obtain ⟨own, hown⟩ := Option.isSome_iff_exists.mp haccepts.symm
      rcases ih { first with index := (k + 1 : ℕ) + 1 } (calls.set k call) (n := k + 1 + 1) (by omega)
        with ⟨hcount, calls', hlen, heq⟩
      rw [collectCalls, hcall, List.filterMap_cons_some hown]
      refine ⟨?_, calls', by simpa using hlen, ?_⟩
      · exact hcount.trans (by simp; omega)
      · refine heq.trans ?_
        by_cases hnil : lines.filterMap acceptedCall = []
        · simp [hnil]
        · simp [hnil]
          omega

/-- The first accepted line fills in the first slot over what the rejected lines left there. -/
theorem collectCalls_first {rejected : List CString}
    (h : ∀ line ∈ rejected, acceptedCall line = none) {line : CString} {call : RilCall}
    (hcall : acceptedCall line = some call) (rest : List CString) (calls : List RilCall) :
    collectCalls (rejected ++ line :: rest) (.cleared :: calls) 0 =
      collectCalls rest ({ call with
        index := 1
        number := (numberField line).getD (staleNumber rejected) } :: calls) 1 := by
  rcases collectCalls_rejected h (line :: rest) (show RilCall.cleared.toa = 0 from rfl) calls with
    ⟨slot, hcollect, htoa, hnumber⟩
  rw [hcollect, collectCalls, List.getD_cons_zero, callFromCLCCLine_accepted hcall htoa, hnumber]
  rfl

/-- A number field of its own is the number of an accepted line. -/
theorem acceptedCall_number {line : CString} {call : RilCall} (h : acceptedCall line = some call) :
    (numberField line).getD none = call.number := by
  have hown := callFromCLCCLine_accepted h (show RilCall.cleared.toa = 0 from rfl)
  unfold acceptedCall at h
  rw [hown] at h
  simpa [RilCall.cleared] using congrArg (Option.map RilCall.number) h

theorem reportedCalls_rejected {rejected : List CString}
    (h : ∀ line ∈ rejected, acceptedCall line = none) : reportedCalls rejected = [] := by
  cases rejected with
  | nil => rfl
  | cons line rejected =>
    rcases collectCalls_rejected h [] (show RilCall.cleared.toa = 0 from rfl)
      (List.replicate rejected.length .cleared) with ⟨slot, hcollect, -⟩
    rw [List.append_nil] at hcollect
    rw [reportedCalls, List.length_cons, List.replicate_succ, hcollect]
    rfl

/-- What is reported from the first accepted line on. The index of the first call is the number
of all calls. -/
theorem reportedCalls_first {rejected : List CString}
    (h : ∀ line ∈ rejected, acceptedCall line = none) {line : CString} {call : RilCall}
    (hcall : acceptedCall line = some call) (rest : List CString) :
    ∃ calls' : List RilCall, reportedCalls (rejected ++ line :: rest) =
      { call with
        index := if rest.filterMap acceptedCall = [] then 1
          else (1 : ℕ) + (rest.filterMap acceptedCall).length
        number := (numberField line).getD (staleNumber rejected) } ::
      calls'.take (rest.filterMap acceptedCall).length := by
  obtain ⟨hcount, calls', -, hcalls⟩ := collectCalls_behind rest
    { call with
      index := 1
      number := (numberField line).getD (staleNumber rejected) }
    (List.replicate (rejected.length + rest.length) .cleared) le_rfl
  have hlength : (rejected ++ line :: rest).length = rejected.length + rest.length + 1 := by
    simp [Nat.add_assoc]
  refine ⟨calls', ?_⟩
  rw [reportedCalls, hlength, List.replicate_succ, collectCalls_first h hcall]
  refine (congrArg₂ List.take hcount hcalls).trans ?_
  rw [Nat.add_comm 1, List.take_succ_cons]

theorem listedCalls_first {rejected : List CString}
    (h : ∀ line ∈ rejected, acceptedCall line = none) {line : CString} {call : RilCall}
    (hcall : acceptedCall line = some call) (rest : List CString) :
    listedCalls (rejected ++ line :: rest) = { call with index := 1 } ::
      (rest.filterMap acceptedCall).mapIdx (fun k call => { call with index := (k + 1 : ℕ) + 1 }) := by
  rw [listedCalls, List.filterMap_append, List.filterMap_eq_nil_iff.mpr h,
    List.filterMap_cons_some hcall, List.nil_append, List.mapIdx_cons]
  rfl

/-- The number that is reported is that of the line, or there is none to be left behind. -/
theorem reportedNumber_eq_iff {line : CString} {call : RilCall} (hcall : acceptedCall line = some call)
    (stale : Option CString) :
    (numberField line).getD stale = call.number ↔
      (numberField line).isSome = true ∨ stale = none := by
  have hnumber := acceptedCall_number hcall
  cases hfield : numberField line with
  | none =>
    rw [hfield, Option.getD_none] at hnumber
    simp [← hnumber]
  | some number =>
    rw [hfield, Option.getD_some] at hnumber
    simp [hnumber]

theorem reportedCalls_eq_iff (lines : List CString) :
    reportedCalls lines = listedCalls lines ↔ CallsClean lines := by
  have hsplit := List.takeWhile_append_dropWhile
    (p := fun line => (acceptedCall line).isNone) (l := lines)
  have hrejected : ∀ line ∈ lines.takeWhile (fun line => (acceptedCall line).isNone),
      acceptedCall line = none := fun line hl => by simpa using List.mem_takeWhile_imp hl
  unfold CallsClean
  revert hsplit hrejected
  generalize lines.takeWhile (fun line => (acceptedCall line).isNone) = rejected
  cases hdrop : lines.dropWhile (fun line => (acceptedCall line).isNone) with
  | nil =>
    rintro rfl hrejected
    rw [List.append_nil] at *
    refine iff_of_true ?_ trivial
    rw [reportedCalls_rejected hrejected, listedCalls, List.filterMap_eq_nil_iff.mpr hrejected,
      List.mapIdx_nil]
  | cons line rest =>
    rintro rfl hrejected
    obtain ⟨call, hcall⟩ : ∃ call, acceptedCall line = some call := by
      have hhead := List.head?_dropWhile_not (fun line => (acceptedCall line).isNone)
        (rejected ++ line :: rest)
      rw [hdrop] at hhead
      exact Option.isSome_iff_exists.mp (by simpa using hhead)
    obtain ⟨calls', hreported⟩ := reportedCalls_first hrejected hcall rest
    dsimp only
    rw [hreported, listedCalls_first hrejected hcall, List.cons_eq_cons,
      ← List.filterMap_eq_nil_iff, ← reportedNumber_eq_iff hcall]
    by_cases hrest : rest.filterMap acceptedCall = []
    · simp [hrest]
    · simp only [hrest, if_false, false_and, iff_false, not_and]
      intro hsame
      have hindex := congrArg RilCall.index hsame
      have hpos := List.length_pos_iff.mpr hrest
      simp only at hindex
      omega

def Event.reportedCalls : Event → Option (List RilCall)
  | .complete _ .success (.calls l) => some l
  | _ => none

theorem requestGetCurrentCallsEVDO_reports {s : RequestState} {lines : List CString}
    {hfinal : (lastFinal lines).isSome} (hreply : env.replies s.sent = .answered lines hfinal)
    (hsuccess : ((Call.multiline (ascii "AT+CLCC") (ascii "+CLCC:") true).assemble lines).success = true)
    (t : Token) :
    (requestGetCurrentCallsEVDO t env s).events.filterMap Event.reportedCalls =
      [reportedCalls
        ((Call.multiline (ascii "AT+CLCC") (ascii "+CLCC:") true).assemble lines).intermediates] := by
  set response := (Call.multiline (ascii "AT+CLCC") (ascii "+CLCC:") true).assemble lines with hresponse
  have hsend : atSendCommandMultiline (ascii "AT+CLCC") (ascii "+CLCC:") none env s =
      ⟨.ok (0, some ⟨s.sent, response⟩), { s with sent := s.sent + 1 },
        [.command (ascii "AT+CLCC"), .obtained s.sent]⟩ := by
    simp only [atSendCommandMultiline, send, unchecked, hreply, Reply.result]
    rfl
  have htest : succeeded isNonzero 0 (some ⟨s.sent, response⟩) = pure true := by
    simp [succeeded, isNonzero, hsuccess]
  unfold requestGetCurrentCallsEVDO
  rw [Traced.bind_eq hsend]
  simp only [htest]
  rfl

/-- **The reported calls.** A successful answer is reported as its lines say if and only if at
most one line is accepted and no number of a rejected line is left for it. -/
theorem current_calls_listed_iff (env : Environment) (s : RequestState) (t : Token)
    (lines : List CString) (hfinal : (lastFinal lines).isSome)
    (hreply : env.replies s.sent = .answered lines hfinal)
    (hsuccess : ((Call.multiline (ascii "AT+CLCC") (ascii "+CLCC:") true).assemble lines).success =
      true) :
    let reported :=
      ((Call.multiline (ascii "AT+CLCC") (ascii "+CLCC:") true).assemble lines).intermediates
    (requestGetCurrentCallsEVDO t env s).events.filterMap Event.reportedCalls =
        [listedCalls reported] ↔ CallsClean reported := by
  intro reported
  rw [requestGetCurrentCallsEVDO_reports hreply hsuccess, List.cons_eq_cons]
  simpa using reportedCalls_eq_iff reported

/-- Of two calls the first is reported with the index of the last, and a number without a type
of address comes back in the next call that has none. -/
theorem second_call_patches_first_index :
    let two : Environment := { Environment.terse with
      replies := fun _ => .answered [ascii "+CLCC: 1,0,0,0,0,\"5551\",129",
        ascii "+CLCC: 2,1,4,0,0,\"5552\",129", ascii "OK"] (by decide) }
    let broken : Environment := { Environment.terse with
      replies := fun _ => .answered [ascii "+CLCC: 1,0,0,0,0,\"5551\"", ascii "+CLCC: 1,0,0,0,0",
        ascii "OK"] (by decide) }
    let s : RequestState := ⟨initSessionContext none 0, 0⟩
    ((requestGetCurrentCallsEVDO 7 two s).events.filterMap Event.reportedCalls).map
        (List.map RilCall.index) = [[2, 2]] ∧
      (requestGetCurrentCallsEVDO 7 two s).events.filterMap Event.reportedCalls ≠
        [listedCalls [ascii "+CLCC: 1,0,0,0,0,\"5551\",129",
          ascii "+CLCC: 2,1,4,0,0,\"5552\",129"]] ∧
      ((requestGetCurrentCallsEVDO 7 broken s).events.filterMap Event.reportedCalls).map
        (List.map RilCall.number) = [[some (ascii "5551")]] ∧
      (listedCalls [ascii "+CLCC: 1,0,0,0,0,\"5551\"", ascii "+CLCC: 1,0,0,0,0"]).map
        RilCall.number = [none] := by
  decide +kernel

theorem current_calls_listed_one_call :
    let one : Environment := { Environment.terse with
      replies := fun _ => .answered [ascii "+CLCC: 1,0,0,0,0,\"5551\",129", ascii "OK"] (by decide) }
    (requestGetCurrentCallsEVDO 7 one ⟨initSessionContext none 0, 0⟩).events.filterMap
        Event.reportedCalls =
      [listedCalls [ascii "+CLCC: 1,0,0,0,0,\"5551\",129"]] := by
  intro one
  exact (current_calls_listed_iff one ⟨initSessionContext none 0, 0⟩ 7
    [ascii "+CLCC: 1,0,0,0,0,\"5551\",129", ascii "OK"] (by decide) rfl (by decide +kernel)).mpr
    ⟨by decide +kernel, by decide +kernel⟩

end Loop

end Fw100.Request
