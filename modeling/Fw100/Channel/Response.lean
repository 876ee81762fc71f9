import Fw100.Library.Machine
import Fw100.Text.CString

/-!
# Routing of the lines read from the modem

The globals that describe the pending command and `processLine`, which either
collects a line for that command or hands it to the unsolicited handler.
-/
namespace Fw100.Channel
open Library Text

inductive ATCommandType where
  | noResult
  | numeric
  | singleline
  | multiline
deriving DecidableEq, Repr

/-- `ATResponse`, with the list of intermediate lines as it is linked. -/
structure ATResponse where
  success : Bool
  finalResponse : Option CString
  intermediates : List CString
deriving DecidableEq, Repr

def atResponseNew : ATResponse := ⟨false, none, []⟩

/-- The file-level statics of the channel that `s_commandmutex` protects, and
whether `s_fd` is a descriptor. -/
structure AtChannel where
  fdOpen : Bool
  readerClosed : Bool
  type : ATCommandType
  responsePrefix : Option CString
  smsPDU : Option CString
  response : Option ATResponse
deriving DecidableEq, Repr

/-- What the channel does to the outside while it handles a line. `nullPrefix`
stands for `strStartsWith` called with a `NULL` prefix. -/
inductive Effect where
  | unsolicited (s : CString) (smsPdu : Option CString)
  | writeCtrlZ (pdu : CString)
  | nullPrefix
deriving DecidableEq, Repr

def startsWithAny (table : List CString) (line : CString) : Bool :=
  table.any (strStartsWith line)

def finalResponsesError : List CString :=
  [ascii "ERROR", ascii "+CMS ERROR:", ascii "+CME ERROR:", ascii "NO CARRIER",
    ascii "NO ANSWER", ascii "NO DIALTONE"]

def isFinalResponseError (line : CString) : Bool := startsWithAny finalResponsesError line

def finalResponsesSuccess : List CString := [ascii "OK", ascii "CONNECT"]

def isFinalResponseSuccess (line : CString) : Bool := startsWithAny finalResponsesSuccess line

def isFinalResponse (line : CString) : Bool :=
  isFinalResponseSuccess line || isFinalResponseError line

def smsUnsoliciteds : List CString := [ascii "+CMT:", ascii "+CDS:", ascii "+CBM:"]

/-- The line is the first of a two-line SMS unsolicited response. -/
def isSMSUnsolicited (line : CString) : Bool := startsWithAny smsUnsoliciteds line

def ATResponse.addIntermediate (r : ATResponse) (line : CString) : ATResponse :=
  { r with intermediates := line :: r.intermediates }

/-- The two branches of `processLine` for final responses, with `handleFinalResponse`. -/
def ATResponse.handleFinalResponse (r : ATResponse) (success : Bool) (line : CString) :
    ATResponse :=
  { r with success := success, finalResponse := some line }

/-- The unsolicited handler is installed by `at_open` before any line is read. -/
def handleUnsolicited (line : CString) : List Effect := [.unsolicited line none]

def smsPromptLine : CString := ascii "> "

def startsWithDigit (line : CString) : Bool := isDigit (line.headD 0)

/-- The `switch (s_type)`: whether the line is an intermediate response, and
`none` where the prefix that is compared is `NULL`. -/
def selects (type : ATCommandType) (responsePrefix : Option CString)
    (collected : List CString) (line : CString) : Option Bool :=
  match type with
  | .noResult => some false
  | .numeric => some (collected.isEmpty && startsWithDigit line)
  | .singleline =>
    if collected.isEmpty then responsePrefix.map (strStartsWith line) else some false
  | .multiline => responsePrefix.map (strStartsWith line)

def processLine (ch : AtChannel) (line : CString) : AtChannel × List Effect :=
  match ch.response with
  | none => (ch, handleUnsolicited line)
  | some r =>
    if isFinalResponseSuccess line then
      ({ ch with response := some (r.handleFinalResponse true line) }, [])
    else if isFinalResponseError line then
      ({ ch with response := some (r.handleFinalResponse false line) }, [])
    else if ch.smsPDU.isSome && line == smsPromptLine then
      ({ ch with smsPDU := none }, ch.smsPDU.toList.map .writeCtrlZ)
    else
      match selects ch.type ch.responsePrefix r.intermediates line with
      | none => (ch, [.nullPrefix])
      | some true => ({ ch with response := some (r.addIntermediate line) }, [])
      | some false => (ch, handleUnsolicited line)

theorem processLine_fdOpen (ch : AtChannel) (line : CString) :
    (processLine ch line).1.fdOpen = ch.fdOpen := by
  unfold processLine
  repeat' split
  all_goals rfl

theorem processLine_readerClosed (ch : AtChannel) (line : CString) :
    (processLine ch line).1.readerClosed = ch.readerClosed := by
  unfold processLine
  repeat' split
  all_goals rfl

def processLines : AtChannel → List CString → AtChannel × List (List Effect) := run processLine

/-- The arguments of one `at_send_command_full`. A command whose lines are told
by a prefix comes with that prefix. -/
structure Call where
  command : CString
  type : ATCommandType
  responsePrefix : Option CString
  smspdu : Option CString
  timed : Bool
  wantsResponse : Bool
  prefix_isSome : type = .singleline ∨ type = .multiline → responsePrefix.isSome

def AtChannel.pend (ch : AtChannel) (call : Call) : AtChannel :=
  { ch with
    type := call.type
    responsePrefix := call.responsePrefix
    smsPDU := call.smspdu
    response := some atResponseNew }

/-! ### What a sequence of lines amounts to -/

/-- How a line that is no final response is consumed. -/
inductive Fate where
  | intermediate
  | prompt
  | unsolicited
deriving DecidableEq, Repr

/-- The one effect that each way of consuming a line has. -/
def AtChannel.consume (ch : AtChannel) (line : CString) : Fate → AtChannel × List Effect
  | .intermediate =>
    ({ ch with response := ch.response.map (fun r => r.addIntermediate line) }, [])
  | .prompt => ({ ch with smsPDU := none }, ch.smsPDU.toList.map .writeCtrlZ)
  | .unsolicited => (ch, handleUnsolicited line)

def nonFinal (lines : List CString) : List CString := lines.filter (fun l => !isFinalResponse l)

def lastFinal (lines : List CString) : Option CString := (lines.filter isFinalResponse).getLast?

namespace Call

def wants (call : Call) (line : CString) : Bool :=
  match call.type with
  | .noResult => false
  | .numeric => startsWithDigit line
  | .singleline => call.responsePrefix.any (strStartsWith line)
  | .multiline => call.responsePrefix.any (strStartsWith line)

/-- After these lines the body of the message has still to be sent. -/
def promptOpen (call : Call) (lines : List CString) : Bool :=
  call.smspdu.isSome && !lines.contains smsPromptLine

/-- The lines left for the command's type: all but the prompt that was served. -/
def routed (call : Call) (lines : List CString) : List CString :=
  if call.smspdu.isSome then lines.erase smsPromptLine else lines

def intermediates (call : Call) (lines : List CString) : List CString :=
  if call.type = .multiline then (call.routed lines).filter call.wants
  else ((call.routed lines).find? call.wants).toList

/-- How a non-final line is consumed after the lines `earlier`. -/
def fate (call : Call) (earlier : List CString) (line : CString) : Fate :=
  if call.promptOpen earlier && line == smsPromptLine then .prompt
  else if call.wants line && (call.type = .multiline || !(call.routed earlier).any call.wants) then
    .intermediate
  else .unsolicited

/-- The response that the lines determine, with its lines in arrival order. -/
def assemble (call : Call) (lines : List CString) : ATResponse where
  success := (lastFinal lines).any isFinalResponseSuccess
  finalResponse := lastFinal lines
  intermediates := call.intermediates (nonFinal lines)

end Call

def AtChannel.after (ch : AtChannel) (call : Call) (lines : List CString) : AtChannel :=
  { ch.pend call with
    smsPDU := if call.promptOpen (nonFinal lines) then call.smspdu else none
    response := some { call.assemble lines with
      intermediates := (call.assemble lines).intermediates.reverse } }

theorem AtChannel.after_nil (ch : AtChannel) (call : Call) : ch.after call [] = ch.pend call := by
  cases h : call.smspdu <;>
    simp [after, pend, atResponseNew, nonFinal, lastFinal, Call.assemble, Call.promptOpen,
      Call.intermediates, Call.routed, h]

theorem nonFinal_concat_of_final {l : CString} (hl : isFinalResponse l = true)
    (lines : List CString) : nonFinal (lines ++ [l]) = nonFinal lines := by
  simp [nonFinal, hl]

theorem nonFinal_concat {l : CString} (hl : isFinalResponse l = false)
    (lines : List CString) : nonFinal (lines ++ [l]) = nonFinal lines ++ [l] := by
  simp [nonFinal, hl]

theorem lastFinal_concat_of_final {l : CString} (hl : isFinalResponse l = true)
    (lines : List CString) : lastFinal (lines ++ [l]) = some l := by
  simp [lastFinal, hl]

theorem lastFinal_concat {l : CString} (hl : isFinalResponse l = false)
    (lines : List CString) : lastFinal (lines ++ [l]) = lastFinal lines := by
  simp [lastFinal, hl]

namespace Call
variable (call : Call)

theorem routed_append (lines late : List CString) :
    call.routed (lines ++ late) =
      call.routed lines ++ if call.promptOpen lines then late.erase smsPromptLine else late := by
  unfold routed promptOpen
  by_cases hs : call.smspdu.isSome = true
  · by_cases hm : smsPromptLine ∈ lines
    · simp [hs, hm, List.erase_append_left]
    · simp [hs, hm, List.erase_append_right, List.erase_of_not_mem]
  · simp [hs]

theorem routed_concat (lines : List CString) (l : CString) :
    call.routed (lines ++ [l]) =
      call.routed lines ++ if call.promptOpen lines && l == smsPromptLine then [] else [l] := by
  rw [routed_append]
  by_cases hl : l = smsPromptLine
  · simp [hl]
  · simp [hl]

theorem promptOpen_concat (lines : List CString) (l : CString) :
    call.promptOpen (lines ++ [l]) = (call.promptOpen lines && l != smsPromptLine) := by
  unfold promptOpen
  by_cases hl : l = smsPromptLine
  · simp [hl]
  · have hl' : smsPromptLine ≠ l := Ne.symm hl
    simp [hl, hl']

/-- A non-final line joins the intermediate lines exactly when that is its fate. -/
theorem intermediates_concat (lines : List CString) (l : CString) :
    call.intermediates (lines ++ [l]) =
      call.intermediates lines ++ if call.fate lines l = .intermediate then [l] else [] := by
  unfold intermediates fate
  rw [routed_concat]
  by_cases hp : (call.promptOpen lines && l == smsPromptLine) = true
  · simp [hp]
  · rw [Bool.not_eq_true] at hp
    by_cases hm : call.type = .multiline
    · by_cases hw : call.wants l = true <;> simp [hp, hm, hw]
    · cases hf : (call.routed lines).find? call.wants with
      | none =>
        have hnone : (call.routed lines).any call.wants = false := by
          simpa [List.find?_eq_none] using hf
        by_cases hw : call.wants l = true <;> simp [hp, hm, hw, hf, hnone, List.find?_append]
      | some x =>
        have hsome : (call.routed lines).any call.wants = true := by
          rw [List.any_eq_true]
          exact ⟨x, List.mem_of_find?_eq_some hf, List.find?_some hf⟩
        simp [hp, hm, hf, hsome, List.find?_append]

theorem intermediates_eq_nil_iff (lines : List CString) :
    call.intermediates lines = [] ↔ (call.routed lines).any call.wants = false := by
  unfold intermediates
  split
  · simp
  · simp [Option.toList_eq_nil_iff, List.find?_eq_none]

/-- The `switch` of `processLine` decides as the fate of the line says. -/
theorem selects_eq (lines : List CString) (l : CString)
    (hp : (call.promptOpen lines && l == smsPromptLine) = false) :
    selects call.type call.responsePrefix (call.intermediates lines).reverse l =
      some (decide (call.fate lines l = .intermediate)) := by
  have hempty : (call.intermediates lines).reverse.isEmpty =
      !(call.routed lines).any call.wants := by
    rw [Bool.eq_iff_iff]
    simp [intermediates_eq_nil_iff]
  cases htype : call.type with
  | noResult => simp [selects, fate, wants, hp, htype]
  | numeric =>
    by_cases hw : call.wants l = true
    · have hd : startsWithDigit l = true := by simpa [wants, htype] using hw
      cases ha : (call.routed lines).any call.wants <;>
        simp [selects, fate, hp, htype, hempty, hd, hw, ha]
    · have hd : startsWithDigit l = false := by simpa [wants, htype] using hw
      simp [selects, fate, hp, htype, hempty, hd, hw]
  | singleline =>
    rcases Option.isSome_iff_exists.mp (call.prefix_isSome (.inl htype)) with ⟨pre, hpre⟩
    by_cases hw : call.wants l = true
    · have hd : strStartsWith l pre = true := by simpa [wants, htype, hpre] using hw
      cases ha : (call.routed lines).any call.wants <;>
        simp [selects, fate, hp, htype, hempty, hd, hw, hpre, ha]
    · have hd : strStartsWith l pre = false := by simpa [wants, htype, hpre] using hw
      cases ha : (call.routed lines).any call.wants <;>
        simp [selects, fate, hp, htype, hempty, hd, hw, hpre, ha]
  | multiline =>
    rcases Option.isSome_iff_exists.mp (call.prefix_isSome (.inr htype)) with ⟨pre, hpre⟩
    by_cases hw : call.wants l = true
    · have hd : strStartsWith l pre = true := by simpa [wants, htype, hpre] using hw
      simp [selects, fate, hp, htype, hd, hw, hpre]
    · have hd : strStartsWith l pre = false := by simpa [wants, htype, hpre] using hw
      simp [selects, fate, hp, htype, hd, hw, hpre]

end Call

/-- A line that reaches the `switch` and is decided there. -/
theorem processLine_select {ch : AtChannel} {r : ATResponse} {l : CString} {b : Bool}
    (hr : ch.response = some r) (hl : isFinalResponse l = false)
    (hskip : (ch.smsPDU.isSome && l == smsPromptLine) = false)
    (hsel : selects ch.type ch.responsePrefix r.intermediates l = some b) :
    processLine ch l =
      if b then ({ ch with response := some (r.addIntermediate l) }, [])
      else (ch, handleUnsolicited l) := by
  have hor : isFinalResponseSuccess l = false ∧ isFinalResponseError l = false := by
    simpa [isFinalResponse] using hl
  cases b <;> simp [processLine, hr, hor, hskip, hsel]

theorem processLine_prompt {ch : AtChannel} {r : ATResponse} {pdu : CString}
    (hr : ch.response = some r) (hp : ch.smsPDU = some pdu) :
    processLine ch smsPromptLine = ({ ch with smsPDU := none }, [.writeCtrlZ pdu]) := by
  have hs : isFinalResponseSuccess smsPromptLine = false := by decide
  have he : isFinalResponseError smsPromptLine = false := by decide
  simp [processLine, hr, hp, hs, he]

theorem processLine_final {ch : AtChannel} {r : ATResponse} {l : CString}
    (hr : ch.response = some r) (hl : isFinalResponse l = true) :
    processLine ch l =
      ({ ch with response := some (r.handleFinalResponse (isFinalResponseSuccess l) l) }, []) := by
  by_cases hs : isFinalResponseSuccess l = true
  · simp [processLine, hr, hs]
  · have he : isFinalResponseError l = true := by simpa [isFinalResponse, hs] using hl
    simp [processLine, hr, hs, he]

theorem Call.fate_eq_prompt_iff (call : Call) (lines : List CString) (l : CString) :
    call.fate lines l = .prompt ↔ (call.promptOpen lines && l == smsPromptLine) = true := by
  unfold Call.fate
  split
  · simp_all
  · split <;> simp_all

/-- Each non-final line is consumed according to its fate. -/
theorem processLine_after_consume (ch : AtChannel) (call : Call) (lines : List CString)
    {l : CString} (hl : isFinalResponse l = false) :
    processLine (ch.after call lines) l =
      (ch.after call lines).consume l (call.fate (nonFinal lines) l) := by
  by_cases hp : call.fate (nonFinal lines) l = .prompt
  · rw [hp]
    obtain ⟨ho, rfl⟩ : call.promptOpen (nonFinal lines) = true ∧ l = smsPromptLine := by
      simpa using (call.fate_eq_prompt_iff _ _).mp hp
    obtain ⟨pdu, hpdu⟩ : ∃ pdu, call.smspdu = some pdu := by
      rw [← Option.isSome_iff_exists]
      simp only [Call.promptOpen, Bool.and_eq_true] at ho
      exact ho.1
    have hsms : (ch.after call lines).smsPDU = some pdu := by simp [AtChannel.after, ho, hpdu]
    rw [processLine_prompt rfl hsms]
    simp [AtChannel.consume, hsms]
  · have hq : (call.promptOpen (nonFinal lines) && l == smsPromptLine) = false := by
      simpa [call.fate_eq_prompt_iff] using hp
    have hskip : ((ch.after call lines).smsPDU.isSome && l == smsPromptLine) = false := by
      cases h : call.promptOpen (nonFinal lines) <;> simp_all [AtChannel.after]
    have hresp : (ch.after call lines).response = some ⟨(call.assemble lines).success,
        lastFinal lines, (call.intermediates (nonFinal lines)).reverse⟩ := rfl
    have hsel := call.selects_eq (nonFinal lines) l hq
    rw [processLine_select hresp hl hskip hsel]
    cases hf : call.fate (nonFinal lines) l with
    | intermediate => simp [AtChannel.consume, hresp]
    | prompt => exact absurd hf hp
    | unsolicited => simp [AtChannel.consume]

theorem consume_after (ch : AtChannel) (call : Call) (lines : List CString) {l : CString}
    (hl : isFinalResponse l = false) :
    ((ch.after call lines).consume l (call.fate (nonFinal lines) l)).1 =
      ch.after call (lines ++ [l]) := by
  have hint := call.intermediates_concat (nonFinal lines) l
  have hopen := call.promptOpen_concat (nonFinal lines) l
  have hp := call.fate_eq_prompt_iff (nonFinal lines) l
  cases hf : call.fate (nonFinal lines) l with
  | prompt =>
    obtain ⟨ho, rfl⟩ : call.promptOpen (nonFinal lines) = true ∧ l = smsPromptLine := by
      simpa using hp.mp hf
    simp [AtChannel.consume, AtChannel.after, Call.assemble, nonFinal_concat hl,
      lastFinal_concat hl, hint, hopen, hf]
  | intermediate =>
    have hsame : (call.promptOpen (nonFinal lines) && l != smsPromptLine) =
        call.promptOpen (nonFinal lines) := by
      cases h : call.promptOpen (nonFinal lines) <;> simp_all
    simp [AtChannel.consume, AtChannel.after, Call.assemble, ATResponse.addIntermediate,
      nonFinal_concat hl, lastFinal_concat hl, hint, hopen, hsame, hf]
  | unsolicited =>
    have hsame : (call.promptOpen (nonFinal lines) && l != smsPromptLine) =
        call.promptOpen (nonFinal lines) := by
      cases h : call.promptOpen (nonFinal lines) <;> simp_all
    simp [AtChannel.consume, AtChannel.after, Call.assemble,
      nonFinal_concat hl, lastFinal_concat hl, hint, hopen, hsame, hf]

theorem processLine_after (ch : AtChannel) (call : Call) (lines : List CString) (l : CString) :
    (processLine (ch.after call lines) l).1 = ch.after call (lines ++ [l]) := by
  by_cases hl : isFinalResponse l = true
  · rw [processLine_final rfl hl]
    simp [AtChannel.after, Call.assemble, ATResponse.handleFinalResponse,
      nonFinal_concat_of_final hl, lastFinal_concat_of_final hl]
  · rw [Bool.not_eq_true] at hl
    rw [processLine_after_consume ch call lines hl, consume_after ch call lines hl]

theorem processLines_after (ch : AtChannel) (call : Call) (earlier lines : List CString) :
    (processLines (ch.after call earlier) lines).1 = ch.after call (earlier ++ lines) := by
  induction lines generalizing earlier with
  | nil => simp [processLines]
  | cons l lines ih =>
    have hstep := processLine_after ch call earlier l
    have hrest := ih (earlier ++ [l])
    simpa [processLines, hstep] using hrest

theorem processLines_pend (ch : AtChannel) (call : Call) (lines : List CString) :
    (processLines (ch.pend call) lines).1 = ch.after call lines := by
  have h := processLines_after ch call [] lines
  rwa [AtChannel.after_nil, List.nil_append] at h

end Fw100.Channel
