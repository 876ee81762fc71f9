import Fw100.Library.Framing
import Fw100.Library.Machine
import Fw100.Session.Unsolicited

/-!
# GPS sentences on the pseudo-terminal

`rilWriteGPSTty` writes a sentence and its newline with two calls of `write`. The reader
thread and the thread of `mainLoop` share the descriptor and nothing keeps their calls apart.
-/
namespace Fw100.Session
open Library Text

/-- What the calls inside one `rilWriteGPSTty` return. -/
structure TtyOutcome where
  getpt : ℤ
  grantpt : ℤ
  unlockpt : ℤ
  /-- The name that `ptsname_r` stores. -/
  device : CString
  chmod : ℤ
  propertySet : ℤ
  /-- The first of the two `write`s. The result of the second is not looked at. -/
  numw : ℤ
deriving DecidableEq, Repr

inductive TtyCall where
  | getpt
  | grantpt (fd : ℤ)
  | unlockpt (fd : ℤ)
  | ptsname (fd : ℤ)
  | chmod (device : CString)
  | propertySet (device : CString)
  | write (fd : ℤ) (bytes : List UInt8)
  | close (fd : ℤ)
deriving DecidableEq, Repr

structure TtyResult where
  rc : ℤ
  gpsTtyFD : ℤ
  calls : List TtyCall
deriving DecidableEq, Repr

/-- The part behind the one-time open. `none` is `strlen` of a `NULL` pointer. -/
def writeTtySentence (outcome : TtyOutcome) (fd rc : ℤ) (calls : List TtyCall) :
    Option CString → Option TtyResult
  | none => none
  | some gpsinfo =>
    let calls := calls ++ [.write fd gpsinfo, .write fd (ascii "\n")]
    if outcome.numw < 0 then some ⟨-1, 0, calls ++ [.close fd]⟩ else some ⟨rc, fd, calls⟩

def rilWriteGPSTty (outcome : TtyOutcome) (gpsTtyFD : ℤ) (gpsinfo : Option CString)
    (options : Bool) : Option TtyResult :=
  let mfd := outcome.getpt
  if 0 < gpsTtyFD then writeTtySentence outcome gpsTtyFD 0 [] gpsinfo
  else if mfd = -1 then some ⟨0, gpsTtyFD, [.getpt]⟩
  else if outcome.grantpt = -1 then some ⟨-1, gpsTtyFD, [.getpt, .grantpt mfd]⟩
  else if outcome.unlockpt = -1 then
    some ⟨-1, gpsTtyFD, [.getpt, .grantpt mfd, .unlockpt mfd]⟩
  else
    let calls := [.getpt, .grantpt mfd, .unlockpt mfd, .ptsname mfd, .chmod outcome.device,
      .propertySet outcome.device]
    if options then some ⟨outcome.propertySet, mfd, calls⟩
    else writeTtySentence outcome mfd outcome.propertySet calls gpsinfo

/-- On an open descriptor a call is two `write`s. -/
theorem rilWriteGPSTty_open {outcome : TtyOutcome} {fd : ℤ} (hopen : 0 < fd)
    (hwrite : 0 ≤ outcome.numw) (gpsinfo : CString) (options : Bool) :
    rilWriteGPSTty outcome fd (some gpsinfo) options =
      some ⟨0, fd, [.write fd gpsinfo, .write fd [10]]⟩ := by
  have hnl : ascii "\n" = [10] := by decide
  simp [rilWriteGPSTty, hopen, writeTtySentence, Int.not_lt.mpr hwrite, hnl]

def gpsTestGpgll : CString := ascii "$GPGLL,3307.055350,N,11718.467958,W,234014.000,A,A*45"

def gpsTestGpgsa : CString := ascii "$GPGSA,A,3,22,03,19,09,,,,,,,,,2.55,2.37,0.94*09"

/-- What is passed to `rilWriteGPSTty`: a line of the reader thread that starts with `$GP`,
or the test sentence. -/
structure Sentence where
  text : CString
  gps : strStartsWith text (ascii "$GP") = true
  line : ∀ b ∈ text, isNewline b = false
deriving DecidableEq, Repr

theorem Sentence.text_ne_nil (s : Sentence) : s.text ≠ [] := by
  intro hnil
  have hgps := s.gps
  rw [hnil] at hgps
  exact absurd hgps (by decide)

theorem gpsTestGpgsa_line : ∀ b ∈ gpsTestGpgsa, isNewline b = false := by
  have hall : gpsTestGpgsa.all (fun b => !isNewline b) = true := by decide
  intro b hb
  simpa using List.all_eq_true.mp hall b hb

def testSentence : Sentence := ⟨gpsTestGpgsa, by decide, gpsTestGpgsa_line⟩

/-- The handler of unsolicited lines passes such a line on as it is. -/
theorem onUnsolicited_gps (s : Sentence) {ctx : SessionCtx} (hstate : ctx.sState ≠ .unavailable)
    (hfifo : ctx.gpsFifoEnable = false) (htty : ctx.gpsTtyEnable = true) :
    onUnsolicited ctx s.text none = .ok (ctx, [.writeGPSTty s.text]) := by
  rcases (strStartsWith_iff _ _).mp s.gps with ⟨rest, hrest⟩
  have hother : ∀ b pre, b ≠ 36 → strStartsWith s.text (b :: pre) = false := by
    intro b pre hb
    rw [← hrest]
    simp [strStartsWith, ascii, Ne.symm hb]
  have hgps : strStartsWith s.text [36, 71, 80] = true := by simpa [ascii] using s.gps
  simp [onUnsolicited, ascii, hother, hstate, hfifo, htty, hgps]

inductive GpsThread where
  | reader
  | mainLoop
deriving DecidableEq, Repr

inductive Pending where
  | idle
  | sentence (s : Sentence)
  | newline
deriving DecidableEq, Repr

abbrev TtyState := GpsThread → Pending

inductive GpsEvent where
  /-- `onUnsolicited` is called with the sentence. -/
  | unsolicited (s : Sentence)
  /-- `fw100ModemTimer` comes to its test sentence. -/
  | modemTimer
  /-- The thread's next `write` is made. -/
  | write (t : GpsThread)
deriving DecidableEq, Repr

inductive GpsOutput where
  | nothing
  | passed (s : Sentence)
  | wrote (bytes : Option CString)
deriving DecidableEq, Repr

/-- A thread that is still writing takes up no other sentence. -/
def passSentence (state : TtyState) (t : GpsThread) (s : Sentence) : TtyState × GpsOutput :=
  if state t = .idle then (Function.update state t (.sentence s), .passed s)
  else (state, .nothing)

def gpsStep (state : TtyState) : GpsEvent → TtyState × GpsOutput
  | .unsolicited s => passSentence state .reader s
  | .modemTimer => passSentence state .mainLoop testSentence
  | .write t =>
    match state t with
    | .idle => (state, .nothing)
    | .sentence s => (Function.update state t .newline, .wrote (some s.text))
    | .newline => (Function.update state t .idle, .wrote none)

/-! ### What is left of the sentences -/

def GpsOutput.sentence : GpsOutput → Option CString
  | .passed s => some s.text
  | _ => none

def GpsOutput.bytes : GpsOutput → Option (Option CString)
  | .wrote bytes => some bytes
  | _ => none

def passed (outputs : List GpsOutput) : List CString := outputs.filterMap GpsOutput.sentence

def writes (outputs : List GpsOutput) : List (Option CString) := outputs.filterMap GpsOutput.bytes

/-- The byte stream splits at the newlines into the sentences that were passed. -/
def Intact (outputs : List GpsOutput) : Prop :=
  ∃ lines, (written 10 (writes outputs)).splitOnP (· == 10) = lines ++ [[]] ∧
    lines.Perm (passed outputs)

/-- A sentence is begun only when no newline is outstanding. -/
def BeginsAlone (state : TtyState) : GpsEvent → Prop
  | .write t => ∀ s, state t = .sentence s → ∀ u, state u ≠ .newline
  | _ => True

def quiescent : TtyState := fun _ => .idle

/-- The number of newlines that are outstanding. -/
def outstanding (state : TtyState) : ℕ :=
  (if state .reader = .newline then 1 else 0) + (if state .mainLoop = .newline then 1 else 0)

def Pending.unwritten : Pending → List CString
  | .sentence s => [s.text]
  | _ => []

def unwritten (state : TtyState) : List CString :=
  (state .reader).unwritten ++ (state .mainLoop).unwritten

section Outputs
variable (s : Sentence) (bytes : Option CString) (outputs : List GpsOutput)

@[simp] theorem passed_nothing : passed (.nothing :: outputs) = passed outputs := rfl

@[simp] theorem passed_passed : passed (.passed s :: outputs) = s.text :: passed outputs := rfl

@[simp] theorem passed_wrote : passed (.wrote bytes :: outputs) = passed outputs := rfl

@[simp] theorem writes_nothing : writes (.nothing :: outputs) = writes outputs := rfl

@[simp] theorem writes_passed : writes (.passed s :: outputs) = writes outputs := rfl

@[simp] theorem writes_wrote : writes (.wrote bytes :: outputs) = bytes :: writes outputs := rfl

@[simp] theorem unwritten_idle : Pending.idle.unwritten = [] := rfl

@[simp] theorem unwritten_sentence : (Pending.sentence s).unwritten = [s.text] := rfl

@[simp] theorem unwritten_newline : Pending.newline.unwritten = [] := rfl

end Outputs

section Steps
variable (state : TtyState) (e : GpsEvent) (outputs : List GpsOutput)

theorem outstanding_step {d : ℕ}
    (h : (bodies (writes outputs)).length + outstanding (gpsStep state e).1 =
      separators (writes outputs) + d) :
    (bodies (writes ((gpsStep state e).2 :: outputs))).length + outstanding state =
      separators (writes ((gpsStep state e).2 :: outputs)) + d := by
  cases e with
  | unsolicited s =>
    simp only [gpsStep, passSentence] at h ⊢
    split <;> simp_all [outstanding]
  | modemTimer =>
    simp only [gpsStep, passSentence] at h ⊢
    split <;> simp_all [outstanding]
  | write t =>
    cases t <;> simp only [gpsStep] at h ⊢ <;> split <;> simp_all [outstanding] <;> omega

theorem unwritten_step (h : (unwritten (gpsStep state e).1 ++ passed outputs).Perm
      (bodies (writes outputs))) :
    (unwritten state ++ passed ((gpsStep state e).2 :: outputs)).Perm
      (bodies (writes ((gpsStep state e).2 :: outputs))) := by
  cases e with
  | unsolicited s =>
    simp only [gpsStep, passSentence] at h ⊢
    split
    · next hidle =>
      simp only [hidle, if_true, unwritten, Function.update_self] at h ⊢
      refine .trans ?_ h
      simp
    · next hbusy => simpa [hbusy] using h
  | modemTimer =>
    simp only [gpsStep, passSentence] at h ⊢
    split
    · next hidle => simpa [hidle, unwritten] using h
    · next hbusy => simpa [hbusy] using h
  | write t =>
    cases t with
    | reader =>
      cases hp : state .reader with
      | idle => simpa [gpsStep, hp] using h
      | sentence s => simpa [gpsStep, hp, unwritten] using h
      | newline => simpa [gpsStep, hp, unwritten] using h
    | mainLoop =>
      cases hp : state .mainLoop with
      | idle => simpa [gpsStep, hp] using h
      | sentence s =>
        simp only [gpsStep, hp, unwritten, Function.update_self, unwritten_newline] at h
        simp only [gpsStep, hp, unwritten, unwritten_sentence, passed_wrote, writes_wrote,
          bodies_cons_some]
        refine .trans ?_ (.cons s.text h)
        simp
      | newline => simpa [gpsStep, hp, unwritten] using h

end Steps

section Runs
variable {state : TtyState} {es : List GpsEvent}

theorem outstanding_run (state : TtyState) (es : List GpsEvent) :
    (bodies (writes (run gpsStep state es).2)).length + outstanding state =
      separators (writes (run gpsStep state es).2) + outstanding (run gpsStep state es).1 := by
  induction es generalizing state with
  | nil => rfl
  | cons e es ih => exact outstanding_step state e _ (ih _)

/-- At the end every sentence that was passed has been written once. -/
theorem unwritten_run (hdone : (run gpsStep state es).1 = quiescent) :
    (unwritten state ++ passed (run gpsStep state es).2).Perm
      (bodies (writes (run gpsStep state es).2)) := by
  induction es generalizing state with
  | nil =>
    obtain rfl : state = quiescent := hdone
    exact .refl _
  | cons e es ih => exact unwritten_step state e _ (ih hdone)

theorem passed_sentence {outputs : List GpsOutput} {text : CString} (h : text ∈ passed outputs) :
    ∃ s : Sentence, s.text = text := by
  rcases List.mem_filterMap.mp h with ⟨output, -, htext⟩
  cases output with
  | passed s => exact ⟨s, Option.some.inj htext⟩
  | nothing => cases htext
  | wrote bytes => cases htext

theorem outstanding_eq_zero_iff : outstanding state = 0 ↔ ∀ u, state u ≠ .newline := by
  constructor
  · intro h u
    cases u <;> intro hu <;> simp [outstanding, hu] at h
  · intro h
    simp [outstanding, h]

theorem outstanding_pass (state : TtyState) (t : GpsThread) (s : Sentence) :
    outstanding (passSentence state t s).1 = outstanding state := by
  unfold passSentence
  split
  · next hidle => cases t <;> simp [outstanding, hidle]
  · rfl

theorem writes_pass (t : GpsThread) (s : Sentence) (outputs : List GpsOutput) :
    writes ((passSentence state t s).2 :: outputs) = writes outputs := by
  unfold passSentence
  split <;> rfl

theorem outstanding_begin {t : GpsThread} {s : Sentence} (ht : state t = .sentence s) :
    outstanding (Function.update state t .newline) = outstanding state + 1 := by
  cases t <;> (simp [outstanding, ht]; try omega)

theorem outstanding_finish {t : GpsThread} (ht : state t = .newline) :
    outstanding (Function.update state t .idle) + 1 = outstanding state := by
  cases t <;> (simp [outstanding, ht]; try omega)

/-- Sentences are begun alone exactly if bodies and newlines alternate. -/
theorem beginsAlone_iff_alternates (hdone : (run gpsStep state es).1 = quiescent)
    (hone : outstanding state ≤ 1) :
    Along gpsStep BeginsAlone state es ↔
      Alternates (decide (outstanding state = 1)) (writes (run gpsStep state es).2) := by
  induction es generalizing state with
  | nil =>
    obtain rfl : state = quiescent := hdone
    exact Iff.rfl
  | cons e es ih =>
    rw [run_cons] at hdone ⊢
    cases e with
    | unsolicited s =>
      have hcount := outstanding_pass state .reader s
      have hrest := ih hdone (hcount.trans_le hone)
      simpa [Along, BeginsAlone, gpsStep, writes_pass, hcount] using hrest
    | modemTimer =>
      have hcount := outstanding_pass state .mainLoop testSentence
      have hrest := ih hdone (hcount.trans_le hone)
      simpa [Along, BeginsAlone, gpsStep, writes_pass, hcount] using hrest
    | write t =>
      cases ht : state t with
      | idle =>
        have hsame : gpsStep state (.write t) = (state, .nothing) := by simp [gpsStep, ht]
        rw [hsame] at hdone
        simpa [Along, BeginsAlone, hsame, ht] using ih hdone hone
      | sentence s =>
        have hbegin : gpsStep state (.write t) =
            (Function.update state t .newline, .wrote (some s.text)) := by simp [gpsStep, ht]
        have hcount := outstanding_begin ht
        rw [hbegin] at hdone
        dsimp only at hdone
        have halone : BeginsAlone state (.write t) ↔ outstanding state = 0 := by
          rw [outstanding_eq_zero_iff]
          exact ⟨fun h => h s ht, fun h _ _ => h⟩
        by_cases h0 : outstanding state = 0
        · have hrest := ih hdone (by omega)
          simpa [Along, halone, hbegin, h0, hcount, Alternates] using hrest
        · have h1 : outstanding state = 1 := by omega
          simp [Along, halone, hbegin, h1, Alternates]
      | newline =>
        have hfinish : gpsStep state (.write t) =
            (Function.update state t .idle, .wrote none) := by simp [gpsStep, ht]
        have hcount := outstanding_finish ht
        rw [hfinish] at hdone
        dsimp only at hdone
        have hrest := ih hdone (by omega)
        have h1 : outstanding state = 1 := by omega
        have h0 : outstanding (Function.update state t .idle) = 0 := by omega
        simpa [Along, BeginsAlone, hfinish, ht, h0, h1, Alternates] using hrest

end Runs

/-- For every sequence of calls on the two threads and every order of their `write`s, all made:
the stream splits into the sentences exactly if no sentence is begun between the two
`write`s of another. -/
theorem gps_stream_intact_iff (es : List GpsEvent)
    (hdone : (run gpsStep quiescent es).1 = quiescent) :
    Intact (run gpsStep quiescent es).2 ↔ Along gpsStep BeginsAlone quiescent es := by
  have hperm : (passed (run gpsStep quiescent es).2).Perm
      (bodies (writes (run gpsStep quiescent es).2)) := unwritten_run hdone
  have hcount : separators (writes (run gpsStep quiescent es).2) =
      (bodies (writes (run gpsStep quiescent es).2)).length := by
    have h := outstanding_run quiescent es
    rw [hdone] at h
    omega
  have hsentence : ∀ text ∈ bodies (writes (run gpsStep quiescent es).2),
      ∃ s : Sentence, s.text = text := fun text h => passed_sentence (hperm.mem_iff.mpr h)
  have hclean : ∀ text ∈ bodies (writes (run gpsStep quiescent es).2),
      ∀ a ∈ text, (a == 10) = false := by
    intro text htext a ha
    rcases hsentence text htext with ⟨s, rfl⟩
    have hline : a ≠ 13 ∧ a ≠ 10 := by simpa [isNewline] using s.line a ha
    simpa using hline.2
  have hbodies : ∀ text ∈ bodies (writes (run gpsStep quiescent es).2), text ≠ [] := by
    intro text htext
    rcases hsentence text htext with ⟨s, rfl⟩
    exact s.text_ne_nil
  have hframes := splits_into_bodies_iff (· == (10 : UInt8)) (beq_self_eq_true 10) hclean hbodies hcount
  rw [beginsAlone_iff_alternates hdone (by decide)]
  refine Iff.trans ?_ hframes
  constructor
  · rintro ⟨lines, hsplit, hlines⟩
    exact ⟨lines, hsplit, hlines.trans hperm⟩
  · rintro ⟨lines, hsplit, hlines⟩
    exact ⟨lines, hsplit, hlines.trans hperm.symm⟩

theorem sentence_line : ∀ b ∈ ascii "$GPGGA", isNewline b = false := by
  have hall : (ascii "$GPGGA").all (fun b => !isNewline b) = true := by decide
  intro b hb
  simpa using List.all_eq_true.mp hall b hb

/-- One write after the other. -/
theorem gps_stream_intact_in_turn :
    Intact (run gpsStep quiescent
      [.unsolicited ⟨ascii "$GPGGA", by decide, sentence_line⟩, .modemTimer, .write .reader,
        .write .reader, .write .mainLoop, .write .mainLoop]).2 := by
  rw [gps_stream_intact_iff _ (by funext t; cases t <;> rfl)]
  simp only [Along, BeginsAlone, gpsStep, passSentence, quiescent, if_true, true_and, and_true]
  refine ⟨?_, ?_, ?_, ?_⟩
  · intro sentence _ u hu
    cases u <;> cases hu
  · intro sentence h
    cases h
  · intro sentence _ u hu
    cases u <;> cases hu
  · intro sentence h
    cases h

/-- The timer's sentence is begun before the newline of the modem's sentence is written: the
stream holds both in one line, and an empty line. -/
theorem gps_sentences_merged :
    let outputs := (run gpsStep quiescent
      [.unsolicited ⟨ascii "$GPGGA", by decide, sentence_line⟩, .modemTimer, .write .reader,
        .write .mainLoop, .write .reader, .write .mainLoop]).2
    (written 10 (writes outputs)).splitOnP (· == 10) =
        [ascii "$GPGGA" ++ gpsTestGpgsa, [], []] ∧ ¬ Intact outputs := by
  intro outputs
  have hsplit : (written 10 (writes outputs)).splitOnP (· == 10) =
      [ascii "$GPGGA" ++ gpsTestGpgsa, [], []] := by decide
  refine ⟨hsplit, ?_⟩
  rintro ⟨lines, hlines, hperm⟩
  rw [hsplit] at hlines
  have happend : [ascii "$GPGGA" ++ gpsTestGpgsa, []] ++ [[]] = lines ++ [[]] := hlines
  obtain rfl := List.append_cancel_right happend
  have hempty : [] ∈ passed outputs := hperm.mem_iff.mp (by simp)
  exact absurd hempty (by decide)

end Fw100.Session
