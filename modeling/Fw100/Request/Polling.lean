import Fw100.Library.Machine
import Fw100.Request.Timer

/-!
# What the polls report

Each poll compares the line it receives with the one it saved, as far as the new line goes, and
saves the new one before it knows whether the line can be reported. The lines that were reported
are followed beside the saved ones over every sequence of polls.
-/
namespace Fw100.Request
open Library Text Channel Session

/-! ### The saved line -/

section Saved
variable {saved line : CString}

theorem copy_text (hnul : 0 ∉ saved) (hshort : saved.length < 64) :
    (CharArray.copy 64 saved).text = saved := by
  have hpad : List.replicate (64 - saved.length) (0 : UInt8) =
      0 :: List.replicate (63 - saved.length) 0 := by
    rw [← List.replicate_succ]
    congr 1
    omega
  have hcells : strncpy 64 saved = saved ++ 0 :: List.replicate (63 - saved.length) 0 := by
    rw [strncpy, List.take_of_length_le hshort.le, hpad]
  show cstr (strncpy 64 saved) = saved
  rw [hcells]
  exact cstr_append_nul (fun b hb h0 => hnul (h0 ▸ hb)) _

/-- Only the characters of the new line are compared. -/
theorem unchanged_copy_iff (hshort : saved.length < 64) (hnul : 0 ∉ line)
    (hline : line.length < 64) :
    unchanged (.copy 64 saved) line = true ↔ line <+: saved := by
  have hmax : min line.length 64 = line.length := by omega
  have hcells : (CharArray.copy 64 saved).1 = saved ++ List.replicate (64 - saved.length) 0 := by
    show strncpy 64 saved = _
    rw [strncpy, List.take_of_length_le hshort.le]
  simp only [unchanged, hmax, hcells, List.take_length, beq_iff_eq]
  constructor
  · intro heq
    by_cases hlen : line.length ≤ saved.length
    · rw [List.take_append_of_le_length hlen] at heq
      exact heq ▸ List.take_prefix _ _
    · have hmem : (0 : UInt8) ∈ line := by
        rw [← heq, List.take_append]
        apply List.mem_append_right
        rw [List.take_replicate, List.mem_replicate]
        exact ⟨by omega, rfl⟩
      exact absurd hmem hnul
  · rintro ⟨rest, rfl⟩
    simp

end Saved

/-! ### One poll -/

def Event.notification : Event → Option Notification
  | .notify n => some n
  | _ => none

/-- The array that a poll leaves and the notifications that it sends. -/
def polled (poll : CharArray 64 → RilM (CharArray 64)) (saved : CharArray 64) (env : Environment)
    (s : RequestState) : CharArray 64 × List Notification :=
  let r := poll saved env s
  (match r.value with
    | .ok saved' => saved'
    | .error _ => saved,
    r.events.filterMap Event.notification)

theorem polled_of_ends {poll : CharArray 64 → RilM (CharArray 64)} {saved saved' : CharArray 64}
    {env : Environment} {s : RequestState} {sent : List Notification}
    (h : Traced.Ends env s (poll saved)
      (fun a _ es => a = saved' ∧ es.filterMap Event.notification = sent)) :
    polled poll saved env s = (saved', sent) := by
  obtain ⟨a, hvalue, rfl, hsent⟩ := h
  simp only [polled, hvalue, hsent]

/-- What a poll does with the line it received. -/
def afterLine (report : CString → Option Notification) (saved : CharArray 64) (line : CString) :
    CharArray 64 × List Notification :=
  if unchanged saved line then (saved, []) else (.copy 64 line, (report line).toList)

def csqReport (line : CString) : Option Notification :=
  (csqFields line).map (fun fields => .signalStrength [fields.1, fields.2, 0, 0, 0, 0, 0])

def cregReport (_ : CString) : Option Notification := some .networkStateChanged

section Notification

@[simp] theorem notification_notify (n : Notification) : (Event.notify n).notification = some n := rfl

@[simp] theorem notification_released (id : ℕ) : (Event.released id).notification = none := rfl

@[simp] theorem notification_commandEvent (call : Call) : (commandEvent call).notification = none := by
  unfold commandEvent
  split <;> rfl

@[simp] theorem notification_obtainedEvent (id : ℕ) (out : OutParam) :
    (obtainedEvent id out).filterMap Event.notification = [] := filterMap_obtainedEvent rfl out

end Notification

section Poll
variable {env : Environment} {s : RequestState} {line : CString}

theorem polled_pollSignalStrength (saved : CharArray 64)
    (h : replyLine (ascii "AT+CSQ") (ascii "+CSQ:") (env.replies s.sent) = some line) :
    polled pollSignalStrength saved env s = afterLine csqReport saved line := by
  unfold afterLine
  split
  · next hsame =>
    apply polled_of_ends
    rw [pollSignalStrength, ends_query_bind testsZero_isNegative]
    simp [h, hsame]
  · next hchanged =>
    apply polled_of_ends
    rw [pollSignalStrength, ends_query_bind testsZero_isNegative]
    cases hfields : csqFields line with
    | none => simp [h, hchanged, hfields, csqReport]
    | some fields => simp [h, hchanged, hfields, csqReport]

theorem polled_pollNetworkRegistration (saved : CharArray 64)
    (h : replyLine (ascii "AT+CREG?") (ascii "+CREG:") (env.replies s.sent) = some line) :
    polled pollNetworkRegistration saved env s = afterLine cregReport saved line := by
  unfold afterLine
  split
  · next hsame =>
    apply polled_of_ends
    rw [pollNetworkRegistration, ends_query_bind testsZero_isNonzero]
    simp [h, hsame]
  · next hchanged =>
    apply polled_of_ends
    rw [pollNetworkRegistration, ends_query_bind testsZero_isNonzero]
    simp [h, hchanged, cregReport]

end Poll

/-! ### Sequences of polls -/

structure Poll (command responsePrefix : CString) where
  env : Environment
  state : RequestState
  line : CString
  received : replyLine command responsePrefix (env.replies state.sent) = some line
  short : line.length < 64
  nul_free : 0 ∉ line

inductive PollStep where
  | signalStrength (p : Poll (ascii "AT+CSQ") (ascii "+CSQ:"))
  | networkRegistration (p : Poll (ascii "AT+CREG?") (ascii "+CREG:"))

/-- One of the two static arrays, with the line of the last poll that sent a notification. -/
structure Watched where
  saved : CharArray 64
  reported : CString

/-- What the driver keeps and what the framework was told. -/
structure PollHistory where
  csq : Watched
  creg : Watched
  signalStrength : Option (List ℤ)

def Watched.initial : Watched := ⟨.zero 64, []⟩

def PollHistory.initial : PollHistory := ⟨.initial, .initial, none⟩

def Watched.next (w : Watched) (line : CString) (outcome : CharArray 64 × List Notification) :
    Watched :=
  ⟨outcome.1, if outcome.2 = [] then w.reported else line⟩

def lastSignalStrength (values : Option (List ℤ)) (sent : List Notification) : Option (List ℤ) :=
  sent.foldl (fun values n =>
    match n with
    | .signalStrength v => some v
    | _ => values) values

def PollHistory.step (h : PollHistory) : PollStep → PollHistory × List Notification
  | .signalStrength p =>
    let outcome := polled pollSignalStrength h.csq.saved p.env p.state
    ({ h with
      csq := h.csq.next p.line outcome
      signalStrength := lastSignalStrength h.signalStrength outcome.2 }, outcome.2)
  | .networkRegistration p =>
    let outcome := polled pollNetworkRegistration h.creg.saved p.env p.state
    ({ h with
      creg := h.creg.next p.line outcome
      signalStrength := lastSignalStrength h.signalStrength outcome.2 }, outcome.2)

/-- The poll notifies exactly of a line that is not the last reported one, and saves no other. -/
def Watched.Reports (w : Watched) (line : CString) (outcome : CharArray 64 × List Notification) :
    Prop :=
  (outcome.2 ≠ [] ↔ line ≠ w.reported) ∧ (outcome.1 ≠ w.saved → outcome.2 ≠ [])

/-- The poll reports what has changed; the framework then knows the values of the line. -/
def PollHistory.Reports (h : PollHistory) (e : PollStep) : Prop :=
  match e with
  | .signalStrength p =>
    h.csq.Reports p.line ((h.step e).1.csq.saved, (h.step e).2) ∧
      ∀ fields ∈ csqFields p.line,
        (h.step e).1.signalStrength.map (List.take 2) = some [fields.1, fields.2]
  | .networkRegistration p => h.creg.Reports p.line ((h.step e).1.creg.saved, (h.step e).2)

/-- The new line is the saved one, or it differs from the saved one within its own length and,
if its numbers are to be reported, has them. -/
def PollHistory.Tells (h : PollHistory) : PollStep → Prop
  | .signalStrength p =>
    p.line = h.csq.saved.text ∨ ¬ p.line <+: h.csq.saved.text ∧ (csqFields p.line).isSome
  | .networkRegistration p => p.line = h.creg.saved.text ∨ ¬ p.line <+: h.creg.saved.text

/-- The array holds the line that was reported. -/
structure Watched.Synchronised (w : Watched) : Prop where
  saved_eq : w.saved = .copy 64 w.reported
  nul_free : 0 ∉ w.reported
  short : w.reported.length < 64

theorem Watched.synchronised_initial : Watched.initial.Synchronised :=
  ⟨rfl, List.not_mem_nil, by decide⟩

namespace Watched
variable {w : Watched} {line : CString} (report : CString → Option Notification)

theorem Synchronised.text_eq (hw : w.Synchronised) : w.saved.text = w.reported := by
  rw [hw.saved_eq, copy_text hw.nul_free hw.short]

theorem Synchronised.unchanged_iff (hw : w.Synchronised) (hnul : 0 ∉ line)
    (hshort : line.length < 64) : unchanged w.saved line = true ↔ line <+: w.reported := by
  rw [hw.saved_eq, unchanged_copy_iff hw.short hnul hshort]

theorem Synchronised.reports_iff (hw : w.Synchronised) (hnul : 0 ∉ line)
    (hshort : line.length < 64) :
    w.Reports line (afterLine report w.saved line) ↔
      line = w.reported ∨ ¬ line <+: w.reported ∧ (report line).isSome := by
  by_cases hsame : line <+: w.reported
  · have hquiet : afterLine report w.saved line = (w.saved, []) :=
      if_pos ((hw.unchanged_iff hnul hshort).mpr hsame)
    simp [Reports, hquiet, hsame]
  · have hnew : afterLine report w.saved line = (.copy 64 line, (report line).toList) :=
      if_neg (fun h => hsame ((hw.unchanged_iff hnul hshort).mp h))
    have hne : line ≠ w.reported := fun h => hsame (h ▸ List.prefix_rfl)
    cases hreport : report line with
    | none => simp [Reports, hnew, hreport, hne]
    | some n => simp [Reports, hnew, hreport, hne, hsame]

/-- A poll that reports what has changed keeps the array and the reported line together. -/
theorem Synchronised.next (hw : w.Synchronised) (hnul : 0 ∉ line) (hshort : line.length < 64)
    (hreports : w.Reports line (afterLine report w.saved line)) :
    (w.next line (afterLine report w.saved line)).Synchronised := by
  by_cases hsame : line <+: w.reported
  · have hquiet : afterLine report w.saved line = (w.saved, []) :=
      if_pos ((hw.unchanged_iff hnul hshort).mpr hsame)
    rw [hquiet]
    exact hw
  · have hnew : afterLine report w.saved line = (.copy 64 line, (report line).toList) :=
      if_neg (fun h => hsame ((hw.unchanged_iff hnul hshort).mp h))
    have hne : line ≠ w.reported := fun h => hsame (h ▸ List.prefix_rfl)
    have hsent : (afterLine report w.saved line).2 ≠ [] := hreports.1.mpr hne
    rw [hnew] at hsent ⊢
    simp only [Watched.next, if_neg hsent]
    exact ⟨rfl, hnul, hshort⟩

end Watched

/-- Both arrays hold the reported lines, and the framework has the values of the last one. -/
structure PollHistory.Synchronised (h : PollHistory) : Prop where
  csq : h.csq.Synchronised
  creg : h.creg.Synchronised
  values : ∀ fields ∈ csqFields h.csq.reported,
    h.signalStrength.map (List.take 2) = some [fields.1, fields.2]

namespace PollHistory
variable {h : PollHistory}

theorem synchronised_initial : initial.Synchronised :=
  ⟨Watched.synchronised_initial, Watched.synchronised_initial, by decide⟩

theorem step_signalStrength (h : PollHistory) (p : Poll (ascii "AT+CSQ") (ascii "+CSQ:")) :
    h.step (.signalStrength p) =
      let outcome := afterLine csqReport h.csq.saved p.line
      ({ h with
        csq := h.csq.next p.line outcome
        signalStrength := lastSignalStrength h.signalStrength outcome.2 }, outcome.2) := by
  rw [step, polled_pollSignalStrength h.csq.saved p.received]

theorem step_networkRegistration (h : PollHistory)
    (p : Poll (ascii "AT+CREG?") (ascii "+CREG:")) :
    h.step (.networkRegistration p) =
      let outcome := afterLine cregReport h.creg.saved p.line
      ({ h with creg := h.creg.next p.line outcome }, outcome.2) := by
  rw [step, polled_pollNetworkRegistration h.creg.saved p.received]
  simp only [afterLine, cregReport]
  split <;> rfl

/-- The values that the framework has after a poll are those of the line that was reported. -/
theorem values_after (hs : h.Synchronised) (line : CString) :
    ∀ fields ∈ csqFields (h.csq.next line (afterLine csqReport h.csq.saved line)).reported,
      (lastSignalStrength h.signalStrength (afterLine csqReport h.csq.saved line).2).map
        (List.take 2) = some [fields.1, fields.2] := by
  intro fields hfields
  unfold afterLine at hfields ⊢
  split at hfields
  · next hsame =>
    rw [if_pos hsame]
    exact hs.values fields hfields
  · next hchanged =>
    rw [if_neg hchanged]
    cases hline : csqFields line with
    | none =>
      simp only [Watched.next, csqReport, hline] at hfields
      simpa [csqReport, hline, lastSignalStrength] using hs.values fields hfields
    | some values =>
      obtain rfl : values = fields := by simpa [Watched.next, csqReport, hline] using hfields
      simp [csqReport, hline, lastSignalStrength]

theorem reports_iff (hs : h.Synchronised) (e : PollStep) : h.Reports e ↔ h.Tells e := by
  cases e with
  | networkRegistration p =>
    have hiff := hs.creg.reports_iff cregReport p.nul_free p.short
    simp only [Reports, Tells, step_networkRegistration, hs.creg.text_eq]
    simpa [cregReport, Watched.next] using hiff
  | signalStrength p =>
    have hiff := hs.csq.reports_iff csqReport p.nul_free p.short
    have hparsed : (csqReport p.line).isSome = (csqFields p.line).isSome := Option.isSome_map
    rw [hparsed] at hiff
    simp only [Reports, Tells, step_signalStrength, hs.csq.text_eq]
    rw [← hiff]
    apply and_iff_left_of_imp
    intro hreports fields hfields
    have hreported : (h.csq.next p.line (afterLine csqReport h.csq.saved p.line)).reported = p.line := by
      simp only [Watched.next]
      split
      · next hquiet =>
        by_contra hne
        exact hreports.1.mpr (Ne.symm hne) hquiet
      · rfl
    exact values_after hs p.line fields (by rwa [hreported])

theorem synchronised_step (hs : h.Synchronised) {e : PollStep} (hreports : h.Reports e) :
    (h.step e).1.Synchronised := by
  cases e with
  | networkRegistration p =>
    simp only [Reports, step_networkRegistration] at hreports
    rw [step_networkRegistration]
    exact ⟨hs.csq, hs.creg.next cregReport p.nul_free p.short hreports, hs.values⟩
  | signalStrength p =>
    simp only [Reports, step_signalStrength] at hreports
    rw [step_signalStrength]
    exact ⟨hs.csq.next csqReport p.nul_free p.short hreports.1, hs.creg, values_after hs p.line⟩

end PollHistory

/-- Over every sequence of polls: each of them reports what has changed if and only if each line
that arrives tells the difference from the saved one. -/
theorem polls_report_changes_iff (polls : List PollStep) :
    Along PollHistory.step PollHistory.Reports .initial polls ↔
      Along PollHistory.step PollHistory.Tells .initial polls :=
  along_iff_of_invariant PollHistory.Synchronised (fun _ e hs => PollHistory.reports_iff hs e)
    (fun _ _ hs hreports => PollHistory.synchronised_step hs hreports)
    PollHistory.synchronised_initial

/-- `+CSQ:13,9` after `+CSQ:13,99` is taken for the same line. -/
theorem polls_miss_shorter_line :
    let state : RequestState := ⟨initSessionContext none 0, 0⟩
    let first : Environment := { Environment.terse with
      replies := fun _ => .answered [ascii "+CSQ:13,99", ascii "OK"] (by decide) }
    let second : Environment := { Environment.terse with
      replies := fun _ => .answered [ascii "+CSQ:13,9", ascii "OK"] (by decide) }
    ¬ Along PollHistory.step PollHistory.Reports .initial
      [.signalStrength ⟨first, state, ascii "+CSQ:13,99", by decide, by decide, by decide⟩,
        .signalStrength ⟨second, state, ascii "+CSQ:13,9", by decide, by decide, by decide⟩] := by
  rintro state first second ⟨-, ⟨⟨hsent, -⟩, -⟩, -⟩
  exact hsent.mpr (by decide) (by decide)

end Fw100.Request
