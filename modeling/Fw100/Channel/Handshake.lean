import Fw100.Channel.System

/-!
# Handshake and the answers of the modem

A modem that gives every command line exactly one final response, in order. The
responses carry no number, so a thread takes the next one for its own.
-/
namespace Fw100.Channel
open Library Text

structure Session (τ : Type*) where
  system : System τ
  answered : ℕ

namespace System.Transition
variable {τ : Type*} [DecidableEq τ] {s : System τ} {next : System τ × Option (Return τ)}

theorem fdOpen (h : Transition s next) : next.1.channel.fdOpen = s.channel.fdOpen := by
  cases h with
  | stay => rfl
  | enter t job ch hw hfd => exact hfd
  | leave t job id err out ch hw hr hfd => exact hfd
  | line l => exact processLine_fdOpen s.channel l
  | closed => rfl

theorem written_le (h : Transition s next) : s.written ≤ next.1.written := by
  cases h with
  | enter => exact Nat.le_succ _
  | _ => exact le_rfl

/-- A return with 0 leaves the channel open and no command pending. -/
theorem return_zero (h : Transition s next) {r : Return τ} (hout : next.2 = some r)
    (h0 : r.err = 0) :
    next.1.channel.response = none ∧ next.1.channel.readerClosed = false := by
  cases h with
  | leave t job id err out ch hw hr hfd hz =>
    obtain rfl : _ = r := by simpa using hout
    exact ⟨hr, hz h0⟩
  | _ => simp at hout

end System.Transition

namespace Session
variable {τ : Type*} [DecidableEq τ]

def start : Session τ := ⟨.start, 0⟩

def answersIn : Event τ → ℕ
  | .line l => if isFinalResponse l then 1 else 0
  | _ => 0

def step (s : Session τ) (e : Event τ) : Session τ × Option (Return τ) :=
  let (system, out) := s.system.step e
  (⟨system, s.answered + answersIn e⟩, out)

/-- Every final response answers the first command line that has no answer yet. -/
def Conforms (answers : ℕ → CString) (s : Session τ) : Event τ → Prop
  | .line l => isFinalResponse l = true → s.answered < s.system.written ∧ l = answers s.answered
  | _ => True

/-- The response that a command returns is the answer to its own line. -/
def AnsweredOwn (answers : ℕ → CString) (s : Session τ) (e : Event τ) : Prop :=
  ∀ r resp, (step s e).2 = some r → r.err = 0 → r.out = .response resp →
    resp.finalResponse = some (answers r.id) ∧
      resp.success = isFinalResponseSuccess (answers r.id)

/-- Commands that follow one another, as the wrappers send them: without a
timeout, and without a handshake in between. -/
def Follows (answers : ℕ → CString) (s : Session τ) (e : Event τ) : Prop :=
  s.system.NoOverlap e ∧ Conforms answers s e ∧
    match e with
    | .sendCommand _ call _ => call.timed = false
    | .handshake _ _ => False
    | _ => True

/-- No command is answered twice or out of turn: either nothing is outstanding,
or one command waits whose answer has not come or is the last final response. -/
inductive Balanced (answers : ℕ → CString) (s : Session τ) : Prop where
  | idle (hr : s.system.channel.response = none) (h : s.answered = s.system.written)
  | busy (t : τ) (call : Call) (id : ℕ) (arrived : List CString)
      (ht : s.system.waiting t = some ⟨.full call, id, arrived⟩) (hun : call.timed = false)
      (hid : id + 1 = s.system.written)
      (h : lastFinal arrived = none ∧ s.answered = id ∨
        lastFinal arrived = some (answers id) ∧ s.answered = id + 1)

/-- What the commands that follow keep. A closed channel answers nobody. -/
structure Sound (answers : ℕ → CString) (s : Session τ) : Prop where
  owned : s.system.Owned
  full : ∀ t w, s.system.waiting t = some w → ∃ call, w.job = .full call ∧ call.timed = false
  balanced : s.system.channel.readerClosed = true ∨ Balanced answers s

omit [DecidableEq τ] in
theorem Balanced.answered_of_idle {answers : ℕ → CString} {s : Session τ}
    (h : Balanced answers s) (ho : s.system.Owned) (hr : s.system.channel.response = none) :
    s.answered = s.system.written := by
  cases h with
  | idle _ h => exact h
  | busy t call id arrived ht =>
    rw [ho.waiting_eq_none hr t] at ht
    cases ht

theorem step_eq {s : Session τ} {e : Event τ} {system : System τ} {out : Option (Return τ)}
    (h : s.system.step e = (system, out)) : step s e = (⟨system, s.answered + answersIn e⟩, out) := by
  simp [step, h]

theorem step_sendCommand_sound {answers : ℕ → CString} {s : Session τ} (h : Sound answers s)
    {t : τ} {call : Call} {ws : List WriteResult}
    (hf : Follows answers s (.sendCommand t call ws)) :
    AnsweredOwn answers s (.sendCommand t call ws) ∧
      Sound answers (step s (.sendCommand t call ws)).1 := by
  have howned := System.step_owned h.owned hf.1
  rcases hf with ⟨hno, -, hun⟩
  obtain heq | ⟨hr, heq | ⟨err, he, heq⟩⟩ := System.step_sendCommand_cases h.owned hno
  · rw [AnsweredOwn, step_eq heq]
    exact ⟨by simp, h⟩
  · have hw := h.owned.waiting_eq_none hr
    rw [heq] at howned
    rw [AnsweredOwn, step_eq heq]
    refine ⟨by simp, howned, fun t' w ht' => ?_, h.balanced.imp_right fun hbal => ?_⟩
    · by_cases ht : t' = t
      · obtain rfl : _ = w := by simpa [ht] using ht'
        exact ⟨call, rfl, hun⟩
      · simp [ht, hw] at ht'
    · exact .busy t call s.system.written [] (by simp) hun rfl
        (.inl ⟨rfl, hbal.answered_of_idle h.owned hr⟩)
  · have hw := h.owned.waiting_eq_none hr
    rw [heq] at howned
    rw [AnsweredOwn, step_eq heq]
    refine ⟨?_, howned, fun t' w ht' => ?_, h.balanced.imp_right fun hbal => ?_⟩
    · rintro r resp hr' herr -
      obtain rfl : _ = r := by simpa using hr'
      exact absurd herr he.ne
    · by_cases ht : t' = t <;> simp [ht, hw] at ht'
    · exact .idle rfl (hbal.answered_of_idle h.owned hr)

/-- On an open channel the final response that a waiting thread has got is its own. -/
theorem Sound.own_answer {answers : ℕ → CString} {s : Session τ} (h : Sound answers s) {t : τ}
    {call : Call} {id : ℕ} {arrived : List CString}
    (ht : s.system.waiting t = some ⟨.full call, id, arrived⟩)
    (hopen : s.system.channel.readerClosed = false) (hfinal : lastFinal arrived ≠ none) :
    lastFinal arrived = some (answers id) ∧ s.answered = s.system.written := by
  rcases h.owned.of_waiting ht with ⟨-, hothers⟩
  obtain hcl | hbal := h.balanced
  · simp [hopen] at hcl
  · cases hbal with
    | idle hr => simp [h.owned.waiting_eq_none hr t] at ht
    | busy t' call' id' arrived' ht' hun' hid hlast =>
      obtain rfl : t' = t := by
        by_contra hne
        simp [hothers t' hne] at ht'
      simp only [ht, Option.some.injEq, Wait.mk.injEq] at ht'
      rcases ht' with ⟨-, rfl, rfl⟩
      rcases hlast with ⟨hnone, -⟩ | ⟨hsome, hans⟩
      · exact absurd hnone hfinal
      · exact ⟨hsome, by omega⟩

theorem step_wake_sound {answers : ℕ → CString} {s : Session τ} (h : Sound answers s)
    (t : τ) (ws : List WriteResult) :
    AnsweredOwn answers s (.wake t ws) ∧ Sound answers (step s (.wake t ws)).1 := by
  have hc := h.owned.not_crashed
  have howned := System.step_owned (e := .wake t ws) h.owned trivial
  cases ht : s.system.waiting t with
  | none =>
    have heq : s.system.step (.wake t ws) = (s.system, none) := by simp [System.step, hc, ht]
    rw [AnsweredOwn, step_eq heq]
    exact ⟨by simp, h⟩
  | some w =>
    rcases h.full t w ht with ⟨call, hjob, hun⟩
    rcases w with ⟨job, id, arrived⟩
    obtain rfl : job = .full call := hjob
    have heq := System.step_wake_full h.owned ht ws
    split at heq
    · rw [AnsweredOwn, step_eq heq]
      exact ⟨by simp, h⟩
    · next hdone =>
      rcases h.owned.of_waiting ht with ⟨-, hothers⟩
      rw [heq] at howned
      rw [AnsweredOwn, step_eq heq]
      have hown : s.system.channel.readerClosed = false →
          lastFinal arrived = some (answers id) ∧ s.answered = s.system.written := by
        intro hopen
        exact h.own_answer ht hopen (fun hnone => by simp [hnone, hopen] at hdone)
      refine ⟨?_, howned, fun t' w ht' => ?_, ?_⟩
      · rintro r resp hr' herr hout
        obtain rfl : _ = r := by simpa using hr'
        have hopen : s.system.channel.readerClosed = false := by
          by_contra hcl
          simp [hcl, atErrorChannelClosed] at herr
        rcases hown hopen with ⟨hlast, -⟩
        by_cases hwants : call.wantsResponse = true
        · obtain rfl : call.assemble arrived = resp := by simpa [hwants] using hout
          simp [Call.assemble, hlast]
        · simp [hwants] at hout
      · by_cases hne : t' = t
        · simp [hne] at ht'
        · simp [hne, hothers t' hne] at ht'
      · cases hcl : s.system.channel.readerClosed with
        | true => exact .inl hcl
        | false => exact .inr (.idle rfl (hown hcl).2)

theorem step_line_sound {answers : ℕ → CString} {s : Session τ} (h : Sound answers s)
    {l : CString} (hf : Conforms answers s (.line l)) : Sound answers (step s (.line l)).1 := by
  have hc := h.owned.not_crashed
  have howned := System.step_owned (e := .line l) h.owned trivial
  have heq : s.system.step (.line l) = ({ s.system with
      channel := (processLine s.system.channel l).1
      waiting := fun t => (s.system.waiting t).map
        (fun w => { w with arrived := w.arrived ++ [l] }) }, none) := by
    simp [System.step, hc]
  rw [heq] at howned
  rw [step_eq heq]
  refine ⟨howned, fun t w ht => ?_, ?_⟩
  · obtain ⟨w', hw', rfl⟩ : ∃ w', s.system.waiting t = some w' ∧ _ = w := by simpa using ht
    exact h.full t w' hw'
  · obtain hcl | hbal := h.balanced
    · exact .inl (by simpa [processLine_readerClosed] using hcl)
    · cases hbal with
      | idle hr hans =>
        have hnf : isFinalResponse l = false := by
          by_contra hl
          have hlt := (hf (by simpa using hl)).1
          omega
        exact .inr (.idle (by simp [processLine, hr]) (by simpa [answersIn, hnf] using hans))
      | busy t call id arrived ht hun hid hlast =>
        refine .inr (.busy t call id (arrived ++ [l]) (by simp [ht]) hun hid ?_)
        by_cases hl : isFinalResponse l = true
        · rcases hf hl with ⟨hlt, hans⟩
          have hfirst : s.answered = id := by
            rcases hlast with ⟨-, ha⟩ | ⟨-, ha⟩ <;> omega
          refine .inr ⟨?_, by simp [answersIn, hl, hfirst]⟩
          rw [lastFinal_concat_of_final hl, ← hfirst, ← hans]
        · rw [Bool.not_eq_true] at hl
          simpa [lastFinal_concat hl, answersIn, hl] using hlast

theorem step_sound {answers : ℕ → CString} {s : Session τ} {e : Event τ} (h : Sound answers s)
    (hf : Follows answers s e) : AnsweredOwn answers s e ∧ Sound answers (step s e).1 := by
  have hc := h.owned.not_crashed
  cases e with
  | sendCommand t call ws => exact step_sendCommand_sound h hf
  | handshake t ws => exact absurd hf.2.2 id
  | wake t ws => exact step_wake_sound h t ws
  | timeout t ws =>
    have heq : s.system.step (.timeout t ws) = (s.system, none) := by
      cases ht : s.system.waiting t with
      | none => simp [System.step, hc, ht]
      | some w =>
        rcases h.full t w ht with ⟨call, hjob, hun⟩
        simp [System.step, hc, ht, hjob, hun]
    rw [AnsweredOwn, step_eq heq]
    exact ⟨by simp, h⟩
  | line l => exact ⟨by simp [AnsweredOwn, step, System.step, hc], step_line_sound h hf.2.1⟩
  | readerClosed =>
    have heq : s.system.step .readerClosed =
        ({ s.system with channel := s.system.channel.onReaderClosed }, none) := by
      simp [System.step, hc]
    have howned := System.step_owned (e := .readerClosed) h.owned trivial
    rw [heq] at howned
    rw [AnsweredOwn, step_eq heq]
    exact ⟨by simp, howned, h.full, .inl rfl⟩

/-- Calls do not overlap and the modem keeps to its protocol. -/
def Calm (answers : ℕ → CString) (s : Session τ) (e : Event τ) : Prop :=
  s.system.NoOverlap e ∧ Conforms answers s e

structure Calmed (s : Session τ) : Prop where
  owned : s.system.Owned
  fdOpen : s.system.channel.fdOpen = true
  answered_le : s.answered ≤ s.system.written

omit [DecidableEq τ] in
theorem calmed_start : Calmed (start : Session τ) := ⟨System.owned_start, rfl, le_rfl⟩

theorem step_calmed {answers : ℕ → CString} {s : Session τ} {e : Event τ} (h : Calmed s)
    (hq : Calm answers s e) : Calmed (step s e).1 := by
  have hmove := System.step_transition h.owned hq.1
  refine ⟨hmove.owned h.owned, hmove.fdOpen.trans h.fdOpen, ?_⟩
  have hans := h.answered_le
  have hadd : s.answered + answersIn e ≤ s.system.written := by
    cases e with
    | line l =>
      by_cases hl : isFinalResponse l = true
      · have hlt := (hq.2 hl).1
        simpa [answersIn, hl] using hlt
      · simpa [answersIn, hl] using hans
    | _ => simpa [answersIn] using hans
  exact hadd.trans hmove.written_le

/-- Between commands the reader only hands lines on. -/
theorem run_lines_idle {s : Session τ} (ho : s.system.Owned)
    (hr : s.system.channel.response = none) (lines : List CString) :
    (run step s (lines.map .line)).1.system.channel = s.system.channel := by
  induction lines generalizing s with
  | nil => rfl
  | cons l lines ih =>
    have hch : (step s (.line l)).1.system.channel = s.system.channel := by
      simp [step, System.step, ho.not_crashed, processLine, hr]
    have ho' : (step s (.line l)).1.system.Owned :=
      System.step_owned (e := .line l) ho trivial
    simpa [hch] using ih ho' (hch ▸ hr)

omit [DecidableEq τ] in
/-- Nothing pending and nothing outstanding: the commands that follow are sound. -/
theorem sound_of_idle (answers : ℕ → CString) {s : Session τ} (h : s.system.Owned)
    (hr : s.system.channel.response = none) (hans : s.answered = s.system.written) :
    Sound answers s := by
  refine ⟨h, fun t w ht => ?_, .inr (.idle hr hans)⟩
  simp [h.waiting_eq_none hr t] at ht

/-- An answer that is outstanding completes the next command. -/
theorem stale_answer_taken {s : Session τ} (h : Calmed s)
    (hr : s.system.channel.response = none) (hopen : s.system.channel.readerClosed = false)
    (hlt : s.answered < s.system.written) (t : τ) :
    let answers := fun n => if n = s.system.written then ascii "ERROR" else ascii "OK"
    let post := [.sendCommand t (.plain (ascii "AT") true) [], .line (ascii "OK"), .wake t []]
    Along step (Follows answers) s post ∧ ¬ Along step (AnsweredOwn answers) s post := by
  intro answers post
  have hc := h.owned.not_crashed
  have hw := h.owned.waiting_eq_none hr
  have hok : isFinalResponse (ascii "OK") = true := by decide
  have hlast : lastFinal [ascii "OK"] = some (ascii "OK") := by decide
  have hne : ascii "OK" ≠ ascii "ERROR" := by decide
  let call := Call.plain (ascii "AT") true
  have hb : beginCommand s.system.channel call [] = (.waiting, s.system.channel.pend call, []) := by
    simp [beginCommand, hr, AtChannel.writeline, AtChannel.writeTerminated, h.fdOpen, hopen,
      writeAll]
  have hsend : Follows answers s (.sendCommand t call []) := ⟨fun _ => hr, trivial, rfl⟩
  have h₁ : s.system.step (.sendCommand t call []) =
      ({ s.system with
        channel := s.system.channel.pend call
        waiting := Function.update s.system.waiting t (some ⟨.full call, s.system.written, []⟩)
        written := s.system.written + 1 }, none) := by
    simp [System.step, hc, hw, hb, System.settle]
  have ho₁ := System.step_owned h.owned hsend.1
  have hanswer : Follows answers (step s (.sendCommand t call [])).1 (.line (ascii "OK")) := by
    refine ⟨trivial, fun _ => ⟨?_, ?_⟩, trivial⟩
    · rw [step_eq h₁]
      exact Nat.lt_succ_of_lt hlt
    · rw [step_eq h₁]
      simp [answers, answersIn, hlt.ne]
  have ho₂ := System.step_owned ho₁ hanswer.1
  have ht₂ : (((s.system.step (.sendCommand t call [])).1.step (.line (ascii "OK"))).1).waiting t =
      some ⟨.full call, s.system.written, [ascii "OK"]⟩ := by
    rw [h₁]
    simp [System.step, hc]
  have h₃ := System.step_wake_full ho₂ ht₂ []
  have hclosed : ((s.system.step (.sendCommand t call [])).1.step
      (.line (ascii "OK"))).1.channel.readerClosed = false := by
    rw [h₁]
    simp [System.step, hc, processLine_readerClosed, AtChannel.pend, hopen]
  refine ⟨⟨hsend, hanswer, ⟨trivial, trivial, trivial⟩, trivial⟩, ?_⟩
  rintro ⟨-, -, hown, -⟩
  rw [hclosed, hlast] at h₃
  have hfinal := (hown _ _ (congrArg Prod.snd h₃) rfl rfl).1
  simp [Call.assemble, hlast, answers, hne] at hfinal

/-- After a handshake, and the lines `drain` that the reader handled since, the
commands that follow are all answered by their own answers exactly when none of
the answers to the attempts is outstanding. -/
theorem following_commands_answered_iff (answers₀ : ℕ → CString) (pre : List (Event τ))
    (last : Event τ) (drain : List CString)
    (hcalm : Along step (Calm answers₀) start ((pre ++ [last]) ++ drain.map .line))
    (t : τ) (left id : ℕ) (out : OutParam)
    (hshake : (step (run step start pre).1 last).2 = some ⟨t, .handshake left, id, 0, out⟩) :
    let s := (run step start ((pre ++ [last]) ++ drain.map .line)).1
    (∀ answers post, Along step (Follows answers) s post →
      Along step (AnsweredOwn answers) s post) ↔ s.answered = s.system.written := by
  intro s
  have hs : Calmed s := hcalm.invariant_run Calmed (fun _ _ h hq => step_calmed h hq) calmed_start
  rcases along_append.mp (along_append.mp hcalm).1 with ⟨hpre, hlast, -⟩
  have hbefore : Calmed (run step start pre).1 :=
    hpre.invariant_run Calmed (fun _ _ h hq => step_calmed h hq) calmed_start
  have hmove := System.step_transition hbefore.owned hlast.1
  rcases hmove.return_zero hshake rfl with ⟨hr, hopen⟩
  have hch : s.system.channel = (step (run step start pre).1 last).1.system.channel := by
    have hlines := run_lines_idle (s := (step (run step start pre).1 last).1)
      (hmove.owned hbefore.owned) hr drain
    simpa [s, run_append] using hlines
  have hr' : s.system.channel.response = none := by rw [hch]; exact hr
  have hopen' : s.system.channel.readerClosed = false := by rw [hch]; exact hopen
  constructor
  · intro hall
    by_contra hne
    have hlt : s.answered < s.system.written := lt_of_le_of_ne hs.answered_le hne
    rcases stale_answer_taken hs hr' hopen' hlt t with ⟨hfollow, hbad⟩
    exact hbad (hall _ _ hfollow)
  · intro hans answers post hfollow
    exact Along.of_invariant (Sound answers) (fun _ _ h hf => step_sound h hf)
      (sound_of_idle answers hs.owned hr' hans) hfollow

/-- The handshake up to its return: the first attempt times out, and its late
answer completes the second. -/
def lateHandshake : List (Event Unit) := [.handshake () [], .timeout () [], .line (ascii "OK")]

/-- The answer to the second attempt then completes `AT+CPIN?`, which the modem
answers with `ERROR`. -/
theorem stale_handshake_answer_taken :
    let answers := fun n => if n = 2 then ascii "ERROR" else ascii "OK"
    let before := lateHandshake ++ [.wake () []]
    let post := [.sendCommand () (.plain (ascii "AT+CPIN?") true) [], .line (ascii "OK"),
      .wake () []]
    Along step (Calm answers) start (before ++ post) ∧
      (step (run step start lateHandshake).1 (.wake () [])).2 =
        some ⟨(), .handshake 6, 1, 0, .untouched⟩ ∧
      ¬ Along step (AnsweredOwn answers) (run step start before).1 post := by
  intro answers before post
  refine ⟨?_, rfl, ?_⟩
  · refine ⟨⟨fun _ => rfl, trivial⟩, ⟨trivial, trivial⟩, ⟨trivial, fun _ => ⟨?_, rfl⟩⟩,
      ⟨trivial, trivial⟩, ⟨fun _ => rfl, trivial⟩, ⟨trivial, fun _ => ⟨?_, rfl⟩⟩,
      ⟨trivial, trivial⟩, trivial⟩ <;> decide
  · rintro ⟨-, -, hown, -⟩
    have hfinal := (hown ⟨(), .full (.plain (ascii "AT+CPIN?") true), 2, 0,
      .response ⟨true, some (ascii "OK"), []⟩⟩ _ rfl rfl rfl).1
    exact absurd hfinal (by decide)

/-- The same handshake with the second answer handled before the next command. -/
theorem following_commands_answered_drained :
    let s := (run step start ((lateHandshake ++ [.wake () []]) ++ [ascii "OK"].map .line)).1
    ∀ answers post, Along step (Follows answers) s post →
      Along step (AnsweredOwn answers) s post := by
  intro s
  refine (following_commands_answered_iff (fun _ => ascii "OK") lateHandshake (.wake () [])
    [ascii "OK"] ?_ () 6 1 .untouched rfl).mpr rfl
  refine ⟨⟨fun _ => rfl, trivial⟩, ⟨trivial, trivial⟩, ⟨trivial, fun _ => ⟨?_, rfl⟩⟩,
    ⟨trivial, trivial⟩, ⟨trivial, fun _ => ⟨?_, rfl⟩⟩, trivial⟩ <;> decide

end Session

end Fw100.Channel
