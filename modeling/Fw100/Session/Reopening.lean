import Fw100.Session.SessionTurns

/-!
# Commands and the next session

A command that waits when the channel is closed is woken and returns `AT_ERROR_CHANNEL_CLOSED`, if
it comes to it before `at_open` takes the response away from under it.
-/
namespace Fw100.Session
open Library Text Channel

namespace Lifecycle
variable {τ : Type*} [DecidableEq τ] {s : Lifecycle τ}

def NoOverlap (s : Lifecycle τ) : LifeEvent τ → Prop
  | .command e => s.sends e = true → System.NoOverlap s.system e
  | _ => True

def Settled (s : Lifecycle τ) (e : LifeEvent τ) : Prop :=
  e = .main → s.main = .clearCommand → ∀ t, s.system.waiting t = none

/-- Whenever a thread wakes up it goes on waiting, or returns what has arrived for it. -/
def Undisturbed (s : Lifecycle τ) : Prop := ∀ t ws, System.Undisturbed s.system t ws

omit [DecidableEq τ] in
/-- What changes the ends of the channel leaves the pending command to its thread. -/
theorem owned_onChannel (f : AtChannel → AtChannel) (h : System.Owned s.system)
    (hafter : ∀ ch call arrived, f (AtChannel.after ch call arrived) = (f ch).after call arrived)
    (hnone : ∀ ch, ch.response = none → (f ch).response = none) :
    System.Owned (s.onChannel f).system := by
  cases h with
  | idle hc hr hw => exact .idle hc (hnone _ hr) hw
  | busy t w ch hc hch ht hw =>
    exact .busy t w (f ch) hc (by rw [← hafter, ← hch]; rfl) ht hw

omit [DecidableEq τ] in
theorem owned_closed (h : System.Owned s.system) :
    System.Owned (s.onChannel AtChannel.onReaderClosed).system :=
  owned_onChannel _ h (fun _ _ _ => rfl) (fun _ hr => hr)

omit [DecidableEq τ] in
theorem owned_mainStep (h : System.Owned s.system) (hsettled : Settled s .main) :
    System.Owned s.mainStep.system := by
  unfold mainStep
  split
  · exact h
  · exact owned_onChannel (fun ch => { ch with fdOpen := true }) h (fun _ _ _ => rfl)
      (fun _ hr => hr)
  · exact owned_onChannel (fun ch => { ch with readerClosed := false }) h (fun _ _ _ => rfl)
      (fun _ hr => hr)
  · next hmain => exact .idle h.not_crashed rfl (hsettled rfl hmain)
  · split <;> exact h
  · exact h
  · exact h
  · exact h

omit [DecidableEq τ] in
theorem owned_leaveStep (h : System.Owned s.system) (k : ℕ) :
    System.Owned (s.leaveStep k).1.system := by
  unfold leaveStep
  split
  · exact h
  · exact owned_closed h
  · exact h
  · exact h
  · exact owned_onChannel (fun ch => { ch with fdOpen := false }) h (fun _ _ _ => rfl)
      (fun _ hr => hr)
  · exact owned_closed h
  · exact h
  · exact h
  · exact h
  · exact h

/-- A step that neither overlaps nor clears a command that somebody waits for. -/
theorem step_owned (h : System.Owned s.system) {e : LifeEvent τ} (hno : NoOverlap s e)
    (hsettled : Settled s e) : System.Owned (step s e).1.system := by
  unfold step
  rw [if_neg (by simp [h.not_crashed])]
  cases e with
  | port fd =>
    dsimp only
    unfold takePort
    split <;> exact h
  | main => exact owned_mainStep h hsettled
  | createReader ok =>
    dsimp only
    unfold createReader
    split
    · cases ok <;> exact h
    · exact h
  | read k ok =>
    dsimp only
    unfold readStep
    split
    · dsimp only
      split <;> exact h
    · exact h
  | line k l =>
    dsimp only
    unfold lineStep
    split
    · exact System.step_owned h trivial
    · exact h
  | leave k => exact owned_leaveStep h k
  | command e =>
    dsimp only
    unfold commandStep
    split
    · next hsends => exact System.step_owned h (hno hsends)
    · exact h

/-- A thread that waits when the command is cleared reads through a NULL pointer when it wakes up. -/
theorem cleared_wake (hc : s.system.crashed = false) {t : Option τ} {w : Wait}
    (ht : s.system.waiting t = some w) (ws : List WriteResult) :
    (System.step (s.onChannel AtChannel.clearPendingCommand).system (.wake t ws)).1.crashed =
      true := by
  have hresume : resume s.system.channel.clearPendingCommand w.job.call =
      (.crashed, s.system.channel.clearPendingCommand) := rfl
  simp [System.step, onChannel, hc, ht, hresume]

theorem step_clear (hc : s.system.crashed = false) (hmain : s.main = .clearCommand) :
    (step s .main).1 =
      { s.onChannel AtChannel.clearPendingCommand with main := .createReader } := by
  simp [step, hc, mainStep, hmain]

theorem cleared_crashes (hc : s.system.crashed = false) (hmain : s.main = .clearCommand) {t : τ}
    {w : Wait} (ht : s.system.waiting (some t) = some w) (ws : List WriteResult) :
    (step (step s .main).1 (.command (.wake (some t) ws))).1.system.crashed = true := by
  have hsends : sends { s.onChannel AtChannel.clearPendingCommand with main := .createReader }
      (.wake (some t) ws) = true := rfl
  have hnot : ¬ (s.onChannel AtChannel.clearPendingCommand).system.crashed = true := by
    simp [onChannel, hc]
  rw [step_clear hc hmain, step, if_neg hnot]
  simp only [commandStep, hsends, if_true]
  exact cleared_wake hc ht ws

theorem cleared_disturbed (h : System.Owned s.system) (hmain : s.main = .clearCommand)
    {t : Option τ} {w : Wait} (ht : s.system.waiting t = some w) :
    ¬ Undisturbed (step s .main).1 := by
  intro hundisturbed
  rw [step_clear h.not_crashed hmain] at hundisturbed
  have hwake := (hundisturbed t []).1
  rw [cleared_wake h.not_crashed ht] at hwake
  cases hwake

theorem undisturbed_step_iff (h : System.Owned s.system) {e : LifeEvent τ} (hno : NoOverlap s e) :
    Undisturbed (step s e).1 ↔ Settled s e := by
  constructor
  · rintro hundisturbed rfl hmain t
    by_contra hwaits
    obtain ⟨w, hw⟩ := Option.ne_none_iff_exists'.mp hwaits
    exact cleared_disturbed h hmain hw hundisturbed
  · intro hsettled t ws
    exact System.undisturbed_of_owned (step_owned h hno hsettled) t ws

/-- **Commands over several sessions.** In a run without overlapping commands every thread that
wakes up, at any moment, finds its own command, and `AT_ERROR_CHANNEL_CLOSED` if the channel has
been closed, if and only if no thread waits whenever `at_open` clears the pending command. -/
theorem commands_undisturbed_iff (es : List (LifeEvent τ))
    (hoverlap : Along step NoOverlap (loaded : Lifecycle τ) es) :
    (∀ before, before <+: es → Undisturbed (run step (loaded : Lifecycle τ) before).1) ↔
      Along step Settled (loaded : Lifecycle τ) es := by
  have hloaded : System.Owned (loaded : Lifecycle τ).system := .idle rfl rfl (fun _ => rfl)
  have hfirst : Undisturbed (loaded : Lifecycle τ) := System.undisturbed_of_owned hloaded
  have hboth : Along step (fun s e => NoOverlap s e ∧ Undisturbed (step s e).1) loaded es ↔
      Along step (fun s e => NoOverlap s e ∧ Settled s e) loaded es :=
    along_iff_of_invariant (fun s => System.Owned s.system)
      (fun s e h => and_congr_right (fun hno => undisturbed_step_iff h hno))
      (fun s e h hP => step_owned h hP.1 ((undisturbed_step_iff h hP.1).mp hP.2)) hloaded
  rw [along_and, along_and] at hboth
  rw [forall_prefix_iff]
  constructor
  · exact fun h => (hboth.mp ⟨hoverlap, h.2⟩).2
  · exact fun h => ⟨hfirst, (hboth.mpr ⟨hoverlap, h⟩).2⟩

/-- A command is sent, the channel is closed, and the next one is opened before the thread of the
command comes to it. -/
theorem commands_undisturbed_late :
    let opening : List (LifeEvent Unit) := [.port 3, .main, .main, .main, .main]
    let closing : List (LifeEvent Unit) := [.read 0 false] ++ List.replicate 7 (.leave 0)
    let sent : LifeEvent Unit :=
      .command (.sendCommand (some ()) (.singleline (ascii "AT+CSQ") (ascii "+CSQ:") true) [])
    let es := opening ++ [.createReader true, sent] ++ closing ++ [.main, .main] ++ opening
    (¬ ∀ before, before <+: es → Undisturbed (run step (loaded : Lifecycle Unit) before).1) ∧
      (run step (loaded : Lifecycle Unit) (es ++ [.command (.wake (some ()) [])])).1.system.crashed =
        true := by
  intro opening closing sent es
  have hoverlap : Along step NoOverlap (loaded : Lifecycle Unit) es := by
    refine along_append.mpr ⟨along_append.mpr ⟨along_append.mpr ⟨along_append.mpr ⟨?_, ?_⟩, ?_⟩, ?_⟩,
      ?_⟩
    · exact ⟨trivial, trivial, trivial, trivial, trivial, trivial⟩
    · exact ⟨trivial, fun _ _ => rfl, trivial⟩
    · exact ⟨trivial, trivial, trivial, trivial, trivial, trivial, trivial, trivial, trivial⟩
    · exact ⟨trivial, trivial, trivial⟩
    · exact ⟨trivial, trivial, trivial, trivial, trivial, trivial⟩
  refine ⟨fun h => ?_, by decide⟩
  have hsettled := (commands_undisturbed_iff es hoverlap).mp h
  have hlast := (along_append.mp hsettled).2.2.2.2.2.1 rfl (by decide) (some ())
  exact absurd hlast (by decide)

end Lifecycle

end Fw100.Session
