import Fw100.Request.Dispatch

/-!
# Settings that the modem may refuse

`requestSetPreferredNetworkType` and `requestScreenState` pass no place for the response, so
the answer of the modem to their commands is lost: only the errors of the channel reach them.
-/
namespace Fw100.Request
open Library Text Channel Session

/-- The last final response to the command was a success. -/
def accepted : Reply → Bool
  | .answered lines _ => (lastFinal lines).any isFinalResponseSuccess
  | _ => false

/-- The channel failed to deliver the command or to wait for its answer. -/
def broken : Reply → Bool
  | .answered _ _ => false
  | _ => true

theorem plain_err (command : CString) (reply : Reply) :
    (unchecked (.plain command false) reply).1 = 0 ∧ broken reply = false ∨
      (unchecked (.plain command false) reply).1 < 0 ∧ broken reply = true := by
  cases reply with
  | failed e => exact .inr ⟨SendError.code_neg e, rfl⟩
  | answered lines _ => exact .inl ⟨rfl, rfl⟩
  | closed lines => exact .inr ⟨show atErrorChannelClosed < 0 by decide, rfl⟩

inductive SettingRequest where
  | preferredNetworkType (mode : ℤ)
  | screenState (value : ℤ) (datalen : ℕ)
deriving DecidableEq, Repr

def SettingRequest.handler (t : Token) : SettingRequest → RilM Unit
  | .preferredNetworkType mode => requestSetPreferredNetworkType (some mode) t
  | .screenState value datalen => requestScreenState (some value) datalen t

/-- One completion: with success and every command accepted, or with a failure that leaves the
state of the screen as it was. -/
def AppliedIfAccepted (env : Environment) (s : RequestState) (t : Token) (s' : RequestState)
    (es : List Event) : Prop :=
  (completions es = [(t, .success)] ∧
      ∀ n, s.sent ≤ n → n < s'.sent → accepted (env.replies n) = true) ∨
    completions es = [(t, .genericFailure)] ∧ s'.ctx.screenState = s.ctx.screenState

/-- The commands with these numbers, of which none is refused or one is not delivered. -/
def NoneRefused (env : Environment) (n count : ℕ) : Prop :=
  (∃ i < count, broken (env.replies (n + i)) = true) ∨
    ∀ i < count, accepted (env.replies (n + i)) = true

/-- The value is none that the handler sends a command for, or no command is refused. -/
def SettingRequest.NoneRefused (env : Environment) (n : ℕ) : SettingRequest → Prop
  | .preferredNetworkType mode => preferredValue mode = none ∨ Request.NoneRefused env n 1
  | .screenState value datalen =>
    sizeofPointer ≤ datalen ∧ (value ≠ 0 ∧ value ≠ 1 ∨ Request.NoneRefused env n 4)

section Handlers
variable {env : Environment}

theorem ends_sendAll (commands : List CString) (s : RequestState) :
    Traced.Ends env s (sendAll commands) (fun ok s' es =>
      s'.ctx = s.ctx ∧ completions es = [] ∧
        (ok = true → s'.sent = s.sent + commands.length) ∧
        (ok = false ↔ ∃ i < commands.length, broken (env.replies (s.sent + i)) = true)) := by
  induction commands generalizing s with
  | nil => simp [sendAll, completions]
  | cons command commands ih =>
    rw [sendAll, Traced.ends_bind, ends_atSendCommandNull]
    rcases plain_err command (env.replies s.sent) with ⟨herr, hbroken⟩ | ⟨herr, hbroken⟩
    · rw [herr, if_neg (lt_irrefl 0)]
      apply (ih _).mono
      rintro ok s' es ⟨hctx, hquiet, hsent, hok⟩
      have hshift : ∀ i, s.sent + 1 + i = s.sent + (i + 1) := by
        intro i
        omega
      simp only [hshift] at hsent hok
      refine ⟨hctx, hquiet, hsent, hok.trans ?_⟩
      constructor
      · rintro ⟨i, hi, hb⟩
        exact ⟨i + 1, Nat.succ_lt_succ hi, hb⟩
      · rintro ⟨i, hi, hb⟩
        cases i with
        | zero =>
          rw [Nat.add_zero, hbroken] at hb
          cases hb
        | succ i => exact ⟨i, Nat.lt_of_succ_lt_succ hi, hb⟩
    · rw [if_pos herr, Traced.ends_pure]
      exact ⟨rfl, rfl, by simp, fun _ => ⟨0, Nat.succ_pos _, hbroken⟩, fun _ => rfl⟩

def Succeeds (env : Environment) (t : Token) (m : RilM Unit) : Prop :=
  ∀ s, Traced.Ends env s m (fun _ s' es => s'.sent = s.sent ∧ completions es = [(t, .success)])

/-- After a success the commands that were sent decide. -/
theorem appliedIfAccepted_success_iff {s s' : RequestState} {t : Token} {es : List Event}
    {count : ℕ} (hes : completions es = [(t, .success)]) (hsent : s'.sent = s.sent + count) :
    AppliedIfAccepted env s t s' es ↔ ∀ i < count, accepted (env.replies (s.sent + i)) = true := by
  have hfail : completions es ≠ [(t, .genericFailure)] := by simp [hes]
  simp only [AppliedIfAccepted, hes, hsent, true_and]
  constructor
  · rintro (haccepted | ⟨hother, -⟩)
    · intro i hi
      exact haccepted (s.sent + i) (by omega) (by omega)
    · exact absurd (hes.trans hother) hfail
  · intro haccepted
    left
    intro n hle hlt
    obtain ⟨i, rfl⟩ := Nat.exists_eq_add_of_le hle
    exact haccepted i (by omega)

/-- The setting is applied after a list of commands, of which none is broken. -/
theorem ends_sendAll_then_iff (commands : List CString) (s : RequestState) (t : Token)
    {success : RilM Unit} (hsuccess : Succeeds env t success) :
    Traced.Ends env s (do
        let ok ← sendAll commands
        if ok then success else complete t .genericFailure .null)
      (fun _ s' es => AppliedIfAccepted env s t s' es) ↔ NoneRefused env s.sent commands.length := by
  have hsend : Traced.Ends env s (sendAll commands) _ := ends_sendAll commands s
  obtain ⟨ok, hvalue, hctx, hquiet, hsent, hok⟩ := hsend
  rw [Traced.ends_bind, Traced.ends_of_value hvalue]
  cases ok with
  | false =>
    refine iff_of_true ?_ (.inl (hok.mp rfl))
    rw [if_neg Bool.false_ne_true, ends_complete]
    right
    refine ⟨?_, congrArg SessionCtx.screenState hctx⟩
    rw [completions, List.filterMap_append, ← completions, hquiet]
    rfl
  | true =>
    have hnone : ¬ ∃ i < commands.length, broken (env.replies (s.sent + i)) = true := fun h =>
      Bool.noConfusion (hok.mpr h)
    obtain ⟨_, hvalue', hsent', hes⟩ := hsuccess (sendAll commands env s).state
    rw [if_pos rfl, NoneRefused, or_iff_right hnone, Traced.ends_of_value hvalue']
    apply appliedIfAccepted_success_iff
    · rw [completions, List.filterMap_append, ← completions, ← completions, hquiet, hes]
      rfl
    · rw [hsent', hsent rfl]

theorem ends_requestScreenState_iff (value : ℤ) (datalen : ℕ) (s : RequestState) (t : Token) :
    Traced.Ends env s (requestScreenState (some value) datalen t)
        (fun _ s' es => AppliedIfAccepted env s t s' es) ↔
      sizeofPointer ≤ datalen ∧ (value ≠ 0 ∧ value ≠ 1 ∨ NoneRefused env s.sent 4) := by
  rw [requestScreenState, deref_bind]
  split
  · next hshort => simp [hshort.not_ge]
  · next hlong =>
    split
    · next hon =>
      have hsuccess : Succeeds env t (do
          notify .networkStateChanged
          modifyCtx (fun ctx => { ctx with screenState := screenIsOn })
          complete t .success .null) := by
        intro s
        simp [completions, Event.completion]
      rw [ends_sendAll_then_iff _ s t hsuccess]
      simp [hon, not_lt.mp hlong]
    · next hon =>
      split
      · next hoff =>
        have hsuccess : Succeeds env t (do
            modifyCtx (fun ctx => { ctx with screenState := screenIsOff })
            complete t .success .null) := by
          intro s
          simp [completions, Event.completion]
        rw [ends_sendAll_then_iff _ s t hsuccess]
        simp [hoff, not_lt.mp hlong]
      · next hoff =>
        simp [hon, hoff, not_lt.mp hlong, AppliedIfAccepted, completions, Event.completion]

theorem ends_requestSetPreferredNetworkType_iff (mode : ℤ) (s : RequestState) (t : Token) :
    Traced.Ends env s (requestSetPreferredNetworkType (some mode) t)
        (fun _ s' es => AppliedIfAccepted env s t s' es) ↔
      preferredValue mode = none ∨ NoneRefused env s.sent 1 := by
  rw [requestSetPreferredNetworkType, deref_bind]
  cases hvalue : preferredValue mode with
  | none =>
    simp [completeThenFree, AppliedIfAccepted, completions, Event.completion]
  | some value =>
    simp only [reduceCtorEq, false_or]
    rw [Traced.ends_bind, ends_atSendCommandNull]
    rcases plain_err (ascii "AT^PREFMODE=" ++ decimal value) (env.replies s.sent) with
      ⟨herr, hbroken⟩ | ⟨herr, hbroken⟩
    · rw [herr, if_neg (by simp), ends_complete, NoneRefused]
      rw [appliedIfAccepted_success_iff rfl rfl]
      simp [hbroken]
    · rw [if_pos herr.ne, completeThenFree, Traced.ends_bind, ends_complete, ends_atResponseFree]
      refine iff_of_true (.inr ⟨rfl, rfl⟩) (.inl ⟨0, Nat.one_pos, hbroken⟩)

end Handlers

/-- A setting is reported as applied only if the modem accepted it: exactly if the modem refuses
none of the commands that the handler gets to send. -/
theorem setting_reported_only_if_accepted_iff (env : Environment) (s : RequestState) (t : Token)
    (request : SettingRequest) :
    Traced.Ends env s (request.handler t) (fun _ s' es => AppliedIfAccepted env s t s' es) ↔
      request.NoneRefused env s.sent := by
  cases request with
  | preferredNetworkType mode => exact ends_requestSetPreferredNetworkType_iff mode s t
  | screenState value datalen => exact ends_requestScreenState_iff value datalen s t

/-- The modem refuses the mode and the request succeeds. -/
theorem setting_reported_though_refused :
    let env : Environment := { Environment.terse with
      replies := fun _ => .answered [ascii "ERROR"] (by decide) }
    let s : RequestState := ⟨initSessionContext none 0, 0⟩
    ¬ Traced.Ends env s ((SettingRequest.preferredNetworkType networkModeHybrid).handler 7)
      (fun _ s' es => AppliedIfAccepted env s 7 s' es) := by
  rintro env s ⟨_, -, ⟨-, haccepted⟩ | ⟨hfailure, -⟩⟩
  · exact absurd (haccepted 0 (by decide) (by decide)) (by decide)
  · exact absurd hfailure (by decide)

end Fw100.Request
