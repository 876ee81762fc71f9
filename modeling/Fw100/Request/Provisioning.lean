import Fw100.Request.Activation

/-!
# The number of provisioning calls

A provisioning call is billed. Over a whole session `activateHelper` makes a bounded number of
them, and each only for a module that asks for it.
-/
namespace Fw100.Request
open Library Text Channel Session

def callsLeft (ctx : SessionCtx) : ℤ := max (ctx.moduleActivateRetry - 1) 0

/-- What a call of `activateHelper` needs before it makes a provisioning call. -/
def MayCall (ctx : SessionCtx) (call : ActivationCall) : Prop :=
  ctx.moduleAutoActivate ≠ 0 ∧
    (∃ mdn, mdnReply call.env 1 = some mdn ∧
      mdn[6]? = some 48 ∧ mdn[7]? = some 48 ∧ mdn[8]? = some 48) ∧
    ∃ line, carrierReply call.env 2 = some line ∧ strstr line (ascii "vzw") = true ∧
      strstr line (ascii "sprint") = false

theorem Unprovisioned.mayCall {ctx : SessionCtx} {call : ActivationCall} {meid : CString}
    (h : Unprovisioned call.env ⟨ctx, 0⟩ meid) : MayCall ctx call := by
  rcases h.mdnLine with ⟨mdn, hmdn, hzero⟩
  rcases h.carrierLine with ⟨line, hline, hsprint, hvzw⟩
  have hdigits : (mdn[6]? = some 48 ∧ mdn[7]? = some 48) ∧ mdn[8]? = some 48 := by
    simpa [mdnIsZero] using hzero
  exact ⟨h.automatic, ⟨mdn, hmdn, hdigits.1.1, hdigits.1.2, hdigits.2⟩, line, hline, hvzw, hsprint⟩

structure Bounded (ctx : SessionCtx) (call : ActivationCall) : Prop where
  mayCall : dials (activationStep ctx call).2.2 ≠ 0 → MayCall ctx call
  nonneg : 0 ≤ (activationStep ctx call).1.moduleActivateRetry
  le : (activationStep ctx call).1.moduleActivateRetry ≤ ctx.moduleActivateRetry
  last : ctx.moduleActivateRetry ≠ 0 → (activationStep ctx call).1.moduleActivateRetry = 0 →
    (activationStep ctx call).1.moduleIsActivated = 2 ∧ dials (activationStep ctx call).2.2 = 0

/-- The change of the counter and of the record of the activation at each way out. -/
theorem ActivationExit.count {env : Environment} {reader : ReaderThread} {s : RequestState}
    {ret : ℤ} {ctx' : SessionCtx} {n : ℕ} (h : ActivationExit env reader s ret ctx' n) :
    (n = 0 ∧ ctx'.moduleActivateRetry = s.ctx.moduleActivateRetry) ∨
      (n = 0 ∧ (s.ctx.moduleActivateRetry = 0 ∨ s.ctx.moduleActivateRetry = 1) ∧
        ctx'.moduleActivateRetry = 0 ∧ ctx'.moduleIsActivated = 2) ∨
      (n = 1 ∧ (∃ meid, Unprovisioned env s meid) ∧ s.ctx.moduleActivateRetry ≠ 0 ∧
        s.ctx.moduleActivateRetry ≠ 1 ∧
        ctx'.moduleActivateRetry = s.ctx.moduleActivateRetry - 1) := by
  cases h with
  | noMeid hmeid => exact .inl ⟨rfl, handleAll_moduleActivateRetry _ _⟩
  | @noMdn meid hmeid hmdn =>
    rcases exists_ctxMdn reader meid s.ctx with ⟨_, _, h⟩
    exact .inl ⟨rfl, by rw [h]⟩
  | @valid meid mdn hmeid hmdn hzero =>
    rcases exists_ctxMdn reader meid s.ctx with ⟨_, _, h⟩
    exact .inl ⟨rfl, by rw [h]⟩
  | @declined meid mdn hmeid hmdn hzero hasked =>
    rcases exists_ctxCarrier reader meid s.ctx with ⟨_, _, h⟩
    exact .inl ⟨rfl, by rw [h]⟩
  | exhausted hasked hretry => exact .inr (.inl ⟨rfl, hretry, rfl, rfl⟩)
  | @unanswered meid hasked hretry hmsg =>
    rcases exists_ctxOta reader meid s.ctx with ⟨_, _, h⟩
    exact .inr (.inr ⟨rfl, ⟨meid, hasked⟩, hretry.1, hretry.2, by rw [h]⟩)
  | @unconfirmed meid hasked hretry hmsg hmdn =>
    rcases exists_ctxConfirm reader meid s.ctx with ⟨_, _, h⟩
    exact .inr (.inr ⟨rfl, ⟨meid, hasked⟩, hretry.1, hretry.2, by rw [h]⟩)
  | @confirmed meid mdn hasked hretry hmsg hmdn =>
    rcases exists_ctxConfirm reader meid s.ctx with ⟨_, _, h⟩
    exact .inr (.inr ⟨rfl, ⟨meid, hasked⟩, hretry.1, hretry.2, by rw [h]⟩)

/-- One call is bounded, and what it dials is taken from what is left. -/
theorem bounded_step {ctx : SessionCtx} (hctx : 0 ≤ ctx.moduleActivateRetry)
    (call : ActivationCall) :
    Bounded ctx call ∧
      dials (activationStep ctx call).2.2 + callsLeft (activationStep ctx call).1 ≤
        callsLeft ctx := by
  rcases activationStep_exit ctx call with ⟨ret, -, hexit⟩
  unfold callsLeft
  rcases hexit.count with ⟨hn, hkept⟩ | ⟨hn, hlast, hzero, hfailed⟩ | ⟨hn, ⟨meid, hasked⟩, h0, h1, hless⟩
  · have hkept' : (activationStep ctx call).1.moduleActivateRetry = ctx.moduleActivateRetry := hkept
    rw [hn, hkept']
    refine ⟨⟨fun h => absurd hn h, by omega, by omega, fun h h' => ?_⟩, by simp⟩
    exact absurd (hkept'.symm.trans h') h
  · have hlast' : ctx.moduleActivateRetry = 0 ∨ ctx.moduleActivateRetry = 1 := hlast
    rw [hn, hzero]
    refine ⟨⟨fun h => absurd hn h, by omega, by omega, fun _ _ => ⟨hfailed, hn⟩⟩, ?_⟩
    rcases hlast' with h | h <;> simp [h]
  · have hless' : (activationStep ctx call).1.moduleActivateRetry =
        ctx.moduleActivateRetry - 1 := hless
    have h0' : ctx.moduleActivateRetry ≠ 0 := h0
    have h1' : ctx.moduleActivateRetry ≠ 1 := h1
    rw [hn, hless']
    refine ⟨⟨fun _ => hasked.mayCall, by omega, by omega, fun _ h => by omega⟩, ?_⟩
    rw [max_eq_left (by omega), max_eq_left (by omega)]
    push_cast
    omega

def totalDials (outputs : List (Except Fault ℤ × List Event)) : ℕ :=
  (outputs.map (fun output => dials output.2)).sum

theorem totalDials_le {ctx : SessionCtx} (hctx : 0 ≤ ctx.moduleActivateRetry)
    (calls : List ActivationCall) :
    totalDials (run activationStep ctx calls).2 ≤ callsLeft ctx := by
  induction calls generalizing ctx with
  | nil => simp [totalDials, callsLeft]
  | cons call calls ih =>
    rcases bounded_step hctx call with ⟨hbounded, hleft⟩
    have hrest := ih hbounded.nonneg
    simp only [run_cons, totalDials, List.map_cons, List.sum_cons] at hrest ⊢
    push_cast at hrest ⊢
    omega

theorem along_bounded {ctx : SessionCtx} (hctx : 0 ≤ ctx.moduleActivateRetry)
    (calls : List ActivationCall) : Along activationStep Bounded ctx calls :=
  Along.of_invariant (Q := fun _ _ => True) (fun ctx => 0 ≤ ctx.moduleActivateRetry)
    (fun _ call h _ => ⟨(bounded_step h call).1, (bounded_step h call).1.nonneg⟩) hctx
    (.of_forall (fun _ _ => trivial))

/-- From the state that `initSessionContext` leaves, whatever the control file says and whatever
the modem does: fewer than `MAX_AUTO_ACTIVATE_RETRY` provisioning calls are made, each for a
module that asks for it, and the try that uses up the counter gives up. -/
theorem provisioning_calls_bounded (dataDevname : Option CString) (dataCallIsAutomatic : ℤ)
    (file : Option (List CString)) (calls : List ActivationCall) :
    let ctx := rilReadControl (initSessionContext dataDevname dataCallIsAutomatic) file
    totalDials (run activationStep ctx calls).2 ≤ maxAutoActivateRetry - 1 ∧
      Along activationStep Bounded ctx calls := by
  intro ctx
  have hretry : ctx.moduleActivateRetry = maxAutoActivateRetry := by
    rcases exists_rilReadControl (initSessionContext dataDevname dataCallIsAutomatic) file with
      ⟨_, _, h⟩
    simp only [ctx, h, initSessionContext]
  have hpos : 0 ≤ ctx.moduleActivateRetry := by
    rw [hretry]
    decide
  refine ⟨?_, along_bounded hpos calls⟩
  have htotal := totalDials_le hpos calls
  rw [callsLeft, hretry] at htotal
  exact htotal

end Fw100.Request
