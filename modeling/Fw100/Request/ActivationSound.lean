import Fw100.Request.Activation

/-!
# What the record of an activation means

`moduleIsActivated = 1` ends all further attempts, so the number that goes with it should be
a real one. The helper sets the flag from three characters of a raw line, and after a
provisioning call before it has asked for the number.
-/
namespace Fw100.Request
open Library Text Channel Session

def storedMdn (line : CString) : CharArray 32 := .copy 32 (line.drop 6)

def GoodMdn (text : CString) : Prop :=
  text ≠ [] ∧ strStartsWith (text.dropWhile isSpace) (ascii "000") = false

instance (text : CString) : Decidable (GoodMdn text) :=
  inferInstanceAs (Decidable (_ ∧ _))

/-- The call stored the number of a line that it read with `AT+VMDN?`. -/
def ActivationCall.Stores (call : ActivationCall) (mdn : CharArray 32) : Prop :=
  ∃ line, (mdnReply call.env 1 = some line ∨ mdnReply call.env 4 = some line) ∧
    mdn = storedMdn line

/-- In every state of the run the flag goes with a good number that one of the calls read. -/
def SoundStates (ctx : SessionCtx) (calls : List ActivationCall) : Prop :=
  ∀ before, before <+: calls → (run activationStep ctx before).1.moduleIsActivated = 1 →
    GoodMdn (run activationStep ctx before).1.mdn.text ∧
      ∃ call ∈ before, call.Stores (run activationStep ctx before).1.mdn

/-- A call that sets the flag returns 0 and has stored a good number. -/
def SetsSoundly (ctx : SessionCtx) (call : ActivationCall) : Prop :=
  ctx.moduleIsActivated ≠ 1 → (activationStep ctx call).1.moduleIsActivated = 1 →
    (activationStep ctx call).2.1 = .ok 0 ∧
      GoodMdn (activationStep ctx call).1.mdn.text ∧ call.Stores (activationStep ctx call).1.mdn

def Provisioned (ctx : SessionCtx) (call : ActivationCall) : Prop :=
  ∃ meid, Unprovisioned call.env ⟨ctx, 0⟩ meid ∧
    (ctx.moduleActivateRetry ≠ 0 ∧ ctx.moduleActivateRetry ≠ 1) ∧
    ReportsSuccess call.reader meid ctx

/-- A line that passes the test of its three characters holds a good number, and so does the one
that confirms a provisioning call. Only a module that counts as activated may leave it out. -/
structure OffersGoodMdn (ctx : SessionCtx) (call : ActivationCall) : Prop where
  present : ∀ mdn, (meidReply call.env 0).isSome → mdnReply call.env 1 = some mdn →
    mdnIsZero mdn = false → GoodMdn (storedMdn mdn).text
  confirmed : Provisioned ctx call → ∀ mdn, mdnReply call.env 4 = some mdn →
    GoodMdn (storedMdn mdn).text
  answered : Provisioned ctx call → mdnReply call.env 4 = none → ctx.moduleIsActivated = 1

/-- The flag goes with a good number. -/
def Sound (ctx : SessionCtx) : Prop := ctx.moduleIsActivated = 1 → GoodMdn ctx.mdn.text

section Step
variable {ctx : SessionCtx} {call : ActivationCall}

theorem Unprovisioned.number_zero {meid mdn : CString}
    (h : Unprovisioned call.env ⟨ctx, 0⟩ meid) (hline : mdnReply call.env 1 = some mdn) :
    mdnIsZero mdn = true := by
  rcases h.mdnLine with ⟨mdn', hmdn, hzero⟩
  rwa [Option.some.inj (hline.symm.trans hmdn)]

/-- A provisioning call is made for one identity and for a number that is not set. -/
theorem Provisioned.replies (h : Provisioned ctx call) {meid : CString}
    (hmeid : meidReply call.env 0 = some meid) :
    Unprovisioned call.env ⟨ctx, 0⟩ meid ∧
      (ctx.moduleActivateRetry ≠ 0 ∧ ctx.moduleActivateRetry ≠ 1) ∧
      ReportsSuccess call.reader meid ctx := by
  rcases h with ⟨meid', hasked, hretry, hmsg⟩
  obtain rfl : meid = meid' := Option.some.inj (hmeid.symm.trans hasked.meidLine)
  exact ⟨hasked, hretry, hmsg⟩

theorem Provisioned.isSome (h : Provisioned ctx call) :
    ∃ meid mdn, meidReply call.env 0 = some meid ∧ mdnReply call.env 1 = some mdn ∧
      mdnIsZero mdn = true := by
  rcases h with ⟨meid, hasked, -⟩
  rcases hasked.mdnLine with ⟨mdn, hmdn, hzero⟩
  exact ⟨meid, mdn, hasked.meidLine, hmdn, hzero⟩

/-- The flag and the number after a call, by what the call came to. -/
inductive FlagOutcome (ctx : SessionCtx) (call : ActivationCall) : ℤ → SessionCtx → Prop
  | kept {ret : ℤ} {ctx' : SessionCtx} (hmdn : ctx'.mdn = ctx.mdn)
    (hflag : ctx'.moduleIsActivated = ctx.moduleIsActivated ∨ ctx'.moduleIsActivated = 2)
    (hpresent : ∀ mdn, (meidReply call.env 0).isSome → mdnReply call.env 1 = some mdn →
      mdnIsZero mdn = true) (hcall : ¬ Provisioned ctx call) : FlagOutcome ctx call ret ctx'
  | present {mdn : CString} {ctx' : SessionCtx} (hflag : ctx'.moduleIsActivated = 1)
    (hmdn : ctx'.mdn = storedMdn mdn) (hmeid : (meidReply call.env 0).isSome)
    (hline : mdnReply call.env 1 = some mdn) (hzero : mdnIsZero mdn = false) :
    FlagOutcome ctx call 0 ctx'
  | unconfirmed {ctx' : SessionCtx} (hflag : ctx'.moduleIsActivated = 1)
    (hmdn : ctx'.mdn = ctx.mdn) (hcall : Provisioned ctx call)
    (hline : mdnReply call.env 4 = none) : FlagOutcome ctx call (-2) ctx'
  | confirmed {mdn : CString} {ctx' : SessionCtx} (hflag : ctx'.moduleIsActivated = 1)
    (hmdn : ctx'.mdn = storedMdn mdn) (hcall : Provisioned ctx call)
    (hline : mdnReply call.env 4 = some mdn) : FlagOutcome ctx call 0 ctx'

theorem flagOutcome_of_exit {ret : ℤ} {ctx' : SessionCtx} {n : ℕ}
    (h : ActivationExit call.env call.reader ⟨ctx, 0⟩ ret ctx' n) :
    FlagOutcome ctx call ret ctx' := by
  cases h with
  | noMeid hmeid =>
    refine .kept (handleAll_mdn _ _) (.inl (handleAll_moduleIsActivated _ _)) ?_ ?_
    · intro mdn hsome
      rw [show meidReply call.env 0 = none from hmeid] at hsome
      cases hsome
    · intro hcall
      rcases hcall.isSome with ⟨meid, -, hsome, -⟩
      exact absurd (hsome.symm.trans hmeid) nofun
  | @noMdn meid hmeid hmdn =>
    rcases exists_ctxMdn call.reader meid ctx with ⟨_, _, hctx⟩
    refine .kept (by rw [hctx]) (.inl (by rw [hctx])) ?_ ?_
    · exact fun mdn _ hline => absurd (hline.symm.trans hmdn) nofun
    · intro hcall
      rcases hcall.isSome with ⟨-, mdn, -, hline, -⟩
      exact absurd (hline.symm.trans hmdn) nofun
  | @valid meid mdn hmeid hmdn hzero =>
    exact .present rfl rfl (by rw [show meidReply call.env 0 = some meid from hmeid]; rfl) hmdn hzero
  | @declined meid mdn hmeid hmdn hzero hasked =>
    rcases exists_ctxCarrier call.reader meid ctx with ⟨_, _, hctx⟩
    refine .kept (by rw [hctx]) (.inl (by rw [hctx])) ?_ ?_
    · intro mdn' _ hline
      rwa [Option.some.inj (hline.symm.trans hmdn)]
    · exact fun hcall => hasked (hcall.replies hmeid).1
  | @exhausted meid hasked hretry =>
    rcases exists_ctxCarrier call.reader meid ctx with ⟨_, _, hctx⟩
    refine .kept (by rw [hctx]) (.inr rfl) ?_ ?_
    · exact fun mdn' _ hline => hasked.number_zero hline
    · intro hcall
      rcases (hcall.replies hasked.meidLine).2.1 with ⟨h0, h1⟩
      exact hretry.elim h0 h1
  | @unanswered meid hasked hretry hmsg =>
    rcases exists_ctxOta call.reader meid ctx with ⟨_, _, hctx⟩
    refine .kept (by rw [hctx]) (.inl (by rw [hctx])) ?_ ?_
    · exact fun mdn' _ hline => hasked.number_zero hline
    · exact fun hcall => hmsg (hcall.replies hasked.meidLine).2.2
  | @unconfirmed meid hasked hretry hmsg hmdn =>
    rcases exists_ctxConfirm call.reader meid ctx with ⟨_, _, hctx⟩
    exact .unconfirmed (by rw [hctx]) (by rw [hctx]) ⟨meid, hasked, hretry, hmsg⟩ hmdn
  | @confirmed meid mdn hasked hretry hmsg hmdn =>
    rcases exists_ctxConfirm call.reader meid ctx with ⟨_, _, hctx⟩
    exact .confirmed (by rw [hctx]) rfl ⟨meid, hasked, hretry, hmsg⟩ hmdn

theorem flagOutcome (ctx : SessionCtx) (call : ActivationCall) :
    ∃ ret, (activationStep ctx call).2.1 = .ok ret ∧
      FlagOutcome ctx call ret (activationStep ctx call).1 := by
  rcases activationStep_exit ctx call with ⟨ret, hret, hexit⟩
  exact ⟨ret, hret, flagOutcome_of_exit hexit⟩

/-- A number that is not set rules out both other conditions on it. -/
theorem Provisioned.not_present (h : Provisioned ctx call) {mdn : CString}
    (hline : mdnReply call.env 1 = some mdn) : mdnIsZero mdn = true := by
  rcases h with ⟨meid, hasked, -⟩
  exact hasked.number_zero hline

/-- From a sound state: one call is sound exactly if it is offered good numbers. -/
theorem sound_step_iff (hctx : Sound ctx) :
    SetsSoundly ctx call ∧ Sound (activationStep ctx call).1 ↔ OffersGoodMdn ctx call := by
  rcases flagOutcome ctx call with ⟨ret, hret, houtcome⟩
  unfold SetsSoundly Sound
  rw [hret]
  generalize (activationStep ctx call).1 = ctx' at *
  cases houtcome with
  | kept hmdn hflag hpresent hcall =>
    refine iff_of_true ⟨fun hne h1 => ?_, fun h1 => ?_⟩
      ⟨fun mdn hmeid hline hzero => ?_, fun h => absurd h hcall, fun h => absurd h hcall⟩
    · rcases hflag with h | h <;> omega
    · rw [hmdn]
      exact hctx (by rcases hflag with h | h <;> omega)
    · simp [hpresent mdn hmeid hline] at hzero
  | @present mdn _ hflag hmdn hmeid hline hzero =>
    have hnot : ¬ Provisioned ctx call := fun h => by simp [h.not_present hline] at hzero
    constructor
    · rintro ⟨-, hsound⟩
      refine ⟨fun mdn' _ hline' _ => ?_, fun h => absurd h hnot, fun h => absurd h hnot⟩
      rw [Option.some.inj (hline'.symm.trans hline), ← hmdn]
      exact hsound hflag
    · intro hoffers
      have hgood := hoffers.present mdn hmeid hline hzero
      rw [hmdn]
      exact ⟨fun _ _ => ⟨rfl, hgood, mdn, .inl hline, rfl⟩, fun _ => hgood⟩
  | unconfirmed hflag hmdn hcall hline =>
    constructor
    · rintro ⟨hsets, -⟩
      refine ⟨fun mdn _ h1 hzero => ?_, fun _ mdn h4 => ?_, fun _ _ => ?_⟩
      · simp [hcall.not_present h1] at hzero
      · exact absurd (h4.symm.trans hline) nofun
      · by_contra hne
        exact absurd (hsets hne hflag).1 (by decide)
    · intro hoffers
      have h1 := hoffers.answered hcall hline
      exact ⟨fun hne => absurd h1 hne, fun _ => by rw [hmdn]; exact hctx h1⟩
  | @confirmed mdn _ hflag hmdn hcall hline =>
    constructor
    · rintro ⟨-, hsound⟩
      refine ⟨fun mdn' _ h1 hzero => ?_, fun _ mdn' h4 => ?_, fun _ h4 => ?_⟩
      · simp [hcall.not_present h1] at hzero
      · rw [Option.some.inj (h4.symm.trans hline), ← hmdn]
        exact hsound hflag
      · exact absurd (h4.symm.trans hline) nofun
    · intro hoffers
      have hgood := hoffers.confirmed hcall mdn hline
      rw [hmdn]
      exact ⟨fun _ _ => ⟨rfl, hgood, mdn, .inr hline, rfl⟩, fun _ => hgood⟩

/-- Nothing but a line that was read is ever stored. -/
theorem mdn_step (ctx : SessionCtx) (call : ActivationCall) :
    (activationStep ctx call).1.mdn = ctx.mdn ∨ call.Stores (activationStep ctx call).1.mdn := by
  rcases flagOutcome ctx call with ⟨ret, -, houtcome⟩
  generalize (activationStep ctx call).1 = ctx' at *
  cases houtcome with
  | kept hmdn hflag hpresent hcall => exact .inl hmdn
  | @present mdn _ hflag hmdn hmeid hline hzero => exact .inr ⟨mdn, .inl hline, hmdn⟩
  | unconfirmed hflag hmdn hcall hline => exact .inl hmdn
  | @confirmed mdn _ hflag hmdn hcall hline => exact .inr ⟨mdn, .inr hline, hmdn⟩

end Step

theorem mdn_run (ctx : SessionCtx) (calls : List ActivationCall) :
    (run activationStep ctx calls).1.mdn = ctx.mdn ∨
      ∃ call ∈ calls, call.Stores (run activationStep ctx calls).1.mdn := by
  induction calls generalizing ctx with
  | nil => exact .inl rfl
  | cons call calls ih =>
    rw [run_cons]
    dsimp only
    rcases ih (activationStep ctx call).1 with hkept | ⟨later, hmem, hstores⟩
    · rw [hkept]
      rcases mdn_step ctx call with hmdn | hstores
      · exact .inl hmdn
      · exact .inr ⟨call, List.mem_cons_self, hstores⟩
    · exact .inr ⟨later, List.mem_cons_of_mem _ hmem, hstores⟩

/-- Before the first number is read there is none. -/
theorem soundStates_iff {ctx : SessionCtx} (hmdn : ctx.mdn = .zero 32)
    (calls : List ActivationCall) :
    SoundStates ctx calls ↔
      Sound ctx ∧ Along activationStep (fun ctx call => Sound (activationStep ctx call).1) ctx calls := by
  rw [← forall_prefix_iff]
  refine forall₂_congr (fun before _ => forall_congr' (fun _ => ?_))
  refine and_iff_left_of_imp (fun hgood => ?_)
  rcases mdn_run ctx before with hkept | hstored
  · rw [hkept, hmdn] at hgood
    exact absurd hgood (by decide)
  · exact hstored

theorem safe_otaMessage : SafeArguments (ascii "^OTACMSG:8") none :=
  fun h => absurd h (by decide)

/-- A modem without a number that reports a successful provisioning call and does not answer
the query that should confirm it. -/
def unconfirmedCall : ActivationCall where
  env := { Environment.terse with
    replies := fun n =>
      if n = 0 then .answered [ascii "^MEID:a1000009", ascii "OK"] (by decide)
      else if n = 1 then .answered [ascii "+VMDN:0001234567", ascii "OK"] (by decide)
      else if n = 2 then .answered [ascii "user@vzw3g.com", ascii "OK"] (by decide)
      else if n = 3 then Environment.terse.replies n
      else .failed .timeout }
  reader := { ReaderThread.idle with
    asleep := fun n => if n = 4 then [⟨ascii "^OTACMSG:8", none, safe_otaMessage⟩] else [] }

end Fw100.Request
