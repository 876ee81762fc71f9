import Fw100.Request.Release

/-!
# Responses that are obtained and released

Most entry points of the driver free every response on all their exits. Three of them return
early without doing so; this is the exact condition under which they do not.
-/
namespace Fw100.Request
open Library Text Channel Session

variable {env : Environment}

/-! ### The exceptions -/

/-- Each response that was obtained has been released exactly once. -/
def ReleasedOnce (events : List Event) : Prop :=
  ∀ id, .obtained id ∈ events → events.count (.released id) = 1

theorem mem_obtained {events : List Event} {id : ℕ} :
    id ∈ responses.obtained events ↔ .obtained id ∈ events := by
  rw [Ledger.obtained, Multiset.mem_coe, List.mem_filterMap]
  constructor
  · rintro ⟨e, he, hid⟩
    cases e with
    | obtained n =>
      obtain rfl := Option.some.inj hid
      exact he
    | _ => cases hid
  · exact fun h => ⟨_, h, rfl⟩

theorem count_released (events : List Event) (id : ℕ) :
    (responses.released events).count id = events.count (.released id) := by
  induction events with
  | nil => rfl
  | cons e events ih =>
    cases e with
    | released n =>
      rw [responses.released_cons_some rfl, Multiset.count_cons, ih, List.count_cons]
      by_cases h : id = n
      · simp [h]
      · simp [h, Ne.symm h]
    | _ =>
      rw [responses.released_cons_none rfl, ih, List.count_cons_of_ne (by simp)]

/-- A call that ends with nothing held has released everything once, and one that ends with
something held has not. -/
theorem releasedOnce_iff {α : Type} {s : RequestState} {m : RilM α}
    {R : α → RequestState → Multiset ℕ → Prop} (h : responses.Accounts env s 0 m R) {a : α}
    (ha : (m env s).value = .ok a) :
    ∃ held, R a (m env s).state held ∧ (ReleasedOnce (m env s).events ↔ held = 0) := by
  rcases h a ha with ⟨held, htally, hR⟩
  refine ⟨held, hR, ?_⟩
  rw [← htally.released_once_iff]
  exact forall_congr' (fun id => by rw [mem_obtained, count_released])

theorem Frees.releasedOnce {α : Type} {m : RilM α} (h : Frees env 0 m) (s : RequestState) {a : α}
    (ha : (m env s).value = .ok a) : ReleasedOnce (m env s).events := by
  rcases releasedOnce_iff (h s 0) ha with ⟨held, hheld, hiff⟩
  exact hiff.mpr hheld

/-- The response that the command leaves to its caller. -/
def leftResponse : OutParam → Option ATResponse
  | .response r => some r
  | _ => none

/-- A query that leaves no response yields no line. -/
theorem replyLine_of_leftResponse {command responsePrefix : CString} {reply : Reply}
    (h : leftResponse (checked (.singleline command responsePrefix true) reply).2 = none) :
    replyLine command responsePrefix reply = none := by
  cases reply with
  | failed e => rfl
  | closed lines => rfl
  | answered lines hfinal =>
    set response := (Call.singleline command responsePrefix true).assemble lines with hresponse
    have hchecked : checked (.singleline command responsePrefix true) (.answered lines hfinal) =
        if response.success && response.intermediates.isEmpty then
          (atErrorInvalidResponse, .null) else (0, .response response) := rfl
    have hline : replyLine command responsePrefix (.answered lines hfinal) =
        if response.success then response.intermediates.head? else none := rfl
    rw [hchecked] at h
    rw [hline]
    by_cases hempty : (response.success && response.intermediates.isEmpty) = true
    · obtain ⟨hsuccess, hnil⟩ : response.success = true ∧ response.intermediates = [] := by
        simpa using hempty
      rw [hnil]
      simp
    · rw [if_neg hempty] at h
      cases h

theorem ids_of_leftResponse (id : ℕ) (out : OutParam) :
    (Pointer.store none id out).ids = if (leftResponse out).isSome then {id} else 0 := by
  cases out <;> rfl

/-! #### The version of the baseband -/

def VersionLeaks (env : Environment) (n : ℕ) : Prop :=
  (leftResponse (checked (.singleline (ascii "AT+CGMM") (ascii "+CGMM:") true)
    (env.replies n)).2).isSome = true

/-- What follows a query goes on holding what was held. -/
theorem accounts_query_holds {α : Type} {failed : ℤ → Bool} (hf : TestsZero failed)
    {command responsePrefix : CString} {p : Pointer} {s : RequestState} {held : Multiset ℕ}
    {f : Pointer × Option CString → RilM α} {id : ℕ} (hid : id ∈ held)
    (h : ∀ p line s' held', id ∈ held' →
      responses.Accounts env s' held' (f (p, line)) (fun _ _ held' => id ∈ held')) :
    responses.Accounts env s held (queryLine failed command responsePrefix p >>= f)
      (fun _ _ held' => id ∈ held') := by
  apply accounts_query_bind hf
  exact h _ _ _ _ (Multiset.mem_add.mpr (.inr hid))

theorem accounts_complete (t : Token) (e : RilErrno) (data : ResponseData) (s : RequestState)
    (held : Multiset ℕ) :
    responses.Accounts env s held (complete t e data) (fun _ _ held' => held' = held) :=
  ((idle_complete t e data).accounts s held).mono (fun _ _ _ h => h.2)

theorem accounts_complete_holds {t : Token} {e : RilErrno} {data : ResponseData} {s : RequestState}
    {held : Multiset ℕ} {id : ℕ} (hid : id ∈ held) :
    responses.Accounts env s held (complete t e data) (fun _ _ held' => id ∈ held') := by
  refine (accounts_complete t e data s held).mono ?_
  rintro _ _ _ rfl
  exact hid

theorem accounts_requestBasebandVersion (s : RequestState) (t : Token) :
    responses.Accounts env s 0 (requestBasebandVersion t)
      (fun _ _ held => held = 0 ↔ ¬ VersionLeaks env s.sent) := by
  refine Ledger.Accounts.bind (S := fun _ s' held' => s = s' ∧ held' = 0) ?_ ?_
  · rintro env' -
    exact ⟨0, .silent le_rfl rfl rfl 0, rfl, rfl⟩
  rintro env' _ _ ⟨rfl, rfl⟩
  apply accounts_query_bind testsZero_isNonzero
  dsimp only
  rw [ids_of_leftResponse, add_zero]
  by_cases hleaks : VersionLeaks env s.sent
  · rw [if_pos (show (leftResponse _).isSome = true from hleaks)]
    refine Ledger.Accounts.mono (R := fun _ _ held => s.sent ∈ held) ?_ ?_
    · have hid : s.sent ∈ ({s.sent} : Multiset ℕ) := Multiset.mem_singleton_self _
      split
      · exact accounts_complete_holds hid
      refine accounts_query_holds testsZero_isNonzero hid (fun p line s' held' hid => ?_)
      dsimp only
      split
      · exact accounts_complete_holds hid
      refine accounts_query_holds testsZero_isNonzero hid (fun p line s' held' hid => ?_)
      dsimp only
      split
      · exact accounts_complete_holds hid
      · exact accounts_complete_holds hid
    · rintro _ _ held hid
      refine iff_of_false ?_ (fun h => h hleaks)
      rintro rfl
      exact Multiset.notMem_zero _ hid
  · have hleft : leftResponse (checked (.singleline (ascii "AT+CGMM") (ascii "+CGMM:") true)
        (env.replies s.sent)).2 = none := by
      simpa [VersionLeaks] using hleaks
    rw [replyLine_of_leftResponse hleft, hleft]
    exact (accounts_complete t _ _ _ _).mono (fun _ _ _ h => iff_of_true h hleaks)

/-! #### The list of current calls -/

def CallsLeak (env : Environment) (n : ℕ) : Prop :=
  ∃ response, (unchecked (.multiline (ascii "AT+CLCC") (ascii "+CLCC:") true)
      (env.replies n)).2 = .response response ∧
    ((unchecked (.multiline (ascii "AT+CLCC") (ascii "+CLCC:") true) (env.replies n)).1 ≠ 0 ∨
      response.success = false)

def finishCurrentCalls (t : Token) (err : ℤ) (p : Pointer) : RilM Unit := do
  if ← succeeded isNonzero err p then
    match p with
    | none => Traced.fault .nullPointer
    | some held =>
      completeThenFree t .success (.calls (reportedCalls held.response.intermediates)) p
  else complete t .genericFailure .null

theorem accounts_finishCurrentCalls_none (t : Token) (err : ℤ) (s : RequestState) :
    responses.Accounts env s 0 (finishCurrentCalls t err none) (fun _ _ held => held = 0) := by
  apply Ledger.Accounts.bind ((idle_succeeded _ _ _).accounts s 0)
  rintro ok s' _ ⟨-, rfl⟩
  split
  · exact Traced.yields_fault
  · exact accounts_complete t _ _ s' 0

/-- A response is freed if it is a success, and kept if not. -/
theorem accounts_finishCurrentCalls_some (t : Token) (err : ℤ) (held : Held) (s : RequestState) :
    responses.Accounts env s {held.id} (finishCurrentCalls t err (some held))
      (fun _ _ held' => held' = 0 ↔ err = 0 ∧ held.response.success = true) := by
  refine Ledger.Accounts.bind (S := fun ok s' held' =>
    ok = (!isNonzero err && held.response.success) ∧ held' = {held.id}) (.pure ⟨rfl, rfl⟩) ?_
  rintro _ s' _ ⟨rfl, rfl⟩
  by_cases hok : err = 0 ∧ held.response.success = true
  · rw [if_pos (by simp [isNonzero, hok])]
    exact (frees_completeThenFree t _ _ (some held) s' 0).mono (fun _ _ _ h => iff_of_true h hok)
  · rw [if_neg (by simpa [isNonzero] using hok)]
    refine (accounts_complete t _ _ s' {held.id}).mono ?_
    rintro _ _ _ rfl
    exact iff_of_false (Multiset.singleton_ne_zero _) hok

theorem accounts_requestGetCurrentCallsEVDO (s : RequestState) (t : Token) :
    responses.Accounts env s 0 (requestGetCurrentCallsEVDO t)
      (fun _ _ held => held = 0 ↔ ¬ CallsLeak env s.sent) := by
  apply accounts_send_bind (f := fun x => finishCurrentCalls t x.1 x.2)
  dsimp only
  rw [add_zero, CallsLeak]
  generalize unchecked (.multiline (ascii "AT+CLCC") (ascii "+CLCC:") true)
    (env.replies s.sent) = x
  rcases x with ⟨err, out⟩
  cases out with
  | response r =>
    refine (accounts_finishCurrentCalls_some t err ⟨s.sent, r⟩ _).mono (fun _ _ _ h => h.trans ?_)
    simp
  | untouched =>
    exact (accounts_finishCurrentCalls_none t err _).mono (fun _ _ _ h => iff_of_true h (by simp))
  | null =>
    exact (accounts_finishCurrentCalls_none t err _).mono (fun _ _ _ h => iff_of_true h (by simp))

/-! #### The timer -/

def PollLeaks (command responsePrefix : CString) (saved : CharArray 64) (reply : Reply) : Prop :=
  (replyLine command responsePrefix reply).any (unchanged saved) = true

instance (command responsePrefix : CString) (saved : CharArray 64) (reply : Reply) :
    Decidable (PollLeaks command responsePrefix saved reply) :=
  inferInstanceAs (Decidable (_ = true))

/-- A poll that returns early for an unchanged line goes on holding the response. -/
theorem accounts_poll {failed : ℤ → Bool} (hf : TestsZero failed)
    {command responsePrefix : CString} {saved : CharArray 64}
    {f : Pointer × Option CString → RilM (CharArray 64)}
    (hunchanged : ∀ p line, unchanged saved line = true → f (p, some line) = pure saved)
    (hfrees : ∀ p line, line.any (unchanged saved) = false → Frees env p.ids (f (p, line)))
    (s : RequestState) (held : Multiset ℕ) :
    responses.Accounts env s held (queryLine failed command responsePrefix none >>= f)
      (fun _ _ held' => held' = (if PollLeaks command responsePrefix saved (env.replies s.sent)
        then {s.sent} else 0) + held) := by
  apply accounts_query_bind hf
  dsimp only
  by_cases hleaks : PollLeaks command responsePrefix saved (env.replies s.sent)
  · rw [if_pos hleaks]
    obtain ⟨line, hline, hsame⟩ := (Option.any_eq_true _ _).mp hleaks
    have hleft : (leftResponse (checked (.singleline command responsePrefix true)
        (env.replies s.sent)).2).isSome = true := by
      by_contra hnone
      rw [replyLine_of_leftResponse (by simpa using hnone)] at hline
      cases hline
    rw [hline, hunchanged _ _ hsame, ids_of_leftResponse, if_pos hleft]
    exact .pure rfl
  · rw [if_neg hleaks, zero_add]
    exact hfrees _ _ (by simpa [PollLeaks] using hleaks) _ _

theorem accounts_pollSignalStrength (saved : CharArray 64) (s : RequestState)
    (held : Multiset ℕ) :
    responses.Accounts env s held (pollSignalStrength saved) (fun _ _ held' =>
      held' = (if PollLeaks (ascii "AT+CSQ") (ascii "+CSQ:") saved (env.replies s.sent)
        then {s.sent} else 0) + held) := by
  refine accounts_poll testsZero_isNegative ?_ ?_ s held
  · intro p line hsame
    exact if_pos hsame
  · intro p line hchanged
    cases line with
    | none => exact .bind_idle (frees_atResponseFree p) (fun _ => .pure)
    | some line =>
      have hnot : ¬ unchanged saved line = true := by simpa using hchanged
      dsimp only
      rw [if_neg hnot]
      split
      · exact .bind_idle (frees_atResponseFree p) (fun _ => .pure)
      · exact .idle_bind (idle_notify _) (fun _ =>
          .bind_idle (frees_atResponseFree p) (fun _ => .pure))

theorem accounts_pollNetworkRegistration (saved : CharArray 64) (s : RequestState)
    (held : Multiset ℕ) :
    responses.Accounts env s held (pollNetworkRegistration saved) (fun _ _ held' =>
      held' = (if PollLeaks (ascii "AT+CREG?") (ascii "+CREG:") saved (env.replies s.sent)
        then {s.sent} else 0) + held) := by
  refine accounts_poll testsZero_isNonzero ?_ ?_ s held
  · intro p line hsame
    exact if_pos hsame
  · intro p line hchanged
    cases line with
    | none => exact .bind_idle (frees_atResponseFree p) (fun _ => .pure)
    | some line =>
      have hnot : ¬ unchanged saved line = true := by simpa using hchanged
      dsimp only
      rw [if_neg hnot]
      exact .idle_bind (idle_notify _) (fun _ =>
        .bind_idle (frees_atResponseFree p) (fun _ => .pure))

def TimerLeaks (env : Environment) (saved : PollSaved) (n : ℕ) : Prop :=
  PollLeaks (ascii "AT+CSQ") (ascii "+CSQ:") saved.csq (env.replies n) ∨
    PollLeaks (ascii "AT+CREG?") (ascii "+CREG:") saved.creg (env.replies (n + 1))

/-- The poll returns, and it has sent one command. -/
theorem ends_pollSignalStrength (saved : CharArray 64) (s : RequestState) :
    Traced.Ends env s (pollSignalStrength saved) (fun _ s' _ => s'.sent = s.sent + 1) := by
  rw [pollSignalStrength, ends_query_bind testsZero_isNegative]
  dsimp only
  split
  · simp
  · split
    · simp
    · split
      · simp
      · simp

theorem ends_pollNetworkRegistration (saved : CharArray 64) (s : RequestState) :
    Traced.Ends env s (pollNetworkRegistration saved) (fun _ _ _ => True) := by
  rw [pollNetworkRegistration, ends_query_bind testsZero_isNonzero]
  dsimp only
  split
  · simp
  · split
    · simp
    · simp

theorem idle_writeTestSentences : Idle env writeTestSentences := by
  have htty : ∀ ctx : SessionCtx, Idle env
      (if ctx.gpsTtyEnable then Traced.emit (.writeGPSTty gpsTestGpgsa) else pure ()) :=
    fun ctx => .ite (.emit rfl rfl) .pure
  refine .bind idle_getCtx (fun ctx => .ite (.bind (.emit rfl rfl) (fun _ => ?_)) ?_)
  · exact htty ctx
  · exact htty ctx

theorem ends_writeTestSentences (s : RequestState) :
    Traced.Ends env s writeTestSentences (fun _ _ _ => True) := by
  rw [writeTestSentences, Traced.ends_bind, ends_getCtx]
  cases s.ctx.gpsFifoEnable <;> cases s.ctx.gpsTtyEnable <;> simp

theorem accounts_fw100ModemTimer (saved : PollSaved) (s : RequestState) :
    responses.Accounts env s 0 (fw100ModemTimer saved)
      (fun _ _ held => held = 0 ↔ ¬ TimerLeaks env saved s.sent) := by
  apply Ledger.Accounts.bind ((accounts_pollSignalStrength saved.csq s 0).and
    (ends_pollSignalStrength saved.csq s).yields)
  rintro csq s' _ ⟨rfl, hsent⟩
  apply Ledger.Accounts.bind (accounts_pollNetworkRegistration saved.creg s' _)
  rintro creg s'' _ rfl
  apply Ledger.Accounts.bind (idle_writeTestSentences.accounts s'' _)
  rintro _ _ _ ⟨-, rfl⟩
  apply Ledger.Accounts.pure
  rw [hsent, TimerLeaks, not_or]
  by_cases hcsq : PollLeaks (ascii "AT+CSQ") (ascii "+CSQ:") saved.csq (env.replies s.sent) <;>
    by_cases hcreg : PollLeaks (ascii "AT+CREG?") (ascii "+CREG:") saved.creg
      (env.replies (s.sent + 1)) <;>
    simp [hcsq, hcreg]

theorem ends_fw100ModemTimer (saved : PollSaved) (s : RequestState) :
    Traced.Ends env s (fw100ModemTimer saved) (fun _ _ _ => True) := by
  rw [fw100ModemTimer, Traced.ends_bind]
  refine (ends_pollSignalStrength saved.csq s).mono (fun csq s' _ _ => ?_)
  rw [Traced.ends_bind]
  refine (ends_pollNetworkRegistration saved.creg s').mono (fun creg s'' _ _ => ?_)
  rw [Traced.ends_bind]
  refine (ends_writeTestSentences s'').mono (fun _ _ _ _ => ?_)
  exact Traced.ends_pure.mpr trivial

/-! ### Every entry point -/

/-- If the call returns, each response that it obtained has been released exactly once. -/
def Balanced (env : Environment) (ctx : SessionCtx) (entry : EntryPoint) : Prop :=
  (entry.call env ⟨ctx, 0⟩).value = .ok () → ReleasedOnce (entry.call env ⟨ctx, 0⟩).events

/-- The entry point comes to none of the exits that keep a response. -/
def ReleasesAll (env : Environment) (ctx : SessionCtx) : EntryPoint → Prop
  | .dispatched (.request .basebandVersion _) => ctx.sState = .off ∨ ¬ VersionLeaks env 0
  | .dispatched (.request .getCurrentCalls _) => ctx.sState = .off ∨ ¬ CallsLeak env 0
  | .mainLoop (.modemTimer saved) => ¬ TimerLeaks env saved 0
  | _ => True

theorem balanced_of_frees {env : Environment} {ctx : SessionCtx} {entry : EntryPoint}
    (h : Frees env 0 entry.call) : Balanced env ctx entry :=
  fun hvalue => h.releasedOnce _ hvalue

/-- For an entry point that returns. -/
theorem balanced_iff {ctx : SessionCtx} {entry : EntryPoint} {p : Prop}
    (hends : Traced.Ends env ⟨ctx, 0⟩ entry.call (fun _ _ _ => True))
    (h : responses.Accounts env ⟨ctx, 0⟩ 0 entry.call (fun _ _ held => held = 0 ↔ p)) :
    Balanced env ctx entry ↔ p := by
  rcases hends with ⟨⟨⟩, hvalue, -⟩
  rcases releasedOnce_iff h hvalue with ⟨held, hheld, hiff⟩
  rw [Balanced, forall_prop_of_true hvalue, hiff, hheld]

/-- What the gate lets through is the handler's own affair. -/
theorem accounts_onRequest {ctx : SessionCtx} {r : RilRequest} {t : Token} {p : Prop}
    (hoff : r.servedWhenOff = false)
    (h : responses.Accounts env ⟨ctx, 0⟩ 0 (handle t r) (fun _ _ held => held = 0 ↔ p)) :
    responses.Accounts env ⟨ctx, 0⟩ 0 (onRequest r t)
      (fun _ _ held => held = 0 ↔ ctx.sState = .off ∨ p) := by
  by_cases hgate : ctx.sState = .off
  · rw [Ledger.Accounts, Traced.Yields, onRequest_gated hgate hoff t]
    exact (accounts_complete t _ _ _ _).mono (fun _ _ _ hr => iff_of_true hr (.inl hgate))
  · rw [Ledger.Accounts, Traced.Yields, onRequest_open hgate r t]
    exact h.mono (fun _ _ _ hr => hr.trans (by simp [hgate]))

theorem ends_onRequest_of_completes {ctx : SessionCtx} {r : RilRequest} {t : Token}
    (h : Completes env t (handle t r)) :
    Traced.Ends env ⟨ctx, 0⟩ (onRequest r t) (fun _ _ _ => True) := by
  have hcompletes : Completes env t (onRequest r t) :=
    .silent_bind quiet_getCtx (fun _ _ => .ite (fun _ => completes_complete _ _ _) (fun _ => h))
  exact (hcompletes _).mono (fun _ _ _ _ => trivial)

theorem frees_onRequest {r : RilRequest} (hversion : r ≠ .basebandVersion)
    (hcalls : r ≠ .getCurrentCalls) (t : Token) : Frees env 0 (onRequest r t) :=
  .idle_bind idle_getCtx (fun _ => .ite (idle_complete _ _ _).frees (frees_handle t hcalls hversion))

/-- **When every response is released once.** For every entry point, session state and
environment. -/
theorem responses_released_once_iff (env : Environment) (ctx : SessionCtx) (entry : EntryPoint) :
    Balanced env ctx entry ↔ ReleasesAll env ctx entry := by
  cases entry with
  | dispatched c =>
    cases c with
    | init => exact iff_of_true (balanced_of_frees frees_initializeCallback) trivial
    | request r t =>
      by_cases hversion : r = .basebandVersion
      · subst hversion
        exact balanced_iff (ends_onRequest_of_completes (completes_requestBasebandVersion t))
          (accounts_onRequest rfl (accounts_requestBasebandVersion _ t))
      by_cases hcalls : r = .getCurrentCalls
      · subst hcalls
        exact balanced_iff (ends_onRequest_of_completes (completes_requestGetCurrentCallsEVDO t))
          (accounts_onRequest rfl (accounts_requestGetCurrentCallsEVDO _ t))
      refine iff_of_true (balanced_of_frees (frees_onRequest hversion hcalls t)) ?_
      cases r <;> trivial
  | mainLoop c =>
    cases c with
    | modemTimer saved =>
      refine balanced_iff ?_ ?_
      · exact Traced.ends_bind.mpr ((ends_fw100ModemTimer saved _).mono (fun _ _ _ _ =>
          Traced.ends_pure.mpr trivial))
      · exact Ledger.Accounts.bind (accounts_fw100ModemTimer saved _) (fun _ _ _ h => .pure h)
    | activateHelper reader =>
      refine iff_of_true (balanced_of_frees ?_) trivial
      exact .bind_idle (frees_activateHelper reader) (fun _ => .pure)

def steadySignal : Environment :=
  { Environment.terse with
    replies := fun n => if n = 0 then .answered [ascii "+CSQ:20,99", ascii "OK"] (by decide)
      else Environment.terse.replies n }

/-- The poll of an unchanged signal strength returns with the response that it obtained. -/
theorem unchanged_poll_keeps_response :
    let saved : PollSaved := ⟨.copy 64 (ascii "+CSQ:20,99"), .zero 64⟩
    let run := (EntryPoint.mainLoop (.modemTimer saved)).call steadySignal ⟨radioOnCtx, 0⟩
    run.value = .ok () ∧ run.events.count (.obtained 0) = 1 ∧ run.events.count (.released 0) = 0 ∧
      ¬ Balanced steadySignal radioOnCtx (.mainLoop (.modemTimer saved)) := by
  intro saved run
  have hvalue : run.value = .ok () := by decide
  have hobtained : run.events.count (.obtained 0) = 1 := by decide
  have hreleased : run.events.count (.released 0) = 0 := by decide
  refine ⟨hvalue, hobtained, hreleased, ?_⟩
  intro hbalanced
  have hmem : .obtained 0 ∈ run.events := List.count_pos_iff.mp (hobtained ▸ Nat.one_pos)
  exact absurd (hreleased.symm.trans (hbalanced hvalue 0 hmem)) (by decide)

end Fw100.Request
