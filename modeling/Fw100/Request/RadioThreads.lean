import Fw100.Library.Machine
import Fw100.Request.Radio

/-!
# The radio state under several threads

`setRadioState` runs on the request thread and on the thread that notices the end of the
channel. Every access to the shared fields is a step of its own here. The mutex keeps two
threads out of the section that decides on the new state, but the end of the channel is
marked without it.
-/
namespace Fw100.Request
open Library Session

/-- The next access of a thread inside `setRadioState`, `onATReaderClosed` or `onATTimeout`. -/
inductive Position where
  | atClose
  | storeClosed
  | lock (newState : RadioState)
  | readState (newState : RadioState)
  | testClosed (oldState newState : RadioState)
  | compare (oldState newState : RadioState)
  | retestClosed (oldState newState : RadioState)
  | store (oldState newState : RadioState)
  | unlock (oldState : RadioState)
  | announce (oldState : RadioState)
  | testSimReady
  | testSimNotReady
deriving DecidableEq, Repr

def Position.inside : Position → Bool
  | .readState _ | .testClosed _ _ | .compare _ _ | .retestClosed _ _ | .store _ _ | .unlock _ => true
  | _ => false

def Position.newState : Position → Option RadioState
  | .lock newState | .readState newState | .testClosed _ newState | .compare _ newState
  | .retestClosed _ newState | .store _ newState => some newState
  | _ => none

/-- The same, once the first test of `s_closed` lies behind. -/
def Position.decided : Position → Option RadioState
  | .compare _ newState | .retestClosed _ newState | .store _ newState => some newState
  | _ => none

/-- The shared fields and the threads, of which `none` stands outside of all three functions. -/
structure Radio (τ : Type) where
  sState : RadioState
  closed : Bool
  holder : Option τ
  thread : τ → Option Position

inductive RadioEvent (τ : Type) where
  | setRadioState (t : τ) (newState : RadioState)
  | onATReaderClosed (t : τ)
  | onATTimeout (t : τ)
  | advance (t : τ)
  /-- `mainLoop` stores `s_closed = 0`. -/
  | reopen
deriving DecidableEq, Repr

inductive RadioOutput where
  | atClose
  | broadcast
  | radioStateChanged
  | onSIMReady
  | onRadioPowerOn
deriving DecidableEq, Repr

namespace Radio
variable {τ : Type} [DecidableEq τ]

/-- The state that `initSessionContext` leaves, with no thread inside. -/
def init (τ : Type) : Radio τ := ⟨.off, false, none, fun _ => none⟩

def currentState (s : Radio τ) : RadioState := s.sState

def moveTo (s : Radio τ) (t : τ) (position : Option Position) : Radio τ :=
  { s with thread := Function.update s.thread t position }

def call (s : Radio τ) (t : τ) (position : Position) : Radio τ :=
  if s.thread t = none then s.moveTo t (some position) else s

/-- One access of the thread that stands at this position. -/
def access (s : Radio τ) (t : τ) : Position → Radio τ × List RadioOutput
  | .atClose => (s.moveTo t (some .storeClosed), [.atClose])
  | .storeClosed => ({ s.moveTo t (some (.lock .unavailable)) with closed := true }, [])
  | .lock newState =>
    if s.holder = none then
      ({ s.moveTo t (some (.readState newState)) with holder := some t }, [])
    else (s, [])
  | .readState newState => (s.moveTo t (some (.testClosed s.sState newState)), [])
  | .testClosed oldState newState =>
    (s.moveTo t (some (.compare oldState (if s.closed then .unavailable else newState))), [])
  | .compare oldState newState =>
    if s.sState ≠ newState then (s.moveTo t (some (.store oldState newState)), [])
    else (s.moveTo t (some (.retestClosed oldState newState)), [])
  | .retestClosed oldState newState =>
    if s.closed then (s.moveTo t (some (.store oldState newState)), [])
    else (s.moveTo t (some (.unlock oldState)), [])
  | .store oldState newState =>
    ({ s.moveTo t (some (.unlock oldState)) with sState := newState }, [.broadcast])
  | .unlock oldState => ({ s.moveTo t (some (.announce oldState)) with holder := none }, [])
  | .announce oldState =>
    if s.sState ≠ oldState then (s.moveTo t (some .testSimReady), [.radioStateChanged])
    else (s.moveTo t none, [])
  | .testSimReady =>
    if s.sState = .simReady then (s.moveTo t none, [.onSIMReady])
    else (s.moveTo t (some .testSimNotReady), [])
  | .testSimNotReady =>
    if s.sState = .simNotReady then (s.moveTo t none, [.onRadioPowerOn])
    else (s.moveTo t none, [])

def step (s : Radio τ) : RadioEvent τ → Radio τ × List RadioOutput
  | .setRadioState t newState => (s.call t (.lock newState), [])
  | .onATReaderClosed t => (s.call t .atClose, [])
  | .onATTimeout t => (s.call t .atClose, [])
  | .advance t => ((s.thread t).elim (s, []) (s.access t))
  | .reopen => ({ s with closed := false }, [])

section Moves
variable {s : Radio τ} {t u : τ} {position : Option Position} {p : Position}

@[simp] theorem moveTo_thread :
    (s.moveTo t position).thread u = if u = t then position else s.thread u :=
  Function.update_apply _ _ _ _

@[simp] theorem moveTo_sState : (s.moveTo t position).sState = s.sState := rfl

@[simp] theorem moveTo_closed : (s.moveTo t position).closed = s.closed := rfl

@[simp] theorem moveTo_holder : (s.moveTo t position).holder = s.holder := rfl

theorem access_thread_of_ne (h : u ≠ t) : (s.access t p).1.thread u = s.thread u := by
  cases p <;> simp only [access] <;> (try split) <;> simp [h]

/-- A step other than `mainLoop`'s store is a call, which starts outside the section, or an
access. -/
theorem step_induction {P : Radio τ → Prop} (hs : P s)
    (hcall : ∀ t p, p.inside = false → p.decided = none → P (s.call t p))
    (haccess : ∀ t p, s.thread t = some p → P (s.access t p).1) {e : RadioEvent τ}
    (he : e ≠ .reopen) : P (s.step e).1 := by
  cases e with
  | setRadioState t newState => exact hcall t _ rfl rfl
  | onATReaderClosed t => exact hcall t _ rfl rfl
  | onATTimeout t => exact hcall t _ rfl rfl
  | advance t =>
    cases hp : s.thread t with
    | none => simpa [step, hp] using hs
    | some p => simpa [step, hp] using haccess t p hp
  | reopen => exact absurd rfl he

theorem call_cases (s : Radio τ) (t : τ) (p : Position) :
    s.call t p = s ∨ s.thread t = none ∧ s.call t p = s.moveTo t (some p) := by
  by_cases hidle : s.thread t = none
  · exact .inr ⟨hidle, if_pos hidle⟩
  · exact .inl (if_neg hidle)

theorem access_closed (h : s.closed = true) : (s.access t p).1.closed = true := by
  cases p <;> simp only [access] <;> (try split) <;> simp [h]

end Moves

/-! ### The mutex -/

def Exclusive (s : Radio τ) : Prop :=
  ∀ t p, s.thread t = some p → p.inside = true → s.holder = some t

omit [DecidableEq τ] in
theorem exclusive_init : Exclusive (init τ) := by
  intro t p hp
  cases hp

theorem Exclusive.moveTo {s : Radio τ} (h : Exclusive s) {t : τ} {position : Option Position}
    (ht : ∀ p, position = some p → p.inside = true → s.holder = some t) :
    Exclusive (s.moveTo t position) := by
  intro u p hp hinside
  by_cases hu : u = t
  · subst hu
    exact ht p (by simpa using hp) hinside
  · exact h u p (by simpa [hu] using hp) hinside

theorem Exclusive.call {s : Radio τ} (h : Exclusive s) (t : τ) {p : Position}
    (hp : p.inside = false) : Exclusive (s.call t p) := by
  rcases call_cases s t p with hcall | ⟨-, hcall⟩
  · rw [hcall]
    exact h
  · rw [hcall]
    apply h.moveTo
    intro q hq hinside
    cases hq
    simp [hp] at hinside

/-- The thread that takes the mutex finds nobody inside. -/
theorem Exclusive.take {s : Radio τ} (h : Exclusive s) (hfree : s.holder = none) (t : τ)
    (position : Option Position) :
    Exclusive { s.moveTo t position with holder := some t } := by
  intro u p hp hinside
  by_cases hu : u = t
  · rw [hu]
  · have hold := h u p (by simpa [hu] using hp) hinside
    simp [hfree] at hold

/-- The thread that gives the mutex back was alone inside. -/
theorem Exclusive.give {s : Radio τ} (h : Exclusive s) {t : τ} (hheld : s.holder = some t)
    {p : Position} (hp : p.inside = false) :
    Exclusive { s.moveTo t (some p) with holder := none } := by
  intro u q hq hinside
  by_cases hu : u = t
  · obtain rfl : p = q := by simpa [hu] using hq
    simp [hp] at hinside
  · have hold := h u q (by simpa [hu] using hq) hinside
    exact absurd (Option.some.inj (hold.symm.trans hheld)) hu

theorem Exclusive.access {s : Radio τ} (h : Exclusive s) {t : τ} {p : Position}
    (hp : s.thread t = some p) : Exclusive (s.access t p).1 := by
  have stays : ∀ position, (∀ q, position = some q → q.inside = true → p.inside = true) →
      Exclusive (s.moveTo t position) := fun position hq =>
    h.moveTo (fun q hpos hinside => h t p hp (hq q hpos hinside))
  cases p with
  | atClose => exact stays _ (by rintro _ ⟨⟩ hq; exact hq)
  | storeClosed => exact stays (some (.lock .unavailable)) (by rintro _ ⟨⟩ hq; exact hq)
  | lock newState =>
    simp only [Radio.access]
    split
    · next hfree => exact h.take hfree t _
    · exact h
  | readState newState => exact stays _ (fun _ _ _ => rfl)
  | testClosed oldState newState => exact stays _ (fun _ _ _ => rfl)
  | compare oldState newState =>
    simp only [Radio.access]
    split
    · exact stays _ (fun _ _ _ => rfl)
    · exact stays _ (fun _ _ _ => rfl)
  | retestClosed oldState newState =>
    simp only [Radio.access]
    split
    · exact stays _ (fun _ _ _ => rfl)
    · exact stays _ (fun _ _ _ => rfl)
  | store oldState newState => exact stays (some (.unlock oldState)) (fun _ _ _ => rfl)
  | unlock oldState => exact h.give (h t _ hp rfl) rfl
  | announce oldState =>
    simp only [Radio.access]
    split
    · exact stays _ (by rintro _ ⟨⟩ hq; exact hq)
    · exact stays none nofun
  | testSimReady =>
    simp only [Radio.access]
    split
    · exact stays none nofun
    · exact stays _ (by rintro _ ⟨⟩ hq; exact hq)
  | testSimNotReady =>
    simp only [Radio.access]
    split
    · exact stays none nofun
    · exact stays none nofun

theorem Exclusive.step {s : Radio τ} (h : Exclusive s) (e : RadioEvent τ) :
    Exclusive (s.step e).1 := by
  by_cases he : e = .reopen
  · rw [he]
    exact h
  · exact step_induction h (fun t _ hp _ => h.call t hp) (fun _ _ hp => h.access hp) he

/-! ### After the end of the channel -/

/-- The channel is closed and no thread is left that would store another state. -/
structure Settled (s : Radio τ) : Prop where
  closed : s.closed = true
  state : s.sState = .unavailable
  decided : ∀ t p state, s.thread t = some p → p.decided = some state → state = .unavailable

theorem Settled.moveTo {s : Radio τ} (h : Settled s) {t : τ} {position : Option Position}
    (ht : ∀ p state, position = some p → p.decided = some state → state = .unavailable) :
    Settled (s.moveTo t position) := by
  refine ⟨h.closed, h.state, fun u p state hp hstate => ?_⟩
  by_cases hu : u = t
  · exact ht p state (by simpa [hu] using hp) hstate
  · exact h.decided u p state (by simpa [hu] using hp) hstate

theorem Settled.call {s : Radio τ} (h : Settled s) (t : τ) {p : Position}
    (hp : p.decided = none) : Settled (s.call t p) := by
  rcases call_cases s t p with hcall | ⟨-, hcall⟩
  · rw [hcall]
    exact h
  · rw [hcall]
    apply h.moveTo
    rintro _ state ⟨⟩ hstate
    simp [hp] at hstate

theorem Settled.access {s : Radio τ} (h : Settled s) {t : τ} {p : Position}
    (hp : s.thread t = some p) : Settled (s.access t p).1 := by
  have undecided : ∀ q : Position, q.decided = none → Settled (s.moveTo t (some q)) := by
    intro q hq
    apply h.moveTo
    rintro _ state ⟨⟩ hstate
    simp [hq] at hstate
  have kept : ∀ q : Position, q.decided = p.decided → Settled (s.moveTo t (some q)) := by
    intro q hq
    apply h.moveTo
    rintro _ state ⟨⟩ hstate
    exact h.decided t p state hp (hq ▸ hstate)
  have gone : Settled (s.moveTo t none) := h.moveTo nofun
  cases p with
  | atClose => exact undecided _ rfl
  | storeClosed =>
    have hmoved := undecided (.lock .unavailable) rfl
    exact ⟨rfl, hmoved.state, hmoved.decided⟩
  | lock newState =>
    simp only [Radio.access]
    split
    · have hmoved := undecided (.readState newState) rfl
      exact ⟨hmoved.closed, hmoved.state, hmoved.decided⟩
    · exact h
  | readState newState => exact undecided _ rfl
  | testClosed oldState newState =>
    simp only [Radio.access, h.closed, if_true]
    apply h.moveTo
    rintro _ state ⟨⟩ hstate
    exact (Option.some.inj hstate).symm
  | compare oldState newState =>
    simp only [Radio.access]
    split
    · exact kept _ rfl
    · exact kept _ rfl
  | retestClosed oldState newState =>
    simp only [Radio.access]
    split
    · exact kept _ rfl
    · exact undecided _ rfl
  | store oldState newState =>
    have hmoved := undecided (.unlock oldState) rfl
    exact ⟨hmoved.closed, h.decided t _ newState hp rfl, hmoved.decided⟩
  | unlock oldState =>
    have hmoved := undecided (.announce oldState) rfl
    exact ⟨hmoved.closed, hmoved.state, hmoved.decided⟩
  | announce oldState =>
    simp only [Radio.access]
    split
    · exact undecided _ rfl
    · exact gone
  | testSimReady =>
    simp only [Radio.access]
    split
    · exact gone
    · exact undecided _ rfl
  | testSimNotReady =>
    simp only [Radio.access]
    split
    · exact gone
    · exact gone

theorem Settled.step {s : Radio τ} (h : Settled s) {e : RadioEvent τ} (he : e ≠ .reopen) :
    Settled (s.step e).1 :=
  step_induction h (fun t _ _ hp => h.call t hp) (fun _ _ hp => h.access hp) he

/-- The thread is on its way to store that the radio is unavailable. -/
def Underway (c : τ) (s : Radio τ) : Prop :=
  s.closed = true ∧ ∃ p, s.thread c = some p ∧ p.newState = some .unavailable

/-- From its store of `s_closed` on, the closing thread is underway or has settled the state. -/
def Closing (c : τ) (s : Radio τ) : Prop := Underway c s ∨ Settled s

/-- Nobody else is inside when the closing thread stores. -/
theorem settled_store {s : Radio τ} (hex : Exclusive s) {c : τ} {oldState : RadioState}
    (hclosed : s.closed = true) (hc : s.thread c = some (.store oldState .unavailable)) :
    Settled (s.access c (.store oldState .unavailable)).1 := by
  refine ⟨hclosed, rfl, fun u p state hp hstate => ?_⟩
  by_cases hu : u = c
  · obtain rfl : .unlock oldState = p := by simpa [Radio.access, hu] using hp
    cases hstate
  · have hinside : p.inside = true := by
      cases p <;> first | rfl | cases hstate
    have hholder := hex u p (by simpa [Radio.access, hu] using hp) hinside
    rw [hex c _ hc rfl] at hholder
    exact absurd (Option.some.inj hholder).symm hu

/-- The closing thread does not skip its store: it tests `s_closed` again. -/
theorem closing_access {s : Radio τ} (hex : Exclusive s) {c : τ} (hclosed : s.closed = true)
    {p : Position} (hc : s.thread c = some p) (hnew : p.newState = some .unavailable) :
    Closing c (s.access c p).1 := by
  have onward : ∀ q : Position, q.newState = some .unavailable →
      Closing c (s.moveTo c (some q)) := fun q hq => .inl ⟨hclosed, q, by simp, hq⟩
  cases p with
  | lock newState =>
    simp only [Radio.access]
    split
    · exact .inl ⟨hclosed, .readState newState, by simp, hnew⟩
    · exact .inl ⟨hclosed, _, hc, hnew⟩
  | readState newState => exact onward _ hnew
  | testClosed oldState newState =>
    simp only [Radio.access, hclosed, if_true]
    exact onward _ rfl
  | compare oldState newState =>
    simp only [Radio.access]
    split
    · exact onward _ hnew
    · exact onward _ hnew
  | retestClosed oldState newState =>
    simp only [Radio.access, hclosed, if_true]
    exact onward _ hnew
  | store oldState newState =>
    obtain rfl : newState = .unavailable := Option.some.inj hnew
    exact .inr (settled_store hex hclosed hc)
  | _ => cases hnew

theorem Closing.step {s : Radio τ} (hex : Exclusive s) {c : τ} (h : Closing c s)
    {e : RadioEvent τ} (he : e ≠ .reopen) : Closing c (s.step e).1 := by
  rcases h with ⟨hclosed, p, hc, hnew⟩ | hsettled
  · have kept : ∀ s' : Radio τ, s'.closed = true → s'.thread c = s.thread c → Closing c s' :=
      fun s' hclosed' hthread => .inl ⟨hclosed', p, hthread.trans hc, hnew⟩
    refine step_induction (kept s hclosed rfl) ?_ ?_ he
    · intro t q _ _
      rcases call_cases s t q with hcall | ⟨hidle, hcall⟩
      · rw [hcall]
        exact kept s hclosed rfl
      · have hne : c ≠ t := by
          rintro rfl
          simp [hidle] at hc
        rw [hcall]
        exact kept _ hclosed (by simp [hne])
    · intro t q hq
      by_cases ht : c = t
      · subst ht
        obtain rfl : p = q := by simpa [hc] using hq
        exact closing_access hex hclosed hc hnew
      · exact kept _ (access_closed hclosed) (access_thread_of_ne ht)
  · exact .inr (hsettled.step he)

theorem exclusive_run {s : Radio τ} (h : Exclusive s) (es : List (RadioEvent τ)) :
    Exclusive (run step s es).1 :=
  Along.invariant_run (Q := fun _ _ => True) Exclusive (fun _ e hs _ => hs.step e) h
    (.of_forall (fun _ _ => trivial))

/-- Nothing but `mainLoop`'s store ends what closing has begun. -/
theorem along_ne_reopen (s : Radio τ) {es : List (RadioEvent τ)} (h : .reopen ∉ es) :
    Along step (fun _ e => e ≠ .reopen) s es :=
  .of_forall (fun _ he heq => h (heq ▸ he))

theorem closing_run {s : Radio τ} (hex : Exclusive s) {c : τ} (h : Closing c s)
    {es : List (RadioEvent τ)} (hes : .reopen ∉ es) : Closing c (run step s es).1 :=
  (Along.invariant_run (fun s => Exclusive s ∧ Closing c s)
    (fun _ e hs he => ⟨hs.1.step e, hs.2.step hs.1 he⟩) ⟨hex, h⟩ (along_ne_reopen s hes)).2

theorem settled_run {s : Radio τ} (h : Settled s) {es : List (RadioEvent τ)}
    (hes : .reopen ∉ es) : Settled (run step s es).1 :=
  Along.invariant_run Settled (fun _ _ hs he => hs.step he) h (along_ne_reopen s hes)

/-- A thread that stands at the store of `s_closed` in `onATReaderClosed` or `onATTimeout`
has made the radio unavailable when it returns, and so it stays until `mainLoop` opens the
channel again. That ends the claim on the state, also when `mainLoop` comes to it between the
store of `s_closed` and the return. -/
theorem closed_stays_unavailable (c : τ) (before call after : List (RadioEvent τ))
    (hstart : (run step (init τ) before).1.thread c = some .storeClosed)
    (hreturn : (run step (init τ) (before ++ .advance c :: call)).1.thread c = none)
    (hopen : .reopen ∉ call ++ after) :
    (run step (init τ) (before ++ .advance c :: call ++ after)).1.currentState =
      .unavailable := by
  have hex := exclusive_run exclusive_init before
  obtain ⟨hcall, hafter⟩ : .reopen ∉ call ∧ .reopen ∉ after := by simpa using hopen
  rw [run_append] at hreturn ⊢
  rw [run_append]
  generalize (run step (init τ) before).1 = s at *
  have hstored : Closing c (s.step (.advance c)).1 :=
    .inl (by simp [Underway, Radio.step, hstart, access, Position.newState])
  rcases closing_run (hex.step _) hstored hcall with ⟨-, p, hp, -⟩ | hsettled
  · simp_all
  · exact (settled_run hsettled hafter).state

/-- The request thread tests `s_closed` just before it is set, and stores the state it has
decided on before the closing thread gets the mutex. -/
theorem closed_stays_unavailable_between_tests :
    let before : List (RadioEvent Bool) :=
      [.setRadioState false .simReady, .advance false, .advance false, .advance false,
        .onATReaderClosed true, .advance true]
    let call : List (RadioEvent Bool) :=
      List.replicate 3 (.advance false) ++ List.replicate 9 (.advance true)
    let after : List (RadioEvent Bool) :=
      .setRadioState false .simNotReady :: List.replicate 9 (.advance false)
    (run step (init Bool) (before ++ .advance true :: List.replicate 3 (.advance false))).1.sState =
        .simReady ∧
      (run step (init Bool) (before ++ .advance true :: call ++ after)).1.currentState =
        .unavailable :=
  ⟨by decide, closed_stays_unavailable true _ _ _ (by decide) (by decide) (by decide)⟩

/-- A thread that nobody interrupts leaves the state that the handlers' `setRadioState`
leaves. -/
theorem setRadioState_alone (s : Radio τ) (t : τ) (hidle : s.thread t = none)
    (hfree : s.holder = none) (newState : RadioState) (env : Environment) (ctx : SessionCtx)
    (hclosed : ctx.closed = s.closed) :
    (run step s (.setRadioState t newState :: List.replicate 10 (.advance t))).1.sState =
      (Request.setRadioState newState env ⟨ctx, 0⟩).state.ctx.sState := by
  rw [setRadioState_ctx, hclosed]
  simp only [List.replicate, run_cons, run_nil, step, call, hidle, if_true, moveTo_thread,
    Option.elim, access, moveTo_holder, hfree]
  by_cases hc : s.closed = true
  · by_cases hs : s.sState = .unavailable
    · simp [hc, hs, access]
    · simp [hc, hs, access, Ne.symm hs]
  · by_cases hs : s.sState = newState
    · simp [hc, hs, access]
    · cases newState <;> simp [hc, hs, access, Ne.symm hs]

end Radio

end Fw100.Request
