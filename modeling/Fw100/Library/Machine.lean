import Mathlib.Data.List.Basic

/-!
# Runs of deterministic machines with output

A machine takes one event at a time and answers with a new state and an output.
A property of single steps holds `Along` a run when it holds of every step taken
in it, at the state in which that step is taken.
-/
namespace Fw100.Library

variable {σ ε ω : Type*}

/-- The state after a list of events, with the outputs in order. -/
def run (step : σ → ε → σ × ω) : σ → List ε → σ × List ω
  | s, [] => (s, [])
  | s, e :: es =>
    let later := run step (step s e).1 es
    (later.1, (step s e).2 :: later.2)

variable (step : σ → ε → σ × ω)

@[simp] theorem run_nil (s : σ) : run step s [] = (s, []) := rfl

@[simp] theorem run_cons (s : σ) (e : ε) (es : List ε) :
    run step s (e :: es) =
      ((run step (step s e).1 es).1, (step s e).2 :: (run step (step s e).1 es).2) := rfl

theorem run_append (s : σ) (es fs : List ε) :
    run step s (es ++ fs) =
      ((run step (run step s es).1 fs).1,
        (run step s es).2 ++ (run step (run step s es).1 fs).2) := by
  induction es generalizing s with
  | nil => simp
  | cons e es ih => simp [ih]

/-- The property holds of each step of the run, at the state it is taken in. -/
def Along (P : σ → ε → Prop) : σ → List ε → Prop
  | _, [] => True
  | s, e :: es => P s e ∧ Along P (step s e).1 es

instance decidableAlong (P : σ → ε → Prop) [∀ s e, Decidable (P s e)] :
    (s : σ) → (es : List ε) → Decidable (Along step P s es)
  | _, [] => isTrue trivial
  | s, e :: es =>
    have := decidableAlong P (step s e).1 es
    inferInstanceAs (Decidable (P s e ∧ _))

variable {step}

/-- The invariant rule: steps that meet `Q` keep the invariant and meet `P`. -/
theorem Along.of_invariant {P Q : σ → ε → Prop} (I : σ → Prop)
    (hstep : ∀ s e, I s → Q s e → P s e ∧ I (step s e).1) {s : σ} {es : List ε}
    (hs : I s) (h : Along step Q s es) : Along step P s es := by
  induction es generalizing s with
  | nil => trivial
  | cons e es ih =>
    rcases hstep s e hs h.1 with ⟨hP, hI⟩
    exact ⟨hP, ih hI h.2⟩

/-- The invariant itself holds at the end of such a run. -/
theorem Along.invariant_run {Q : σ → ε → Prop} (I : σ → Prop)
    (hstep : ∀ s e, I s → Q s e → I (step s e).1) {s : σ} {es : List ε}
    (hs : I s) (h : Along step Q s es) : I (run step s es).1 := by
  induction es generalizing s with
  | nil => exact hs
  | cons e es ih => exact ih (hstep s e hs h.1) h.2

theorem Along.mono {P Q : σ → ε → Prop} (hPQ : ∀ s e, P s e → Q s e) {s : σ} {es : List ε}
    (h : Along step P s es) : Along step Q s es :=
  Along.of_invariant (fun _ => True) (fun s e _ hP => ⟨hPQ s e hP, trivial⟩) trivial h

/-- Two properties that agree wherever the invariant holds, of which the first restores it. -/
theorem along_iff_of_invariant {P Q : σ → ε → Prop} (I : σ → Prop)
    (hagree : ∀ s e, I s → (P s e ↔ Q s e)) (hstep : ∀ s e, I s → P s e → I (step s e).1)
    {s : σ} {es : List ε} (hs : I s) : Along step P s es ↔ Along step Q s es := by
  induction es generalizing s with
  | nil => exact Iff.rfl
  | cons e es ih =>
    simp only [Along, ← hagree s e hs]
    exact and_congr_right (fun hP => ih (hstep s e hs hP))

/-- A property of every state of a run is one of the first state and one of what each step
leaves. -/
theorem forall_prefix_iff {I : σ → Prop} {s : σ} {es : List ε} :
    (∀ before, before <+: es → I (run step s before).1) ↔
      I s ∧ Along step (fun s e => I (step s e).1) s es := by
  induction es generalizing s with
  | nil => simp [Along]
  | cons e es ih =>
    constructor
    · intro h
      refine ⟨h [] (List.nil_prefix), h [e] ((List.prefix_cons_inj e).mpr List.nil_prefix), ?_⟩
      exact (ih.mp (fun before hb => h (e :: before) ((List.prefix_cons_inj e).mpr hb))).2
    · rintro ⟨hs, he, hes⟩ before hb
      cases before with
      | nil => exact hs
      | cons e' before =>
        obtain ⟨rfl, hb'⟩ := List.cons_prefix_cons.mp hb
        exact ih.mpr ⟨he, hes⟩ before hb'

theorem Along.of_forall {P : ε → Prop} {s : σ} {es : List ε} (h : ∀ e ∈ es, P e) :
    Along step (fun _ e => P e) s es := by
  induction es generalizing s with
  | nil => trivial
  | cons e es ih => exact ⟨h e (.head _), ih (fun e he => h e (.tail _ he))⟩

theorem along_and {P Q : σ → ε → Prop} {s : σ} {es : List ε} :
    Along step (fun s e => P s e ∧ Q s e) s es ↔ Along step P s es ∧ Along step Q s es := by
  induction es generalizing s with
  | nil => simp [Along]
  | cons e es ih =>
    simp only [Along, ih]
    exact and_and_and_comm

theorem along_append {P : σ → ε → Prop} {s : σ} {es fs : List ε} :
    Along step P s (es ++ fs) ↔ Along step P s es ∧ Along step P (run step s es).1 fs := by
  induction es generalizing s with
  | nil => simp [Along]
  | cons e es ih => simp [Along, ih, and_assoc]

/-- A property along a run, read at each event with the state that the events before it leave. -/
theorem along_iff_forall {P : σ → ε → Prop} {s : σ} {es : List ε} :
    Along step P s es ↔
      ∀ before e after, es = before ++ e :: after → P (run step s before).1 e := by
  induction es generalizing s with
  | nil => simp [Along]
  | cons e es ih =>
    simp only [Along, ih]
    constructor
    · rintro ⟨he, hes⟩ before e' after heq
      cases before with
      | nil =>
        obtain ⟨rfl, -⟩ := List.cons_eq_cons.mp heq
        exact he
      | cons b before =>
        obtain ⟨rfl, hrest⟩ := List.cons_eq_cons.mp heq
        exact hes before e' after hrest
    · intro h
      refine ⟨h [] e es rfl, ?_⟩
      rintro before e' after rfl
      exact h (e :: before) e' after rfl

/-- A property of the outputs alone. -/
theorem along_output_iff {Q : ω → Prop} {s : σ} {es : List ε} :
    Along step (fun s e => Q (step s e).2) s es ↔ ∀ o ∈ (run step s es).2, Q o := by
  induction es generalizing s with
  | nil => simp [Along]
  | cons e es ih => simp [Along, ih]

end Fw100.Library
