import Fw100.Library.Machine

/-!
# Observers of a machine

An observer reads the outputs of a machine one by one and keeps a state of its own; it may
refuse an output. A relation between the two states that every step keeps, with no output
refused, holds along every run: the observer's transitions are then a specification that the
machine obeys.
-/
namespace Fw100.Library

variable {σ ε ω τ : Type*} {step : σ → ε → σ × List ω}

/-- The observer's state behind a list of outputs, if none is refused. -/
def observe (f : τ → ω → Option τ) (t : τ) (outs : List ω) : Option τ := outs.foldlM f t

variable {f : τ → ω → Option τ}

@[simp] theorem observe_nil (t : τ) : observe f t [] = some t := rfl

@[simp] theorem observe_cons (t : τ) (o : ω) (outs : List ω) :
    observe f t (o :: outs) = (f t o).bind (fun t' => observe f t' outs) := by
  rw [observe, List.foldlM_cons]
  rfl

theorem observe_append (t : τ) (outs later : List ω) :
    observe f t (outs ++ later) = (observe f t outs).bind (fun t' => observe f t' later) := by
  rw [observe, List.foldlM_append]
  rfl

/-- The simulation rule. `P` is what is assumed of the events, at the states in which they come. -/
theorem observe_run {R : σ → τ → Prop} {P : σ → ε → Prop}
    (hstep : ∀ s t e, R s t → P s e →
      ∃ t', observe f t (step s e).2 = some t' ∧ R (step s e).1 t')
    {s : σ} {t : τ} {es : List ε} (h : R s t) (hP : Along step P s es) :
    ∃ t', observe f t (run step s es).2.flatten = some t' ∧ R (run step s es).1 t' := by
  induction es generalizing s t with
  | nil => exact ⟨t, rfl, h⟩
  | cons e es ih =>
    obtain ⟨t₁, hobs, hR⟩ := hstep s t e h hP.1
    obtain ⟨t₂, hobs', hR'⟩ := ih hR hP.2
    refine ⟨t₂, ?_, hR'⟩
    rw [run_cons, List.flatten_cons, observe_append, hobs, Option.bind_some, hobs']

/-- The rule for runs of which nothing is assumed. -/
theorem observe_every_run {R : σ → τ → Prop}
    (hstep : ∀ s t e, R s t → ∃ t', observe f t (step s e).2 = some t' ∧ R (step s e).1 t')
    {s : σ} {t : τ} (es : List ε) (h : R s t) :
    ∃ t', observe f t (run step s es).2.flatten = some t' ∧ R (run step s es).1 t' :=
  observe_run (P := fun _ _ => True) (fun s t e hR _ => hstep s t e hR) h
    (Along.of_forall (fun _ _ => trivial))

theorem observe_total (f : τ → ω → τ) (t : τ) (outs : List ω) :
    observe (fun t o => some (f t o)) t outs = some (outs.foldl f t) := by
  induction outs generalizing t with
  | nil => rfl
  | cons o outs ih => rw [observe_cons, Option.bind_some, ih, List.foldl_cons]

end Fw100.Library
