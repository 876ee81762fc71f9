import Mathlib.Data.List.Basic
import Mathlib.Tactic

/-!
# Programs that leave a trace

A program reads an environment, keeps a state, emits events and may end in a fault. The
events of a program that faults are kept. `Ends` is its weakest precondition, with one
equation for each way of building a program; `Yields` is the same for programs that may
fault. `Preserves` and `Emits` are about the states and the events of all runs, `Commutes` is
about a part of the state that plays no role. `Observes` follows the events that a given
observer sees.
-/
namespace Fw100.Library

structure Result (ε φ σ α : Type) where
  value : Except φ α
  state : σ
  events : List ε

/-- Programs over the environment `ρ`, with events `ε`, faults `φ` and state `σ`. -/
def Traced (ρ ε φ σ α : Type) : Type := ρ → σ → Result ε φ σ α

namespace Traced
variable {ρ ε φ σ α β : Type}

instance : Monad (Traced ρ ε φ σ) where
  pure a := fun _ s => ⟨.ok a, s, []⟩
  bind m f := fun env s =>
    match m env s with
    | ⟨.ok a, s', es⟩ =>
      let next := f a env s'
      ⟨next.value, next.state, es ++ next.events⟩
    | ⟨.error fault, s', es⟩ => ⟨.error fault, s', es⟩

theorem bind_eq {m : Traced ρ ε φ σ α} {f : α → Traced ρ ε φ σ β} {env : ρ} {s s' : σ} {a : α}
    {es : List ε} (h : m env s = ⟨.ok a, s', es⟩) :
    (m >>= f) env s = ⟨(f a env s').value, (f a env s').state, es ++ (f a env s').events⟩ := by
  simp only [bind, h]

theorem bind_pure_comp {m : Traced ρ ε φ σ α} {f : α → β} {env : ρ} {s : σ} :
    (m >>= fun a => pure (f a)) env s =
      ⟨(m env s).value.map f, (m env s).state, (m env s).events⟩ := by
  simp only [bind, pure]
  cases hrun : m env s with
  | mk value s' es =>
    cases value with
    | error e => rfl
    | ok a => simp [Except.map]

theorem bind_pure_unit {m : Traced ρ ε φ σ Unit} {env : ρ} {s : σ} :
    (m >>= fun _ => pure ()) env s = m env s := by
  have hmap (value : Except φ Unit) : value.map (fun _ => ()) = value := by cases value <;> rfl
  rw [bind_pure_comp, hmap]

/-- Two programs with the same first part differ in what follows it. -/
theorem bind_eq_bind_iff {m : Traced ρ ε φ σ α} {f g : α → Traced ρ ε φ σ β} {env : ρ} {s s' : σ}
    {a : α} {es : List ε} (h : m env s = ⟨.ok a, s', es⟩) :
    (m >>= f) env s = (m >>= g) env s ↔ f a env s' = g a env s' := by
  rw [bind_eq h, bind_eq h]
  cases f a env s'
  cases g a env s'
  simp

def emit (e : ε) : Traced ρ ε φ σ Unit := fun _ s => ⟨.ok (), s, [e]⟩

def fault (f : φ) : Traced ρ ε φ σ α := fun _ s => ⟨.error f, s, []⟩

def environment : Traced ρ ε φ σ ρ := fun env s => ⟨.ok env, s, []⟩

def current : Traced ρ ε φ σ σ := fun _ s => ⟨.ok s, s, []⟩

def update (f : σ → σ) : Traced ρ ε φ σ Unit := fun _ s => ⟨.ok (), f s, []⟩

section Steps
variable {env : ρ} {s : σ}

/-! What a program does that starts with a single step. -/

theorem environment_bind {f : ρ → Traced ρ ε φ σ α} :
    (environment >>= f) env s = f env env s := by
  have hstep : (environment : Traced ρ ε φ σ ρ) env s = ⟨.ok env, s, []⟩ := rfl
  exact bind_eq hstep

theorem current_bind {f : σ → Traced ρ ε φ σ α} : (current >>= f) env s = f s env s := by
  have hstep : (current : Traced ρ ε φ σ σ) env s = ⟨.ok s, s, []⟩ := rfl
  exact bind_eq hstep

theorem update_bind {g : σ → σ} {f : Unit → Traced ρ ε φ σ α} :
    (update g >>= f) env s = f () env (g s) := by
  have hstep : (update g : Traced ρ ε φ σ Unit) env s = ⟨.ok (), g s, []⟩ := rfl
  exact bind_eq hstep

theorem emit_bind {e : ε} {f : Unit → Traced ρ ε φ σ α} :
    (emit e >>= f) env s =
      ⟨(f () env s).value, (f () env s).state, e :: (f () env s).events⟩ := by
  have hstep : (emit e : Traced ρ ε φ σ Unit) env s = ⟨.ok (), s, [e]⟩ := rfl
  exact bind_eq hstep

end Steps

/-- The run does not fault and its value, last state and events satisfy `Q`. -/
def Ends (env : ρ) (s : σ) (m : Traced ρ ε φ σ α) (Q : α → σ → List ε → Prop) : Prop :=
  ∃ a, (m env s).value = .ok a ∧ Q a (m env s).state (m env s).events

section Equations
variable {env : ρ} {s : σ} {Q : α → σ → List ε → Prop}

theorem ends_of_eq {m : Traced ρ ε φ σ α} {a : α} {s' : σ} {es : List ε}
    (h : m env s = ⟨.ok a, s', es⟩) : Ends env s m Q ↔ Q a s' es := by
  simp [Ends, h]

theorem ends_of_value {m : Traced ρ ε φ σ α} {a : α} (h : (m env s).value = .ok a) :
    Ends env s m Q ↔ Q a (m env s).state (m env s).events := by
  constructor
  · rintro ⟨b, hb, hq⟩
    obtain rfl : a = b := Except.ok.inj (h.symm.trans hb)
    exact hq
  · exact fun hq => ⟨a, h, hq⟩

@[simp] theorem ends_pure {a : α} :
    Ends (ε := ε) (φ := φ) env s (pure a) Q ↔ Q a s [] :=
  ends_of_eq rfl

@[simp] theorem ends_bind {m : Traced ρ ε φ σ β} {f : β → Traced ρ ε φ σ α} :
    Ends env s (m >>= f) Q ↔
      Ends env s m (fun b s' es => Ends env s' (f b) (fun a s'' es' => Q a s'' (es ++ es'))) := by
  simp only [Ends, bind]
  cases m env s with
  | mk value s' es =>
    cases value with
    | error e => simp
    | ok b => simp

@[simp] theorem ends_emit {e : ε} {Q : Unit → σ → List ε → Prop} :
    Ends (φ := φ) env s (emit e) Q ↔ Q () s [e] :=
  ends_of_eq rfl

@[simp] theorem ends_fault {f : φ} : ¬ Ends env s (fault f) Q := by
  simp [Ends, fault]

@[simp] theorem ends_environment {Q : ρ → σ → List ε → Prop} :
    Ends (φ := φ) env s environment Q ↔ Q env s [] :=
  ends_of_eq rfl

@[simp] theorem ends_current {Q : σ → σ → List ε → Prop} :
    Ends (ρ := ρ) (φ := φ) env s current Q ↔ Q s s [] :=
  ends_of_eq rfl

@[simp] theorem ends_update {f : σ → σ} {Q : Unit → σ → List ε → Prop} :
    Ends (ρ := ρ) (φ := φ) env s (update f) Q ↔ Q () (f s) [] :=
  ends_of_eq rfl

theorem Ends.mono {m : Traced ρ ε φ σ α} {Q' : α → σ → List ε → Prop} (h : Ends env s m Q)
    (hQ : ∀ a s' es, Q a s' es → Q' a s' es) : Ends env s m Q' := by
  rcases h with ⟨a, ha, hq⟩
  exact ⟨a, ha, hQ _ _ _ hq⟩

end Equations

/-- If the run does not fault, its value, last state and events satisfy `Q`. -/
def Yields (env : ρ) (s : σ) (m : Traced ρ ε φ σ α) (Q : α → σ → List ε → Prop) : Prop :=
  ∀ a, (m env s).value = .ok a → Q a (m env s).state (m env s).events

section PartialEquations
variable {env : ρ} {s : σ} {Q : α → σ → List ε → Prop}

theorem Ends.yields {m : Traced ρ ε φ σ α} (h : Ends env s m Q) : Yields env s m Q := by
  intro b hb
  exact (ends_of_value hb).mp h

theorem Yields.mono {m : Traced ρ ε φ σ α} {Q' : α → σ → List ε → Prop} (h : Yields env s m Q)
    (hQ : ∀ a s' es, Q a s' es → Q' a s' es) : Yields env s m Q' :=
  fun a ha => hQ _ _ _ (h a ha)

theorem yields_fault {f : φ} : Yields env s (fault f) Q := by
  intro a ha
  cases ha

theorem yields_bind {m : Traced ρ ε φ σ β} {f : β → Traced ρ ε φ σ α} :
    Yields env s (m >>= f) Q ↔
      Yields env s m (fun b s' es => Yields env s' (f b) (fun a s'' es' => Q a s'' (es ++ es'))) := by
  simp only [Yields, bind]
  cases m env s with
  | mk value s' es =>
    cases value with
    | error e => simp
    | ok b => simp

end PartialEquations

/-- Whether the run faults or not, it keeps the invariant. -/
def Preserves (env : ρ) (I : σ → Prop) (m : Traced ρ ε φ σ α) : Prop :=
  ∀ s, I s → I (m env s).state

namespace Preserves
variable {env : ρ} {I : σ → Prop}

theorem pure {a : α} : Preserves (ε := ε) (φ := φ) env I (Pure.pure a) := fun _ h => h

theorem after {m : Traced ρ ε φ σ β} {f : β → Traced ρ ε φ σ α} (hf : ∀ b, Preserves env I (f b))
    {s : σ} (hm : I (m env s).state) : I ((m >>= f) env s).state := by
  simp only [Bind.bind]
  cases hrun : m env s with
  | mk value s' es =>
    rw [hrun] at hm
    cases value with
    | error e => exact hm
    | ok b => exact hf b s' hm

theorem bind {m : Traced ρ ε φ σ β} {f : β → Traced ρ ε φ σ α} (hm : Preserves env I m)
    (hf : ∀ b, Preserves env I (f b)) : Preserves env I (m >>= f) := fun s hs => after hf (hm s hs)

theorem emit {e : ε} : Preserves (φ := φ) env I (Traced.emit e) := fun _ h => h

theorem fault {f : φ} : Preserves (ε := ε) (α := α) env I (Traced.fault f) := fun _ h => h

theorem environment : Preserves (ε := ε) (φ := φ) env I Traced.environment := fun _ h => h

theorem current : Preserves (ρ := ρ) (ε := ε) (φ := φ) env I Traced.current := fun _ h => h

theorem update {f : σ → σ} (h : ∀ s, I s → I (f s)) :
    Preserves (ρ := ρ) (ε := ε) (φ := φ) env I (Traced.update f) := h

theorem ite {p : Prop} [Decidable p] {m m' : Traced ρ ε φ σ α} (h : Preserves env I m)
    (h' : Preserves env I m') : Preserves env I (if p then m else m') := by
  split
  · exact h
  · exact h'

end Preserves

/-- Whether the run faults or not, each of its events satisfies `P`. -/
def Emits (env : ρ) (P : ε → Prop) (m : Traced ρ ε φ σ α) : Prop :=
  ∀ s, ∀ e ∈ (m env s).events, P e

namespace Emits
variable {env : ρ} {P : ε → Prop}

theorem mono {Q : ε → Prop} {m : Traced ρ ε φ σ α} (h : Emits env P m) (hPQ : ∀ e, P e → Q e) :
    Emits env Q m := fun s e he => hPQ e (h s e he)

theorem filterMap_eq_nil {κ : Type*} {see : ε → Option κ} {m : Traced ρ ε φ σ α}
    (h : Emits env (fun e => see e = none) m) (s : σ) : (m env s).events.filterMap see = [] := by
  rw [List.filterMap_eq_nil_iff]
  exact h s

theorem pure {a : α} : Emits (φ := φ) (σ := σ) env P (Pure.pure a) := by
  intro s e he
  cases he

theorem bind {m : Traced ρ ε φ σ β} {f : β → Traced ρ ε φ σ α} (hm : Emits env P m)
    (hf : ∀ b, Emits env P (f b)) : Emits env P (m >>= f) := by
  intro s
  have hfirst := hm s
  simp only [Bind.bind]
  cases hrun : m env s with
  | mk value s' es =>
    rw [hrun] at hfirst
    cases value with
    | error e => exact hfirst
    | ok b =>
      intro e he
      rcases List.mem_append.mp he with he | he
      · exact hfirst e he
      · exact hf b s' e he

theorem bind_events {m : Traced ρ ε φ σ β} {f : β → Traced ρ ε φ σ α} {s s' : σ} {b : β}
    {es : List ε} (h : m env s = ⟨.ok b, s', es⟩) (hf : Emits env P (f b)) :
    ∃ es', ((m >>= f) env s).events = es ++ es' ∧ ∀ e ∈ es', P e :=
  ⟨(f b env s').events, by rw [bind_eq h], hf s'⟩

theorem emit {e : ε} (h : P e) : Emits (φ := φ) (σ := σ) env P (Traced.emit e) := by
  intro s e' he
  rwa [List.mem_singleton.mp he]

theorem fault {f : φ} : Emits (σ := σ) (α := α) env P (Traced.fault f) := by
  intro s e he
  cases he

theorem environment : Emits (φ := φ) (σ := σ) env P Traced.environment := by
  intro s e he
  cases he

theorem current : Emits (φ := φ) (σ := σ) env P Traced.current := by
  intro s e he
  cases he

theorem update {f : σ → σ} : Emits (φ := φ) env P (Traced.update f) := by
  intro s e he
  cases he

theorem ite {p : Prop} [Decidable p] {m m' : Traced ρ ε φ σ α} (h : Emits env P m)
    (h' : Emits env P m') : Emits env P (if p then m else m') := by
  split
  · exact h
  · exact h'

end Emits

/-- The program neither looks at what `g` changes in a state nor changes it. -/
def Commutes (env : ρ) (g : σ → σ) (m : Traced ρ ε φ σ α) : Prop :=
  ∀ s, m env (g s) = ⟨(m env s).value, g (m env s).state, (m env s).events⟩

namespace Commutes
variable {env : ρ} {g : σ → σ}

theorem pure {a : α} : Commutes (ε := ε) (φ := φ) env g (Pure.pure a) := fun _ => rfl

theorem bind {m : Traced ρ ε φ σ β} {f : β → Traced ρ ε φ σ α} (hm : Commutes env g m)
    (hf : ∀ b, Commutes env g (f b)) : Commutes env g (m >>= f) := by
  intro s
  have hfirst := hm s
  simp only [Bind.bind]
  rw [hfirst]
  cases hrun : m env s with
  | mk value s' es =>
    cases value with
    | error e => rfl
    | ok b => simp only [hf b s']

theorem emit {e : ε} : Commutes (φ := φ) env g (Traced.emit e) := fun _ => rfl

theorem fault {f : φ} : Commutes (ε := ε) (α := α) env g (Traced.fault f) := fun _ => rfl

theorem environment : Commutes (ε := ε) (φ := φ) env g Traced.environment := fun _ => rfl

theorem current_bind {f : σ → Traced ρ ε φ σ α} (hblind : ∀ s, f (g s) = f s)
    (hf : ∀ s, Commutes env g (f s)) : Commutes env g (Traced.current >>= f) := by
  intro s
  rw [Traced.current_bind, Traced.current_bind, hblind, hf s s]

theorem update {f : σ → σ} (h : ∀ s, f (g s) = g (f s)) :
    Commutes (ε := ε) (φ := φ) env g (Traced.update f) := by
  intro s
  simp only [Traced.update, h]

theorem ite {p : Prop} [Decidable p] {m m' : Traced ρ ε φ σ α} (h : Commutes env g m)
    (h' : Commutes env g m') : Commutes env g (if p then m else m') := by
  split
  · exact h
  · exact h'

end Commutes

/-- From every state the run ends, the observer sees exactly `ks` and the value satisfies `R`. -/
def Observes {κ : Type} (see : ε → Option κ) (env : ρ) (ks : List κ) (m : Traced ρ ε φ σ α)
    (R : α → Prop) : Prop :=
  ∀ s, Ends env s m (fun a _ es => es.filterMap see = ks ∧ R a)

namespace Observes
variable {κ : Type} {see : ε → Option κ} {env : ρ} {R : α → Prop}

/-- A run has one list of events, so it shows nothing else. -/
theorem ends_iff {ks ks' : List κ} {m : Traced ρ ε φ σ α} (h : Observes see env ks m R) (s : σ) :
    Ends env s m (fun _ _ es => es.filterMap see = ks') ↔ ks = ks' := by
  rcases h s with ⟨a, ha, hes, -⟩
  constructor
  · rintro ⟨_, -, hes'⟩
    exact hes.symm.trans hes'
  · rintro rfl
    exact ⟨a, ha, hes⟩

theorem mono {ks : List κ} {m : Traced ρ ε φ σ α} {S : α → Prop} (h : Observes see env ks m S)
    (hR : ∀ a, S a → R a) : Observes see env ks m R :=
  fun s => (h s).mono (fun a _ _ hq => ⟨hq.1, hR a hq.2⟩)

theorem pure {a : α} (h : R a) : Observes (σ := σ) (φ := φ) see env [] (Pure.pure a) R :=
  fun _ => ends_pure.mpr ⟨rfl, h⟩

theorem bind {ks ks' : List κ} {m : Traced ρ ε φ σ β} {f : β → Traced ρ ε φ σ α} {S : β → Prop}
    (hm : Observes see env ks m S) (hf : ∀ b, S b → Observes see env ks' (f b) R) :
    Observes see env (ks ++ ks') (m >>= f) R := by
  intro s
  rw [ends_bind]
  apply (hm s).mono
  rintro b s' es ⟨hes, hb⟩
  apply (hf b hb s').mono
  rintro a s'' es' ⟨hes', ha⟩
  exact ⟨by rw [List.filterMap_append, hes, hes'], ha⟩

theorem silent_bind {ks : List κ} {m : Traced ρ ε φ σ β} {f : β → Traced ρ ε φ σ α}
    {S : β → Prop} (hm : Observes see env [] m S) (hf : ∀ b, S b → Observes see env ks (f b) R) :
    Observes see env ks (m >>= f) R := hm.bind hf

theorem bind_silent {ks : List κ} {m : Traced ρ ε φ σ β} {f : β → Traced ρ ε φ σ α}
    {S : β → Prop} (hm : Observes see env ks m S) (hf : ∀ b, S b → Observes see env [] (f b) R) :
    Observes see env ks (m >>= f) R := by
  simpa using hm.bind hf

theorem ite {ks : List κ} {p : Prop} [Decidable p] {m m' : Traced ρ ε φ σ α}
    (h : p → Observes see env ks m R) (h' : ¬ p → Observes see env ks m' R) :
    Observes see env ks (if p then m else m') R := by
  split
  · next hp => exact h hp
  · next hp => exact h' hp

theorem emit_silent {e : ε} (h : see e = none) :
    Observes (σ := σ) (φ := φ) see env [] (emit e) (fun _ => True) :=
  fun _ => ends_emit.mpr ⟨by simp [h], trivial⟩

theorem emit_seen {e : ε} {k : κ} (h : see e = some k) :
    Observes (σ := σ) (φ := φ) see env [k] (emit e) (fun _ => True) :=
  fun _ => ends_emit.mpr ⟨by simp [h], trivial⟩

theorem environment : Observes (σ := σ) (φ := φ) see env [] environment (· = env) :=
  fun _ => ends_environment.mpr ⟨rfl, rfl⟩

theorem current : Observes (σ := σ) (φ := φ) see env [] current (fun _ => True) :=
  fun _ => ends_current.mpr ⟨rfl, trivial⟩

theorem update {f : σ → σ} : Observes (φ := φ) see env [] (update f) (fun _ => True) :=
  fun _ => ends_update.mpr ⟨rfl, trivial⟩

end Observes

end Traced

end Fw100.Library
