import Fw100.Library.Observer
import Fw100.Library.Traced

/-!
# Programs within larger ones

A program over a part of a state is one over the whole of it. `Follows` is about all runs of a
program and an observer of its events: related states lead to related states, and no event is
refused. `Completes` is about programs that do not fault, and `Agrees` compares two programs by
what is seen of their events.
-/
namespace Fw100.Library

/-- A part of a state, with the part of the environment that is read and the events as they are
seen from outside. -/
structure Part (ρ' ε' σ' ρ ε σ : Type) where
  view : ρ' → ρ
  tell : ε → ε'
  get : σ' → σ
  put : σ' → σ → σ'
  get_put : ∀ s t, get (put s t) = t

namespace Traced
variable {ρ ρ' ε ε' φ σ σ' τ α β : Type}

/-- The program, run on the part. -/
def within (p : Part ρ' ε' σ' ρ ε σ) (m : Traced ρ ε φ σ α) : Traced ρ' ε' φ σ' α := fun env s =>
  let r := m (p.view env) (p.get s)
  ⟨r.value, p.put s r.state, r.events.map p.tell⟩

theorem Preserves.within {p : Part ρ' ε' σ' ρ ε σ} {m : Traced ρ ε φ σ α} {env : ρ'} {I : σ → Prop}
    (h : Preserves (p.view env) I m) : Preserves env (fun s => I (p.get s)) (Traced.within p m) := by
  intro s hs
  have hstate : p.get (Traced.within p m env s).state = (m (p.view env) (p.get s)).state := p.get_put _ _
  rw [hstate]
  exact h _ hs

theorem Emits.within {p : Part ρ' ε' σ' ρ ε σ} {m : Traced ρ ε φ σ α} {env : ρ'} {P : ε → Prop}
    {Q : ε' → Prop} (h : Emits (p.view env) P m) (hPQ : ∀ e, P e → Q (p.tell e)) :
    Emits env Q (Traced.within p m) := by
  intro s e he
  obtain ⟨e', he', rfl⟩ := List.mem_map.mp he
  exact hPQ e' (h _ e' he')

/-- From related states the observer refuses no event, and the states are related again. -/
def Follows (env : ρ) (f : τ → ε → Option τ) (R : σ → τ → Prop) (m : Traced ρ ε φ σ α) : Prop :=
  ∀ s t, R s t → ∃ t', observe f t (m env s).events = some t' ∧ R (m env s).state t'

namespace Follows
variable {env : ρ} {f : τ → ε → Option τ} {R : σ → τ → Prop}

theorem pure {a : α} : Follows (φ := φ) env f R (Pure.pure a) := fun _ t h => ⟨t, rfl, h⟩

theorem bind {m : Traced ρ ε φ σ β} {g : β → Traced ρ ε φ σ α} (hm : Follows env f R m)
    (hg : ∀ b, Follows env f R (g b)) : Follows env f R (m >>= g) := by
  intro s t hst
  have hfirst := hm s t hst
  simp only [Bind.bind]
  cases hrun : m env s with
  | mk value s' es =>
    rw [hrun] at hfirst
    obtain ⟨t', hobs, hR⟩ := hfirst
    cases value with
    | error e => exact ⟨t', hobs, hR⟩
    | ok b =>
      obtain ⟨t'', hobs', hR'⟩ := hg b s' t' hR
      exact ⟨t'', by rw [observe_append, hobs]; exact hobs', hR'⟩

theorem emit {e : ε} (h : ∀ s t, R s t → ∃ t', f t e = some t' ∧ R s t') :
    Follows (φ := φ) env f R (Traced.emit e) := by
  intro s t hst
  obtain ⟨t', hnext, hR⟩ := h s t hst
  exact ⟨t', by simp [Traced.emit, hnext], hR⟩

theorem fault {e : φ} : Follows (α := α) env f R (Traced.fault e) := fun _ t h => ⟨t, rfl, h⟩

theorem environment : Follows (φ := φ) env f R Traced.environment := fun _ t h => ⟨t, rfl, h⟩

theorem current : Follows (φ := φ) env f R Traced.current := fun _ t h => ⟨t, rfl, h⟩

theorem update {u : σ → σ} (h : ∀ s t, R s t → R (u s) t) :
    Follows (φ := φ) env f R (Traced.update u) := fun s t hst => ⟨t, rfl, h s t hst⟩

theorem ite {p : Prop} [Decidable p] {m m' : Traced ρ ε φ σ α} (h : p → Follows env f R m)
    (h' : ¬ p → Follows env f R m') : Follows env f R (if p then m else m') := by
  split
  · next hp => exact h hp
  · next hp => exact h' hp

theorem of_still {m : Traced ρ ε φ σ α} {P : ε → Prop} (hemits : Emits env P m)
    (hstill : ∀ t e, P e → f t e = some t) (hkeeps : ∀ t, Preserves env (fun s => R s t) m) :
    Follows env f R m := by
  intro s t hst
  refine ⟨t, ?_, hkeeps t s hst⟩
  have hevents := hemits s
  generalize (m env s).events = es at hevents
  induction es with
  | nil => rfl
  | cons e es ih =>
    rw [observe_cons, hstill t e (hevents e (.head _)), Option.bind_some]
    exact ih (fun e' he' => hevents e' (.tail _ he'))

end Follows

/-- From states of the invariant the program ends without a fault and keeps it. -/
def Completes (env : ρ) (I : σ → Prop) (m : Traced ρ ε φ σ α) : Prop :=
  ∀ s, I s → (∃ a, (m env s).value = .ok a) ∧ I (m env s).state

namespace Completes
variable {env : ρ} {I : σ → Prop}

theorem pure {a : α} : Completes (ε := ε) (φ := φ) env I (Pure.pure a) := fun _ h => ⟨⟨a, rfl⟩, h⟩

theorem bind {m : Traced ρ ε φ σ β} {g : β → Traced ρ ε φ σ α} (hm : Completes env I m)
    (hg : ∀ b, Completes env I (g b)) : Completes env I (m >>= g) := by
  intro s hs
  obtain ⟨⟨b, hb⟩, hfirst⟩ := hm s hs
  simp only [Bind.bind]
  cases hrun : m env s with
  | mk value s' es =>
    rw [hrun] at hb hfirst
    cases value with
    | error e => cases hb
    | ok b => exact hg b s' hfirst

theorem emit {e : ε} : Completes (φ := φ) env I (Traced.emit e) := fun _ h => ⟨⟨(), rfl⟩, h⟩

theorem current : Completes (ρ := ρ) (ε := ε) (φ := φ) env I Traced.current :=
  fun s h => ⟨⟨s, rfl⟩, h⟩

theorem update {u : σ → σ} (h : ∀ s, I s → I (u s)) :
    Completes (ρ := ρ) (ε := ε) (φ := φ) env I (Traced.update u) := fun s hs => ⟨⟨(), rfl⟩, h s hs⟩

theorem within {p : Part ρ' ε' σ' ρ ε σ} {m : Traced ρ ε φ σ α} {env : ρ'}
    (h : Completes (p.view env) I m) :
    Completes env (fun s => I (p.get s)) (Traced.within p m) := by
  intro s hs
  obtain ⟨hvalue, hstate⟩ := h _ hs
  have hget : p.get (Traced.within p m env s).state = (m (p.view env) (p.get s)).state :=
    p.get_put _ _
  exact ⟨hvalue, (congrArg I hget).mpr hstate⟩

end Completes

/-- From states related by `R` two programs give the same value, show the same events and end in
states related by `R'`. -/
def Agrees {κ : Type} (env : ρ) (env' : ρ') (see : ε → Option κ) (see' : ε' → Option κ)
    (R R' : σ → σ' → Prop) (m : Traced ρ ε φ σ α) (m' : Traced ρ' ε' φ σ' α) : Prop :=
  ∀ s s', R s s' → (m env s).value = (m' env' s').value ∧
    (m env s).events.filterMap see = (m' env' s').events.filterMap see' ∧
    R' (m env s).state (m' env' s').state

namespace Agrees
variable {κ : Type} {env : ρ} {env' : ρ'} {see : ε → Option κ} {see' : ε' → Option κ}
  {R R₁ R' : σ → σ' → Prop}

theorem pure {a : α} : Agrees (φ := φ) env env' see see' R R (Pure.pure a) (Pure.pure a) :=
  fun _ _ h => ⟨rfl, rfl, h⟩

/-- The first program may fault, which leaves its states related by `R₁` only. -/
theorem bind {m : Traced ρ ε φ σ β} {m' : Traced ρ' ε' φ σ' β} {g : β → Traced ρ ε φ σ α}
    {g' : β → Traced ρ' ε' φ σ' α} (hm : Agrees env env' see see' R R₁ m m')
    (hg : ∀ b, Agrees env env' see see' R₁ R' (g b) (g' b)) (hR : ∀ s s', R₁ s s' → R' s s') :
    Agrees env env' see see' R R' (m >>= g) (m' >>= g') := by
  intro s s' hs
  have hfirst := hm s s' hs
  simp only [Bind.bind]
  cases hrun : m env s with
  | mk value t es =>
    cases hrun' : m' env' s' with
    | mk value' t' es' =>
      rw [hrun, hrun'] at hfirst
      obtain ⟨rfl, hevents, hR₁⟩ := hfirst
      cases value with
      | error e => exact ⟨rfl, hevents, hR _ _ hR₁⟩
      | ok b =>
        obtain ⟨hvalue, hevents', hR'⟩ := hg b t t' hR₁
        refine ⟨hvalue, ?_, hR'⟩
        rw [List.filterMap_append, List.filterMap_append]
        exact congrArg₂ (· ++ ·) hevents hevents'

theorem mono {m : Traced ρ ε φ σ α} {m' : Traced ρ' ε' φ σ' α} (h : Agrees env env' see see' R R₁ m m')
    (hR : ∀ s s', R₁ s s' → R' s s') : Agrees env env' see see' R R' m m' := by
  intro s s' hs
  obtain ⟨hvalue, hevents, hstate⟩ := h s s' hs
  exact ⟨hvalue, hevents, hR _ _ hstate⟩

theorem emit {e : ε} {e' : ε'} (h : see e = see' e') :
    Agrees (φ := φ) env env' see see' R R (Traced.emit e) (Traced.emit e') :=
  fun _ _ hR => ⟨rfl, by simp [Traced.emit, List.filterMap_cons, h], hR⟩

theorem update {u : σ → σ} {u' : σ' → σ'} (h : ∀ s s', R s s' → R' (u s) (u' s')) :
    Agrees (φ := φ) env env' see see' R R' (Traced.update u) (Traced.update u') :=
  fun s s' hR => ⟨rfl, rfl, h s s' hR⟩

/-- Programs that go on with what they know of their states. -/
theorem current_bind {g : σ → Traced ρ ε φ σ α} {g' : σ' → Traced ρ' ε' φ σ' α}
    (h : ∀ s s', R s s' → Agrees env env' see see' R R' (g s) (g' s')) :
    Agrees env env' see see' R R' (Traced.current >>= g) (Traced.current >>= g') := by
  intro s s' hs
  rw [Traced.current_bind, Traced.current_bind]
  exact h s s' hs s s' hs

theorem ite {p p' : Prop} [Decidable p] [Decidable p'] {m n : Traced ρ ε φ σ α}
    {m' n' : Traced ρ' ε' φ σ' α} (hp : p ↔ p') (h : Agrees env env' see see' R R' m m')
    (h' : Agrees env env' see see' R R' n n') :
    Agrees env env' see see' R R' (if p then m else n) (if p' then m' else n') := by
  by_cases hm : p
  · rw [if_pos hm, if_pos (hp.mp hm)]
    exact h
  · rw [if_neg hm, if_neg (fun hm' => hm (hp.mpr hm'))]
    exact h'

/-- A program over the part and the same program over the whole. -/
theorem within {p : Part ρ' ε' σ' ρ ε σ} {env : ρ'} {see : ε' → Option κ} {see' : ε → Option κ}
    (m : Traced ρ ε φ σ α) (hsee : ∀ e, see (p.tell e) = see' e) :
    Agrees env (p.view env) see see' (fun s s' => p.get s = s') (fun s s' => p.get s = s')
      (Traced.within p m) m := by
  rintro s _ rfl
  refine ⟨rfl, ?_, p.get_put _ _⟩
  have hcomp : (see ∘ p.tell) = see' := funext hsee
  show ((m (p.view env) (p.get s)).events.map p.tell).filterMap see = _
  rw [List.filterMap_map, hcomp]

end Agrees

end Traced

end Fw100.Library
