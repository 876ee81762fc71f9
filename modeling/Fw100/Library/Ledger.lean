import Mathlib.Data.Multiset.AddSub
import Fw100.Library.Traced

/-!
# Accounting for what a program obtains and releases

Some events of a program obtain a numbered resource and some release one. A `Ledger` says
which; the numbers are given out in increasing order. `Accounts` follows what is held, through
programs that may fault.
-/
namespace Fw100.Library

/-- The resources that events obtain and release, and the next number to be given out. -/
structure Ledger (ε σ : Type) where
  obtains : ε → Option ℕ
  releases : ε → Option ℕ
  next : σ → ℕ

namespace Ledger
variable {ρ ε φ σ α β : Type} (L : Ledger ε σ)

def obtained (es : List ε) : Multiset ℕ := ↑(es.filterMap L.obtains)

def released (es : List ε) : Multiset ℕ := ↑(es.filterMap L.releases)

@[simp] theorem obtained_append (es es' : List ε) :
    L.obtained (es ++ es') = L.obtained es + L.obtained es' := by
  simp [obtained]

@[simp] theorem released_append (es es' : List ε) :
    L.released (es ++ es') = L.released es + L.released es' := by
  simp [released]

theorem obtained_cons_none {e : ε} (h : L.obtains e = none) (es : List ε) :
    L.obtained (e :: es) = L.obtained es := by
  rw [obtained, List.filterMap_cons_none h, obtained]

theorem obtained_cons_some {e : ε} {id : ℕ} (h : L.obtains e = some id) (es : List ε) :
    L.obtained (e :: es) = id ::ₘ L.obtained es := by
  rw [obtained, List.filterMap_cons_some h, obtained, Multiset.cons_coe]

theorem released_cons_none {e : ε} (h : L.releases e = none) (es : List ε) :
    L.released (e :: es) = L.released es := by
  rw [released, List.filterMap_cons_none h, released]

theorem released_cons_some {e : ε} {id : ℕ} (h : L.releases e = some id) (es : List ε) :
    L.released (e :: es) = id ::ₘ L.released es := by
  rw [released, List.filterMap_cons_some h, released, Multiset.cons_coe]

/-- The events lead from what is held to `held'`, with new numbers between those of the states. -/
structure Tally (s s' : σ) (es : List ε) (held held' : Multiset ℕ) : Prop where
  balance : held + L.obtained es = L.released es + held'
  mono : L.next s ≤ L.next s'
  fresh : ∀ id ∈ L.obtained es, L.next s ≤ id ∧ id < L.next s'
  nodup : (L.obtained es).Nodup

variable {L}

theorem Tally.append {s s' s'' : σ} {es es' : List ε} {held held' held'' : Multiset ℕ}
    (h : L.Tally s s' es held held') (h' : L.Tally s' s'' es' held' held'') :
    L.Tally s s'' (es ++ es') held held'' := by
  refine ⟨?_, h.mono.trans h'.mono, ?_, ?_⟩
  · calc held + L.obtained (es ++ es')
        = held + L.obtained es + L.obtained es' := by rw [obtained_append, add_assoc]
      _ = L.released es + (held' + L.obtained es') := by rw [h.balance, add_assoc]
      _ = L.released (es ++ es') + held'' := by rw [h'.balance, released_append, add_assoc]
  · simp only [obtained_append, Multiset.mem_add]
    rintro id (hid | hid)
    · exact ⟨(h.fresh id hid).1, (h.fresh id hid).2.trans_le h'.mono⟩
    · exact ⟨h.mono.trans (h'.fresh id hid).1, (h'.fresh id hid).2⟩
  · rw [obtained_append, Multiset.nodup_add]
    refine ⟨h.nodup, h'.nodup, Multiset.disjoint_left.mpr ?_⟩
    intro id hid hid'
    have hlt := (h.fresh id hid).2
    have hle := (h'.fresh id hid').1
    omega

/-- Events that neither obtain nor release. -/
theorem Tally.silent {s s' : σ} {es : List ε} (hmono : L.next s ≤ L.next s')
    (hobtained : L.obtained es = 0) (hreleased : L.released es = 0) (held : Multiset ℕ) :
    L.Tally s s' es held held := by
  refine ⟨by rw [hobtained, hreleased, add_zero, zero_add], hmono, ?_, ?_⟩
  · simp [hobtained]
  · simp [hobtained]

theorem Tally.obtain {s s' : σ} {e : ε} (hmono : L.next s < L.next s')
    (hobtains : L.obtains e = some (L.next s)) (hreleases : L.releases e = none)
    (held : Multiset ℕ) : L.Tally s s' [e] held (L.next s ::ₘ held) := by
  have hobtained : L.obtained [e] = {L.next s} := L.obtained_cons_some hobtains []
  have hreleased : L.released [e] = 0 := L.released_cons_none hreleases []
  refine ⟨?_, hmono.le, ?_, ?_⟩
  · rw [hobtained, hreleased, zero_add, add_comm, Multiset.singleton_add]
  · rw [hobtained]
    intro id hid
    obtain rfl := Multiset.mem_singleton.mp hid
    exact ⟨le_rfl, hmono⟩
  · rw [hobtained]
    exact Multiset.nodup_singleton _

theorem Tally.release (s : σ) {e : ε} {id : ℕ} (hobtains : L.obtains e = none)
    (hreleases : L.releases e = some id) (held : Multiset ℕ) :
    L.Tally s s [e] (id ::ₘ held) held := by
  have hobtained : L.obtained [e] = 0 := L.obtained_cons_none hobtains []
  have hreleased : L.released [e] = {id} := L.released_cons_some hreleases []
  refine ⟨?_, le_rfl, ?_, ?_⟩
  · rw [hobtained, hreleased, add_zero, Multiset.singleton_add]
  · simp [hobtained]
  · simp [hobtained]

/-- All that was obtained has been released once exactly if nothing is held in the end. -/
theorem Tally.released_once_iff {s s' : σ} {es : List ε} {held' : Multiset ℕ}
    (h : L.Tally s s' es 0 held') :
    (∀ id ∈ L.obtained es, (L.released es).count id = 1) ↔ held' = 0 := by
  have hbalance : L.obtained es = L.released es + held' := by simpa using h.balance
  have hcount : ∀ id ∈ L.obtained es, (L.released es).count id + held'.count id = 1 := by
    intro id hid
    rw [← Multiset.count_add, ← hbalance]
    exact Multiset.count_eq_one_of_mem h.nodup hid
  constructor
  · intro honce
    refine Multiset.eq_zero_of_forall_notMem (fun id hid => ?_)
    have hmem : id ∈ L.obtained es := by
      rw [hbalance]
      exact Multiset.mem_add.mpr (.inr hid)
    have hpos := Multiset.count_pos.mpr hid
    have hone := honce id hmem
    have hsum := hcount id hmem
    omega
  · rintro rfl id hid
    simpa using hcount id hid

variable (L)

/-- If the run does not fault, the ledger leads from `held` to something that, with the value
and the last state, satisfies `R`. -/
def Accounts (env : ρ) (s : σ) (held : Multiset ℕ) (m : Traced ρ ε φ σ α)
    (R : α → σ → Multiset ℕ → Prop) : Prop :=
  Traced.Yields env s m (fun a s' es => ∃ held', L.Tally s s' es held held' ∧ R a s' held')

def Idle (env : ρ) (m : Traced ρ ε φ σ α) : Prop :=
  ∀ s, Traced.Yields env s m (fun _ s' es =>
    L.next s ≤ L.next s' ∧ L.obtained es = 0 ∧ L.released es = 0)

def Frees (env : ρ) (ids : Multiset ℕ) (m : Traced ρ ε φ σ α) : Prop :=
  ∀ s held, L.Accounts env s (ids + held) m (fun _ _ held' => held' = held)

variable {L} {env : ρ}

theorem Accounts.mono {s : σ} {held : Multiset ℕ} {m : Traced ρ ε φ σ α}
    {R R' : α → σ → Multiset ℕ → Prop} (h : L.Accounts env s held m R)
    (hR : ∀ a s' held', R a s' held' → R' a s' held') : L.Accounts env s held m R' := by
  refine Traced.Yields.mono h ?_
  rintro a s' es ⟨held', htally, hr⟩
  exact ⟨held', htally, hR a s' held' hr⟩

/-- What is known of the value and the last state besides. -/
theorem Accounts.and {s : σ} {held : Multiset ℕ} {m : Traced ρ ε φ σ α}
    {R : α → σ → Multiset ℕ → Prop} {Q : α → σ → Prop} (h : L.Accounts env s held m R)
    (hQ : Traced.Yields env s m (fun a s' _ => Q a s')) :
    L.Accounts env s held m (fun a s' held' => R a s' held' ∧ Q a s') := by
  intro a ha
  rcases h a ha with ⟨held', htally, hr⟩
  exact ⟨held', htally, hr, hQ a ha⟩

theorem Accounts.bind {s : σ} {held : Multiset ℕ} {m : Traced ρ ε φ σ β}
    {f : β → Traced ρ ε φ σ α} {S : β → σ → Multiset ℕ → Prop} {R : α → σ → Multiset ℕ → Prop}
    (hm : L.Accounts env s held m S)
    (hf : ∀ b s' held', S b s' held' → L.Accounts env s' held' (f b) R) :
    L.Accounts env s held (m >>= f) R := by
  rw [Accounts, Traced.yields_bind]
  refine Traced.Yields.mono hm ?_
  rintro b s' es ⟨held', htally, hS⟩
  refine Traced.Yields.mono (hf b s' held' hS) ?_
  rintro a s'' es' ⟨held'', htally', hR⟩
  exact ⟨held'', htally.append htally', hR⟩

theorem Accounts.pure {s : σ} {held : Multiset ℕ} {a : α} {R : α → σ → Multiset ℕ → Prop}
    (h : R a s held) : L.Accounts (ρ := ρ) (φ := φ) env s held (Pure.pure a) R := by
  intro b hb
  obtain rfl : a = b := Except.ok.inj hb
  exact ⟨held, .silent le_rfl rfl rfl held, h⟩

namespace Idle

theorem accounts {m : Traced ρ ε φ σ α} (h : L.Idle env m) (s : σ) (held : Multiset ℕ) :
    L.Accounts env s held m (fun _ s' held' => L.next s ≤ L.next s' ∧ held' = held) := by
  refine Traced.Yields.mono (h s) ?_
  rintro a s' es ⟨hmono, hobtained, hreleased⟩
  exact ⟨held, .silent hmono hobtained hreleased held, hmono, rfl⟩

theorem frees {m : Traced ρ ε φ σ α} (h : L.Idle env m) : L.Frees env 0 m := by
  intro s held
  rw [zero_add]
  exact (h.accounts s held).mono (fun _ _ _ hr => hr.2)

theorem pure {a : α} : L.Idle (ρ := ρ) (φ := φ) env (Pure.pure a) := by
  rintro s b -
  exact ⟨le_rfl, rfl, rfl⟩

theorem fault {f : φ} : L.Idle (α := α) env (Traced.fault f) := fun _ => Traced.yields_fault

theorem emit {e : ε} (hobtains : L.obtains e = none) (hreleases : L.releases e = none) :
    L.Idle (φ := φ) env (Traced.emit e) := by
  rintro s b -
  simp [Traced.emit, obtained, released, hobtains, hreleases]

theorem environment : L.Idle (φ := φ) env Traced.environment := by
  rintro s b -
  exact ⟨le_rfl, rfl, rfl⟩

theorem current : L.Idle (φ := φ) env Traced.current := by
  rintro s b -
  exact ⟨le_rfl, rfl, rfl⟩

theorem update {f : σ → σ} (h : ∀ s, L.next (f s) = L.next s) :
    L.Idle (φ := φ) env (Traced.update f) := by
  rintro s b -
  exact ⟨(h s).ge, rfl, rfl⟩

theorem bind {m : Traced ρ ε φ σ β} {f : β → Traced ρ ε φ σ α} (hm : L.Idle env m)
    (hf : ∀ b, L.Idle env (f b)) : L.Idle env (m >>= f) := by
  intro s
  rw [Traced.yields_bind]
  refine Traced.Yields.mono (hm s) ?_
  rintro b s' es ⟨hmono, hobtained, hreleased⟩
  refine Traced.Yields.mono (hf b s') ?_
  rintro a s'' es' ⟨hmono', hobtained', hreleased'⟩
  refine ⟨hmono.trans hmono', ?_, ?_⟩
  · rw [obtained_append, hobtained, hobtained', add_zero]
  · rw [released_append, hreleased, hreleased', add_zero]

theorem ite {p : Prop} [Decidable p] {m m' : Traced ρ ε φ σ α} (h : L.Idle env m)
    (h' : L.Idle env m') : L.Idle env (if p then m else m') := by
  split
  · exact h
  · exact h'

end Idle

namespace Frees

theorem bind {ids ids' : Multiset ℕ} {m : Traced ρ ε φ σ β} {f : β → Traced ρ ε φ σ α}
    (hm : L.Frees env ids m) (hf : ∀ b, L.Frees env ids' (f b)) :
    L.Frees env (ids + ids') (m >>= f) := by
  intro s held
  rw [add_assoc]
  apply Accounts.bind (hm s (ids' + held))
  rintro b s' _ rfl
  exact hf b s' held

theorem idle_bind {ids : Multiset ℕ} {m : Traced ρ ε φ σ β} {f : β → Traced ρ ε φ σ α}
    (hm : L.Idle env m) (hf : ∀ b, L.Frees env ids (f b)) : L.Frees env ids (m >>= f) := by
  simpa using hm.frees.bind hf

theorem bind_idle {ids : Multiset ℕ} {m : Traced ρ ε φ σ β} {f : β → Traced ρ ε φ σ α}
    (hm : L.Frees env ids m) (hf : ∀ b, L.Idle env (f b)) : L.Frees env ids (m >>= f) := by
  simpa using hm.bind (fun b => (hf b).frees)

theorem ite {ids : Multiset ℕ} {p : Prop} [Decidable p] {m m' : Traced ρ ε φ σ α}
    (h : L.Frees env ids m) (h' : L.Frees env ids m') : L.Frees env ids (if p then m else m') := by
  split
  · exact h
  · exact h'

theorem of_eq {ids ids' : Multiset ℕ} {m : Traced ρ ε φ σ α} (h : L.Frees env ids m)
    (heq : ids = ids') : L.Frees env ids' m := heq ▸ h

end Frees

end Ledger

end Fw100.Library
