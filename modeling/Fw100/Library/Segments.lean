import Mathlib.Data.List.TakeWhile
import Mathlib.Tactic

/-!
# Separator-delimited segments of a sequence

A sequence over an arbitrary alphabet is cut at every separator. The complete
lines are the nonempty pieces that a separator follows; the last piece is never
one of them, because nothing terminates it.
-/
namespace Fw100.Library

variable {α : Type*} (sep : α → Bool)

/-- The nonempty separator-free pieces that are followed by a separator, in order. -/
def completeLines (l : List α) : List (List α) :=
  (l.splitOnP sep).dropLast.filter (fun s => !s.isEmpty)

theorem completeLines_of_forall {l : List α} (h : ∀ a ∈ l, sep a = false) :
    completeLines sep l = [] := by
  simp [completeLines, List.splitOnP_eq_singleton h]

theorem completeLines_append_cons {s : List α} (h : ∀ a ∈ s, sep a = false) {e : α}
    (he : sep e = true) (l : List α) :
    completeLines sep (s ++ e :: l) = (if s.isEmpty then [] else [s]) ++ completeLines sep l := by
  have hl : l.splitOnP sep ≠ [] := List.splitOnP_ne_nil _ _
  rw [completeLines, List.splitOnP_append_cons_of_forall_mem h e he,
    List.dropLast_cons_of_ne_nil hl, List.filter_cons]
  cases s <;> simp [completeLines]

theorem completeLines_append_sep (l : List α) {e : α} (he : sep e = true) (m : List α) :
    completeLines sep (l ++ e :: m) =
      completeLines sep (l ++ [e]) ++ completeLines sep m := by
  have hm : m.splitOnP sep ≠ [] := List.splitOnP_ne_nil _ _
  simp only [completeLines, List.splitOnP_append_cons l m he, List.splitOnP_append_cons l [] he,
    List.dropLast_append_of_ne_nil hm, List.filter_append]
  simp

theorem completeLines_cons_sep {e : α} (he : sep e = true) (l : List α) :
    completeLines sep (e :: l) = completeLines sep l := by
  simpa using completeLines_append_cons sep (s := []) (by simp) he l

theorem completeLines_append_seps {r : List α} (hr : ∀ a ∈ r, sep a = true) (l : List α) :
    completeLines sep (r ++ l) = completeLines sep l := by
  induction r with
  | nil => rfl
  | cons a r ih =>
    rw [List.cons_append, completeLines_cons_sep sep (hr a (by simp))]
    exact ih (fun b hb => hr b (by simp [hb]))

theorem completeLines_dropWhile (l : List α) :
    completeLines sep (l.dropWhile sep) = completeLines sep l := by
  conv_rhs => rw [← List.takeWhile_append_dropWhile (p := sep) (l := l)]
  rw [completeLines_append_seps sep (fun a ha => List.mem_takeWhile_imp ha)]

/-- The first complete line after the leading separators, and what follows its end. -/
def firstLine (l : List α) : Option (List α × List α) :=
  match (l.dropWhile sep).dropWhile (fun a => !sep a) with
  | [] => none
  | _ :: r => some ((l.dropWhile sep).takeWhile (fun a => !sep a), r)

theorem firstLine_eq_none_iff {l : List α} :
    firstLine sep l = none ↔ ∀ a ∈ l.dropWhile sep, sep a = false := by
  rw [firstLine]
  cases h : (l.dropWhile sep).dropWhile (fun a => !sep a) with
  | nil => simpa [List.dropWhile_eq_nil_iff] using h
  | cons e r =>
    have hne : (l.dropWhile sep).dropWhile (fun a => !sep a) ≠ [] := by simp [h]
    rw [ne_eq, List.dropWhile_eq_nil_iff] at hne
    simpa using hne

/-- A first line with its end and remainder is a decomposition of the sequence. -/
theorem firstLine_eq_some {l s r : List α} (h : firstLine sep l = some (s, r)) :
    ∃ e, l = l.takeWhile sep ++ s ++ e :: r ∧ sep e = true ∧ (∀ a ∈ s, sep a = false) ∧ s ≠ [] := by
  rw [firstLine] at h
  have hv := List.takeWhile_append_dropWhile (p := sep) (l := l)
  cases hd : (l.dropWhile sep).dropWhile (fun a => !sep a) with
  | nil => simp [hd] at h
  | cons e r' =>
    have hw := List.takeWhile_append_dropWhile (p := fun a => !sep a) (l := l.dropWhile sep)
    simp only [hd, Option.some.injEq, Prod.mk.injEq] at h
    rcases h with ⟨rfl, rfl⟩
    have he := List.head_dropWhile_not (fun a => !sep a) (l := l.dropWhile sep) (by simp [hd])
    simp only [hd, List.head_cons, Bool.not_eq_false'] at he
    refine ⟨e, ?_, he, fun a ha => by simpa using List.mem_takeWhile_imp ha, ?_⟩
    · rw [hd] at hw
      rw [List.append_assoc, hw, hv]
    · intro hnil
      rw [hnil, List.nil_append, hd] at hw
      have h0 := List.head_dropWhile_not sep (l := l) (by simp [← hw])
      simp [← hw, he] at h0

theorem firstLine_of_eq {g s r : List α} {e : α} (hg : ∀ a ∈ g, sep a = true)
    (hs : ∀ a ∈ s, sep a = false) (hne : s ≠ []) (he : sep e = true) :
    firstLine sep (g ++ s ++ e :: r) = some (s, r) := by
  rcases List.exists_cons_of_ne_nil hne with ⟨c, s, rfl⟩
  have hc : sep c = false := hs c (by simp)
  have h1 : (g ++ (c :: s) ++ e :: r).dropWhile sep = (c :: s) ++ e :: r := by
    rw [List.append_assoc, List.dropWhile_append_of_pos hg]
    simp [hc]
  have hs' : ∀ a ∈ c :: s, (!sep a) = true := fun a ha => by simp [hs a ha]
  rw [firstLine, h1, List.dropWhile_append_of_pos hs', List.takeWhile_append_of_pos hs']
  simp [he]

theorem completeLines_eq_firstLine (l : List α) :
    completeLines sep l =
      match firstLine sep l with
      | none => []
      | some (s, r) => s :: completeLines sep r := by
  cases h : firstLine sep l with
  | none =>
    rw [← completeLines_dropWhile]
    exact completeLines_of_forall sep ((firstLine_eq_none_iff sep).mp h)
  | some p =>
    rcases p with ⟨s, r⟩
    rcases firstLine_eq_some sep h with ⟨e, hl, he, hs, hne⟩
    rw [hl, List.append_assoc,
      completeLines_append_seps sep (fun a ha => List.mem_takeWhile_imp ha),
      completeLines_append_cons sep hs he]
    simp [hne]

end Fw100.Library
