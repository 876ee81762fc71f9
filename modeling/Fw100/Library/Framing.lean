import Mathlib.Data.List.Basic
import Mathlib.Tactic

/-!
# Frames and their separators, written apart

Each frame is written as its body and then its separator. Several writers share one stream,
so bodies and separators can come in any order. The stream splits into the bodies exactly if
bodies and separators alternate.
-/
namespace Fw100.Library

variable {α : Type*}

def bodies (writes : List (Option (List α))) : List (List α) := writes.filterMap id

def separators (writes : List (Option (List α))) : ℕ := writes.countP Option.isNone

/-- What the writes leave in the stream. -/
def written (e : α) (writes : List (Option (List α))) : List α :=
  writes.flatMap (fun w => w.getD [e])

/-- The pieces of the stream that follow an unfinished piece `cur`. -/
def pieces (cur : List α) : List (Option (List α)) → List (List α)
  | [] => [cur]
  | some s :: writes => pieces (cur ++ s) writes
  | none :: writes => cur :: pieces [] writes

/-- Bodies and separators alternate; a frame is open in front of a separator. -/
def Alternates : Bool → List (Option (List α)) → Prop
  | false, [] => True
  | false, some _ :: writes => Alternates true writes
  | true, none :: writes => Alternates false writes
  | _, _ => False

section Counts

@[simp] theorem bodies_cons_some (s : List α) (writes : List (Option (List α))) :
    bodies (some s :: writes) = s :: bodies writes := rfl

@[simp] theorem bodies_cons_none (writes : List (Option (List α))) :
    bodies (none :: writes) = bodies writes := rfl

@[simp] theorem separators_cons_some (s : List α) (writes : List (Option (List α))) :
    separators (some s :: writes) = separators writes := by
  simp [separators]

@[simp] theorem separators_cons_none (writes : List (Option (List α))) :
    separators (none :: writes) = separators writes + 1 := by
  simp [separators]

end Counts

theorem pieces_ne_nil (cur : List α) (writes : List (Option (List α))) :
    pieces cur writes ≠ [] := by
  induction writes generalizing cur with
  | nil => exact List.cons_ne_nil _ _
  | cons w writes ih =>
    cases w with
    | none => exact List.cons_ne_nil _ _
    | some s => exact ih _

/-- The pieces are what the stream splits into. -/
theorem splitOnP_written (sep : α → Bool) {e : α} (he : sep e = true) {cur : List α}
    (hcur : ∀ a ∈ cur, sep a = false) {writes : List (Option (List α))}
    (hbodies : ∀ s ∈ bodies writes, ∀ a ∈ s, sep a = false) :
    (cur ++ written e writes).splitOnP sep = pieces cur writes := by
  induction writes generalizing cur with
  | nil => simpa [written, pieces] using List.splitOnP_eq_singleton hcur
  | cons w writes ih =>
    cases w with
    | none =>
      have hrest := ih (by simp : ∀ a ∈ ([] : List α), sep a = false) hbodies
      simp only [List.nil_append] at hrest
      simp only [written, List.flatMap_cons, Option.getD_none, List.singleton_append, pieces]
      rw [List.splitOnP_append_cons_of_forall_mem hcur e he, ← hrest, written]
    | some s =>
      have hs : ∀ a ∈ cur ++ s, sep a = false := by
        simp only [List.mem_append]
        rintro a (ha | ha)
        · exact hcur a ha
        · exact hbodies s (by simp) a ha
      have hrest := ih hs (fun s' hs' => hbodies s' (by simp [hs']))
      simpa [written, pieces] using hrest

/-- Alternating writes leave the bodies and nothing behind the last separator. -/
theorem pieces_of_alternates {writes : List (Option (List α))} :
    (Alternates false writes → pieces [] writes = bodies writes ++ [[]]) ∧
      ∀ cur, Alternates true writes → pieces cur writes = cur :: bodies writes ++ [[]] := by
  induction writes with
  | nil => exact ⟨fun _ => rfl, fun _ h => h.elim⟩
  | cons w writes ih =>
    cases w with
    | none =>
      refine ⟨fun h => h.elim, fun cur h => ?_⟩
      simp [pieces, ih.1 h]
    | some s =>
      refine ⟨fun h => ?_, fun _ h => h.elim⟩
      simpa [pieces] using ih.2 s h

/-- Pieces that are not empty hold one body at least, so with as many bodies as separators
they hold one body each. The unfinished piece holds `k` bodies. -/
theorem alternates_of_pieces {writes : List (Option (List α))}
    (hbodies : ∀ s ∈ bodies writes, s ≠ []) {cur : List α} {k : ℕ} (hk : cur = [] ↔ k = 0)
    {lines : List (List α)} (hpieces : pieces cur writes = lines ++ [[]])
    (hlines : ∀ line ∈ lines, line ≠ []) :
    separators writes ≤ k + (bodies writes).length ∧
      (separators writes = k + (bodies writes).length →
        k = 0 ∧ Alternates false writes ∨ k = 1 ∧ Alternates true writes) := by
  induction writes generalizing cur k lines with
  | nil =>
    obtain rfl : cur = [] := by
      have hlast := congrArg List.getLast? hpieces
      simpa [pieces] using hlast
    simp [bodies, separators, Alternates, hk.mp rfl]
  | cons w writes ih =>
    cases w with
    | none =>
      cases lines with
      | nil =>
        have hlen := congrArg List.length hpieces
        have hpos := List.length_pos_of_ne_nil (pieces_ne_nil [] writes)
        simp only [pieces, List.length_cons, List.nil_append, List.length_nil] at hlen
        omega
      | cons line lines =>
        obtain ⟨rfl, hrest⟩ : cur = line ∧ pieces [] writes = lines ++ [[]] := by
          simpa [pieces] using hpieces
        have hne : k ≠ 0 := fun h0 => hlines cur (by simp) (hk.mpr h0)
        rcases ih hbodies (by simp : ([] : List α) = [] ↔ (0 : ℕ) = 0) hrest
          (fun l hl => hlines l (by simp [hl])) with ⟨hle, heq⟩
        simp only [separators_cons_none, bodies_cons_none]
        refine ⟨by omega, fun hcount => ?_⟩
        rcases heq (by omega) with ⟨-, halt⟩ | ⟨h01, -⟩
        · exact .inr ⟨by omega, halt⟩
        · omega
    | some s =>
      have hs : s ≠ [] := hbodies s (by simp)
      rcases ih (fun s' hs' => hbodies s' (by simp [hs']))
        (by simp [hs] : cur ++ s = [] ↔ k + 1 = 0) hpieces hlines with ⟨hle, heq⟩
      simp only [separators_cons_some, bodies_cons_some, List.length_cons]
      refine ⟨by omega, fun hcount => ?_⟩
      rcases heq (by omega) with ⟨h0, -⟩ | ⟨h1, halt⟩
      · omega
      · exact .inl ⟨by omega, halt⟩

/-- With as many separators as bodies, none of which is empty: the stream splits into a
rearrangement of the bodies exactly if the writes alternate. -/
theorem splits_into_bodies_iff (sep : α → Bool) {e : α} (he : sep e = true)
    {writes : List (Option (List α))} (hclean : ∀ s ∈ bodies writes, ∀ a ∈ s, sep a = false)
    (hbodies : ∀ s ∈ bodies writes, s ≠ [])
    (hcount : separators writes = (bodies writes).length) :
    (∃ lines, (written e writes).splitOnP sep = lines ++ [[]] ∧ lines.Perm (bodies writes)) ↔
      Alternates false writes := by
  have hsplit := splitOnP_written sep he (by simp : ∀ a ∈ ([] : List α), sep a = false) hclean
  rw [List.nil_append] at hsplit
  rw [hsplit]
  constructor
  · rintro ⟨lines, hpieces, hperm⟩
    have hlines : ∀ line ∈ lines, line ≠ [] := fun line hl => hbodies line (hperm.mem_iff.mp hl)
    rcases (alternates_of_pieces hbodies (by simp : ([] : List α) = [] ↔ (0 : ℕ) = 0) hpieces
      hlines).2 (by omega) with ⟨-, halt⟩ | ⟨h01, -⟩
    · exact halt
    · omega
  · exact fun halt => ⟨bodies writes, pieces_of_alternates.1 halt, .refl _⟩

end Fw100.Library
