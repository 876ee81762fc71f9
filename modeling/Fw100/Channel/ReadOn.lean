import Fw100.Channel.Intake

/-!
# Reading on

Two intakes that agree on what is handed out, on the unfinished text and on whether a NUL hides
what follows read the next bytes alike. So the bytes of a buffer can be read on by themselves.
-/
namespace Fw100.Channel
open Library Text

namespace Intake

/-- Bytes that come next are read alike. -/
structure Alike (s s' : Intake) : Prop where
  pieces : s.pieces = s'.pieces
  text : s.text = s'.text
  seen : s.stop = s.fill ∧ s'.stop = s'.fill ∨ s.stop < s.fill ∧ s'.stop < s'.fill

namespace Alike
variable {s s' : Intake}

theorem trans {s'' : Intake} (h : Alike s s') (h' : Alike s' s'') : Alike s s'' := by
  obtain ⟨hp, ht, hs⟩ := h
  obtain ⟨hp', ht', hs'⟩ := h'
  exact ⟨hp.trans hp', ht.trans ht', by omega⟩

theorem symm (h : Alike s s') : Alike s' s :=
  ⟨h.pieces.symm, h.text.symm, h.seen.imp And.symm And.symm⟩

theorem line (h : Alike s s') : s.line = s'.line := by
  unfold Intake.line
  obtain ⟨h₁, h₂⟩ | ⟨h₁, h₂⟩ := h.seen
  · rw [if_neg h₁.not_lt, if_neg h₂.not_lt, h.text]
  · rw [if_pos h₁, if_pos h₂]

theorem see (h : Alike s s') (x : UInt8) :
    (s.see x).pieces = (s'.see x).pieces ∧ (s.see x).text = (s'.see x).text := by
  unfold Intake.see
  rw [h.text]
  split_ifs <;> simp [h.pieces]

theorem byte (h : Alike s s') (x : UInt8) : Alike (s.byte x) (s'.byte x) := by
  unfold Intake.byte
  obtain ⟨h₁, h₂⟩ | ⟨h₁, h₂⟩ := h.seen
  · rw [if_neg h₁.not_lt, if_neg h₂.not_lt, h.text]
    split_ifs
    · exact ⟨(h.see x).1, (h.see x).2, .inl (by simp only [see_stop]; omega)⟩
    · exact ⟨by simp [behindPrompt, store, h.pieces], rfl,
        .inl (by simp only [behindPrompt, store]; omega)⟩
    · exact ⟨h.pieces, h.text, .inr (by simp only [store]; omega)⟩
  · rw [if_pos h₁, if_pos h₂]
    exact ⟨h.pieces, h.text, .inr (by simp only [store]; omega)⟩

theorem foldl (h : Alike s s') (l : List UInt8) :
    Alike (l.foldl Intake.byte s) (l.foldl Intake.byte s') :=
  List.foldl_rel h (fun x _ _ _ h => h.byte x)

end Alike

theorem foldl_see_fill_eq (s : Intake) (k : ℕ) (w : List UInt8) :
    w.foldl see { s with fill := k } = { w.foldl see s with fill := k } := by
  induction w generalizing s with
  | nil => rfl
  | cons x w ih =>
    have hsee : ({ s with fill := k } : Intake).see x = { s.see x with fill := k } := by
      unfold see
      split_ifs <;> rfl
    rw [List.foldl_cons, hsee, ih, List.foldl_cons]

theorem foldl_byte_nulFree {s : Intake} (hs : s.stop = s.fill) {w : List UInt8}
    (hw : ∀ x ∈ w, x ≠ 0) :
    w.foldl byte s = { w.foldl see s with fill := s.fill + w.length } := by
  induction w generalizing s with
  | nil => rfl
  | cons x w ih =>
    have hbyte : s.byte x = { s.see x with fill := s.fill + 1 } := by
      simp [byte, hs, hw x (by simp)]
    rw [List.foldl_cons, ih (by simp [hbyte, see_stop, hs]) (fun y hy => hw y (by simp [hy])),
      List.foldl_cons, hbyte, foldl_see_fill_eq, List.length_cons]
    simp only [Nat.add_assoc, Nat.add_comm 1]

end Intake

theorem newline_ne_zero {x : UInt8} (hx : isNewline x = true) : x ≠ 0 := by
  rintro rfl
  simp [isNewline_zero] at hx

/-- The bytes `v` of the buffer behind the pieces `handed`. -/
def readOn (handed : List Piece) (v : List UInt8) : Intake :=
  v.foldl Intake.byte ⟨handed, [], 0, 0, true, []⟩

section ReadOn
variable (handed : List Piece) {g s : List UInt8}

theorem readOn_newlines (hg : ∀ x ∈ g, isNewline x = true) (v : List UInt8) :
    Intake.Alike (readOn handed (g ++ v)) (readOn handed v) := by
  have hread : Intake.Alike (g.foldl Intake.byte ⟨handed, [], 0, 0, true, []⟩)
      ⟨handed, [], 0, 0, true, []⟩ := by
    rw [Intake.foldl_byte_nulFree rfl (fun x hx => newline_ne_zero (hg x hx)),
      Intake.foldl_newlines rfl hg]
    exact ⟨rfl, rfl, .inl ⟨by simp, rfl⟩⟩
  rw [readOn, List.foldl_append]
  exact hread.foldl v

theorem readOn_text (hs : ∀ x ∈ s, isNewline x = false) (hnul : ∀ x ∈ s, x ≠ 0) :
    Intake.Alike (readOn handed s) ⟨handed, s, 0, 0, true, []⟩ := by
  rw [readOn, Intake.foldl_byte_nulFree rfl hnul, Intake.foldl_text _ hs]
  exact ⟨rfl, rfl, .inl ⟨by simp, rfl⟩⟩

theorem readOn_line (hs : ∀ x ∈ s, isNewline x = false) (hnul : ∀ x ∈ s, x ≠ 0) (hne : s ≠ [])
    {e : UInt8} (he : isNewline e = true) (v : List UInt8) :
    Intake.Alike (readOn handed (s ++ e :: v)) (readOn (handed ++ [.line s]) v) := by
  have htext := (readOn_text handed hs hnul).byte e
  have hend : Intake.Alike (Intake.byte ⟨handed, s, 0, 0, true, []⟩ e)
      ⟨handed ++ [.line s], [], 0, 0, true, []⟩ := by
    simp only [Intake.byte, Intake.see, newline_ne_zero he, he, hne, List.isEmpty_iff, lt_irrefl, ne_eq,
      not_false_eq_true, if_true, if_false]
    exact ⟨rfl, rfl, .inl ⟨rfl, rfl⟩⟩
  rw [readOn, List.foldl_append, List.foldl_cons]
  exact (htext.trans hend).foldl v

theorem readOn_prompt (v : List UInt8) :
    Intake.Alike (readOn handed (smsPrompt ++ 0 :: v)) (readOn (handed ++ [.prompt]) v) := by
  have htext := (readOn_text handed smsPrompt_no_newline (by simp [smsPrompt])).byte 0
  have hend : Intake.Alike (Intake.byte ⟨handed, smsPrompt, 0, 0, true, []⟩ 0)
      ⟨handed ++ [.prompt], [], 0, 0, true, []⟩ := by
    simp only [Intake.byte, Intake.behindPrompt, Intake.store, lt_irrefl, ne_eq, not_true_eq_false,
      if_true, if_false]
    exact ⟨rfl, rfl, .inl ⟨rfl, rfl⟩⟩
  rw [readOn, List.foldl_append, List.foldl_cons]
  exact (htext.trans hend).foldl v

theorem readOn_hidden (hs : ∀ x ∈ s, isNewline x = false) (hnul : ∀ x ∈ s, x ≠ 0)
    (hp : s ≠ smsPrompt) (v : List UInt8) :
    Intake.Alike (readOn handed (s ++ 0 :: v)) ⟨handed, s, 0, 1, true, []⟩ := by
  have htext := (readOn_text handed hs hnul).byte 0
  have hend : Intake.Alike (Intake.byte ⟨handed, s, 0, 0, true, []⟩ 0)
      ⟨handed, s, 0, 1, true, []⟩ := by
    simp only [Intake.byte, Intake.store, hp, lt_irrefl, ne_eq, not_true_eq_false, if_false]
    exact ⟨rfl, rfl, .inr ⟨by simp, by simp⟩⟩
  have hlater : Intake.Alike (v.foldl Intake.byte ⟨handed, s, 0, 1, true, []⟩)
      ⟨handed, s, 0, 1, true, []⟩ := by
    rw [Intake.foldl_hidden (by simp)]
    exact ⟨rfl, rfl, .inr ⟨by simp, by simp⟩⟩
  rw [readOn, List.foldl_append, List.foldl_cons]
  exact ((htext.trans hend).foldl v).trans hlater

end ReadOn

end Fw100.Channel
