import Fw100.Session.Launch

/-!
# The name of the data device

`trim_path` makes the name of the data device out of the path of the data port, and
`pppd` is called for the peer of that name. The scan stops in front of the first byte, so a
separator there is found only by a path that has another one.
-/
namespace Fw100.Session
open Text

def isSeparator (b : UInt8) : Bool := b == 47 || b == 92

/-- The last component of a path: the suffix behind the last separator, or the whole path. -/
structure IsFileName (path name : CString) : Prop where
  cut : name = path ∨ ∃ dir separator, isSeparator separator = true ∧ path = dir ++ separator :: name
  clean : ∀ b ∈ name, isSeparator b = false

/-- `trim_path` stays within the string and returns the last component. -/
def TrimsRight (path : CString) : Prop :=
  ∃ name, trimPath (some path) = some name ∧ IsFileName path name

/-- The first byte is the only separator. -/
def OnlyFirstSeparates : CString → Prop
  | [] => False
  | b :: rest => isSeparator b = true ∧ ∀ c ∈ rest, isSeparator c = false

theorem isSeparator_eq_true_iff {b : UInt8} : isSeparator b = true ↔ b = 47 ∨ b = 92 := by
  simp [isSeparator]

theorem isSeparator_eq_false_iff {b : UInt8} : isSeparator b = false ↔ b ≠ 47 ∧ b ≠ 92 := by
  simp [isSeparator]

theorem exists_last_separator {path : CString} (h : ∃ b ∈ path, isSeparator b = true) :
    ∃ dir separator name, isSeparator separator = true ∧
      (∀ b ∈ name, isSeparator b = false) ∧ path = dir ++ separator :: name := by
  induction path with
  | nil => simp at h
  | cons b rest ih =>
    by_cases hrest : ∃ c ∈ rest, isSeparator c = true
    · obtain ⟨dir, separator, name, hsep, hname, rfl⟩ := ih hrest
      exact ⟨b :: dir, separator, name, hsep, hname, rfl⟩
    · have hclean : ∀ c ∈ rest, isSeparator c = false := by simpa using hrest
      obtain ⟨c, hc, hsep⟩ := h
      rcases List.mem_cons.mp hc with rfl | hc
      · exact ⟨[], c, rest, hsep, hclean, rfl⟩
      · exact absurd ⟨c, hc, hsep⟩ hrest

/-- Without a separator behind the first byte the scan runs down to it. -/
theorem trimLoop_miss {b : UInt8} {rest : CString} (h : ∀ c ∈ rest, isSeparator c = false) (k : ℕ) :
    trimLoop (b :: rest) k = b :: rest := by
  induction k with
  | zero => rfl
  | succ k ih =>
    have hmiss : (b :: rest).getD (k + 1) 0 ≠ 47 ∧ (b :: rest).getD (k + 1) 0 ≠ 92 := by
      rcases lt_or_ge k rest.length with hk | hk
      · simpa [hk] using isSeparator_eq_false_iff.mp (h _ (List.getElem_mem hk))
      · simp [List.getElem?_eq_none hk]
    rw [trimLoop, if_neg hmiss.1, if_neg hmiss.2, ih]

/-- A separator behind the first byte is found, the last one first. -/
theorem trimsRight_of_separator {b : UInt8} {rest : CString}
    (h : ∃ c ∈ rest, isSeparator c = true) : TrimsRight (b :: rest) := by
  obtain ⟨dir, separator, name, hsep, hname, rfl⟩ := exists_last_separator h
  have hclean : ∀ c ∈ name, c ≠ 47 ∧ c ≠ 92 :=
    fun c hc => isSeparator_eq_false_iff.mp (hname c hc)
  have htrim := trimPath_eq (List.cons_ne_nil b dir) (isSeparator_eq_true_iff.mp hsep) hclean
  exact ⟨name, htrim, .inr ⟨b :: dir, separator, hsep, rfl⟩, hname⟩

/-- With no separator there the whole path is returned, the first byte as it is. -/
theorem trimsRight_iff_of_clean {b : UInt8} {rest : CString}
    (h : ∀ c ∈ rest, isSeparator c = false) :
    TrimsRight (b :: rest) ↔ isSeparator b = false := by
  have htrim : trimPath (some (b :: rest)) = some (b :: rest) := by
    rw [trimPath, trimLoop_miss h]
  constructor
  · rintro ⟨name, hname, hfile⟩
    obtain rfl : b :: rest = name := Option.some.inj (htrim.symm.trans hname)
    exact hfile.clean b (.head _)
  · intro hb
    refine ⟨b :: rest, htrim, .inl rfl, ?_⟩
    intro c hc
    rcases List.mem_cons.mp hc with rfl | hc
    · exact hb
    · exact h c hc

theorem trim_path_isFileName_iff (path : CString) :
    TrimsRight path ↔ path ≠ [] ∧ ¬ OnlyFirstSeparates path := by
  cases path with
  | nil => simp [TrimsRight, trimPath]
  | cons b rest =>
    by_cases hrest : ∃ c ∈ rest, isSeparator c = true
    · obtain ⟨c, hc, hsep⟩ := hrest
      have hmany : ¬ OnlyFirstSeparates (b :: rest) := fun honly => by simp [honly.2 c hc] at hsep
      simp [trimsRight_of_separator ⟨c, hc, hsep⟩, hmany]
    · have hclean : ∀ c ∈ rest, isSeparator c = false := by simpa using hrest
      have honly : OnlyFirstSeparates (b :: rest) ↔ isSeparator b = true := and_iff_left hclean
      rw [trimsRight_iff_of_clean hclean, honly]
      simp

/-- For `/ttyUSB0` the separator stays, and the empty path is read in front of. -/
theorem trim_path_isFileName_root :
    ¬ TrimsRight (ascii "/ttyUSB0") ∧ trimPath (some (ascii "/ttyUSB0")) = some (ascii "/ttyUSB0") ∧
      ¬ TrimsRight [] ∧ trimPath (some []) = none := by
  refine ⟨?_, by decide +kernel, ?_, rfl⟩
  · rintro ⟨name, hname, hfile⟩
    obtain rfl : ascii "/ttyUSB0" = name :=
      Option.some.inj ((by decide +kernel : trimPath (some (ascii "/ttyUSB0")) =
        some (ascii "/ttyUSB0")).symm.trans hname)
    exact absurd (hfile.clean 47 (by decide)) (by decide)
  · rintro ⟨name, hname, -⟩
    cases hname

/-- The peer that `pppd` is called for is what `trim_path` makes of the data path. -/
theorem initContext_dataDevname {file : Option (List CString)} {ports : PortCtx}
    {context : PortCtx × SessionCtx} (h : initContext file ports = some context) :
    context.2.dataDevname = trimPath ports.dataPath := by
  obtain ⟨devname, htrim, hcontext⟩ := Option.bind_eq_some_iff.mp h
  obtain ⟨automatic, activate, hcontrol⟩ :=
    exists_rilReadControl (initSessionContext (some devname) 0) file
  rw [← Option.some.inj hcontext, htrim]
  simp only [hcontrol]
  rfl

/-- The session calls the right peer if `trim_path` is right on its data path. -/
theorem dataDevname_isFileName_iff {file : Option (List CString)} {ports : PortCtx}
    {context : PortCtx × SessionCtx} {path : CString} (h : initContext file ports = some context)
    (hpath : ports.dataPath = some path) :
    (∃ name, context.2.dataDevname = some name ∧ IsFileName path name) ↔ TrimsRight path := by
  rw [initContext_dataDevname h, hpath, TrimsRight]

end Fw100.Session
