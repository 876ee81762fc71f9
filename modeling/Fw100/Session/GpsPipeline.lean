import Fw100.Gps.NmeaReader
import Fw100.Session.Gps

/-!
# From the modem's lines to the NMEA parser

The reader of the GPS library is at the other end of the pseudo-terminal. It hands over every
sentence that the driver was passed, and nothing else, exactly if the driver's threads write
one sentence after the other.
-/
namespace Fw100.Session
open Library Text

theorem length_flatten_pieces {α : Type*} (cur : List α) (writes : List (Option (List α))) :
    (pieces cur writes).flatten.length = cur.length + (bodies writes).flatten.length := by
  induction writes generalizing cur with
  | nil => simp [pieces, bodies]
  | cons w writes ih =>
    cases w with
    | none => simp [pieces, ih]
    | some s =>
      rw [pieces, ih, bodies_cons_some, List.flatten_cons, List.length_append, List.length_append]
      omega

theorem length_pieces {α : Type*} (cur : List α) (writes : List (Option (List α))) :
    (pieces cur writes).length = separators writes + 1 := by
  induction writes generalizing cur with
  | nil => rfl
  | cons w writes ih =>
    cases w with
    | none => simp [pieces, ih]
    | some s => rw [pieces, ih, separators_cons_some]

section Written
variable {ws : List (Option CString)}

theorem splitOnP_pieces (hclean : ∀ s ∈ bodies ws, ∀ a ∈ s, (a == 10) = false) :
    (written 10 ws).splitOnP (· == 10) = pieces [] ws :=
  splitOnP_written (· == (10 : UInt8)) (beq_self_eq_true 10) (List.forall_mem_nil _) hclean

theorem lines_written (hclean : ∀ s ∈ bodies ws, ∀ a ∈ s, (a == 10) = false) :
    lines (· == 10) (written 10 ws) = (pieces [] ws).dropLast := by
  rw [lines, splitOnP_pieces hclean]

/-- If the lines are a rearrangement of the bodies, nothing is behind the last newline. -/
theorem pieces_of_lines_perm (h : ((pieces [] ws).dropLast).Perm (bodies ws)) :
    pieces [] ws = (pieces [] ws).dropLast ++ [[]] := by
  have hne := pieces_ne_nil [] ws
  have htotal := length_flatten_pieces [] ws
  have hparts := List.dropLast_append_getLast hne
  have hlast : (pieces [] ws).getLast hne = [] := by
    rw [← hparts, List.flatten_append, List.length_append, h.flatten.length_eq] at htotal
    simp only [List.flatten_cons, List.flatten_nil, List.append_nil, List.length_nil,
      zero_add] at htotal
    exact List.length_eq_zero_iff.mp (by omega)
  rw [hlast] at hparts
  exact hparts.symm

/-- The lines are a rearrangement of the bodies exactly if bodies and newlines alternate. -/
theorem lines_perm_iff (hclean : ∀ s ∈ bodies ws, ∀ a ∈ s, (a == 10) = false)
    (hbodies : ∀ s ∈ bodies ws, s ≠ []) (hcount : separators ws = (bodies ws).length) :
    (lines (· == 10) (written 10 ws)).Perm (bodies ws) ↔ Alternates false ws := by
  rw [lines_written hclean, ← splits_into_bodies_iff (· == (10 : UInt8)) (beq_self_eq_true 10)
    hclean hbodies hcount, splitOnP_pieces hclean]
  constructor
  · exact fun h => ⟨_, pieces_of_lines_perm h, h⟩
  · rintro ⟨ls, hls, hperm⟩
    rwa [hls, List.dropLast_concat]

end Written

/-- For every sequence of calls on the two threads and every order of their `write`s, all made:
the parser is handed every sentence once and nothing else exactly if no sentence is begun between
the two `write`s of another. -/
theorem gps_pipeline_iff (es : List GpsEvent) (hdone : (run gpsStep quiescent es).1 = quiescent)
    (hshort : ∀ text ∈ passed (run gpsStep quiescent es).2, text.length < Gps.nmeaMaxSize) :
    (Gps.handed (written 10 (writes (run gpsStep quiescent es).2))).Perm
        ((passed (run gpsStep quiescent es).2).map (· ++ [10])) ↔
      Along gpsStep BeginsAlone quiescent es := by
  have hperm : (passed (run gpsStep quiescent es).2).Perm
      (bodies (writes (run gpsStep quiescent es).2)) := unwritten_run hdone
  have hcount : separators (writes (run gpsStep quiescent es).2) =
      (bodies (writes (run gpsStep quiescent es).2)).length := by
    have haccount := outstanding_run quiescent es
    rw [hdone] at haccount
    exact (Nat.add_right_cancel haccount).symm
  have hsentence : ∀ text ∈ bodies (writes (run gpsStep quiescent es).2),
      ∃ s : Sentence, s.text = text := fun text h => passed_sentence (hperm.mem_iff.mpr h)
  have hclean : ∀ text ∈ bodies (writes (run gpsStep quiescent es).2),
      ∀ a ∈ text, (a == 10) = false := by
    intro text htext a ha
    obtain ⟨s, rfl⟩ := hsentence text htext
    have hline : a ≠ 13 ∧ a ≠ 10 := by simpa [isNewline] using s.line a ha
    simpa using hline.2
  have hbodies : ∀ text ∈ bodies (writes (run gpsStep quiescent es).2), text ≠ [] := by
    intro text htext
    obtain ⟨s, rfl⟩ := hsentence text htext
    exact s.text_ne_nil
  have hlines := lines_perm_iff hclean hbodies hcount
  rw [beginsAlone_iff_alternates hdone (by decide)]
  refine Iff.trans ?_ hlines
  constructor
  · intro hhanded
    have hlen : (lines (· == 10) (written 10 (writes (run gpsStep quiescent es).2))).length =
        (bodies (writes (run gpsStep quiescent es).2)).length := by
      rw [lines_written hclean, List.length_dropLast, length_pieces, hcount, Nat.add_sub_cancel]
    have hall := (Gps.handed_sublist (written 10 (writes (run gpsStep quiescent es).2))).eq_of_length
      (by rw [hhanded.length_eq, List.length_map, List.length_map, hlen, hperm.length_eq])
    rw [hall] at hhanded
    have hinj : Function.Injective (fun line : List UInt8 => line ++ [10]) :=
      fun a b hab => List.append_cancel_right hab
    exact ((List.map_perm_map_iff hinj).mp hhanded).trans hperm
  · intro hls
    have hfits : ∀ line ∈ lines (· == 10) (written 10 (writes (run gpsStep quiescent es).2)),
        line.length < Gps.nmeaMaxSize :=
      fun line hline => hshort line (hperm.mem_iff.mpr (hls.mem_iff.mp hline))
    rw [Gps.handed_of_short hfits]
    exact (hls.trans hperm.symm).map _

theorem gps_pipeline_in_turn :
    let outputs := (run gpsStep quiescent
      [.modemTimer, .unsolicited testSentence, .write .mainLoop, .write .mainLoop, .write .reader,
        .write .reader]).2
    (Gps.handed (written 10 (writes outputs))).Perm ((passed outputs).map (· ++ [10])) := by
  refine (gps_pipeline_iff _ ?_ ?_).mpr ?_
  · funext t
    cases t <;> rfl
  · decide
  · simp only [Along, BeginsAlone, gpsStep, passSentence, quiescent, if_true, true_and, and_true]
    refine ⟨?_, ?_, ?_, ?_⟩
    · intro sentence _ u hu
      cases u <;> cases hu
    · intro sentence h
      cases h
    · intro sentence _ u hu
      cases u <;> cases hu
    · intro sentence h
      cases h

end Fw100.Session
