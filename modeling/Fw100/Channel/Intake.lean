import Fw100.Channel.BufferInvariant

/-!
# The lines that the received chunks make up

The bytes are read one after the other, whatever calls of `readline` they are handed out by.
A CR or LF ends a line. So does a read that stops behind the SMS prompt, and then the bytes
that earlier reads left in the buffer behind the prompt count as received. A read that fills
the buffer without a line end drops the unfinished text. A NUL hides what follows it, unless
it stands behind the prompt, until a line in front of it has been handed out or the buffer is
full. `readline` hands out these lines.
-/
namespace Fw100.Channel
open Library Text

/-- What reaches the driver: a byte, or the end of a `read`. -/
inductive Arrival where
  | byte (c : UInt8)
  | pause
deriving DecidableEq

def ReadResult.arrivals : ReadResult → List Arrival
  | .data c => c.map .byte ++ [.pause]
  | .eintr => []
  | .error => []

def arrivals (rs : List ReadResult) : List Arrival := rs.flatMap ReadResult.arrivals

inductive Piece where
  | line (l : CString)
  | prompt
deriving DecidableEq

@[simp] def Piece.text : Piece → CString
  | .line l => l
  | .prompt => smsPrompt

/-- The bytes received so far. The next one is stored at `fill`; what can be seen ends at `stop`,
in front of it if a NUL was received. `cells` is the buffer once all pieces are handed out. -/
structure Intake where
  pieces : List Piece
  text : CString
  stop : ℕ
  fill : ℕ
  /-- A piece has ended since the last `read`. -/
  ended : Bool
  cells : List UInt8

namespace Intake

def initial : Intake := ⟨[], [], 0, 0, false, List.replicate (maxAtResponse + 1) 0⟩

/-- A byte that can be seen. The end of a line leaves a NUL in the buffer. -/
def see (s : Intake) (c : UInt8) : Intake :=
  if isNewline c then
    if s.text.isEmpty then { s with stop := s.stop + 1, cells := s.cells.set s.stop c }
    else { s with pieces := s.pieces ++ [.line s.text], text := [], stop := s.stop + 1,
                  ended := true, cells := s.cells.set s.stop 0 }
  else { s with text := s.text ++ [c], stop := s.stop + 1, cells := s.cells.set s.stop c }

def store (s : Intake) (c : UInt8) : Intake :=
  { s with fill := s.fill + 1, cells := s.cells.set s.fill c }

def behindPrompt (s : Intake) : Intake :=
  { s with pieces := s.pieces ++ [.prompt], text := [], stop := s.stop + 1, ended := true }

/-- One more byte. -/
def byte (s : Intake) (c : UInt8) : Intake :=
  if s.stop < s.fill then s.store c
  else if c ≠ 0 then { s.see c with fill := s.fill + 1 }
  else if s.text = smsPrompt then (s.store 0).behindPrompt
  else s.store 0

def rewind (s : Intake) : Intake :=
  { s with stop := s.text.length, fill := s.text.length, ended := false,
           cells := overwrite 0 (s.text ++ [0]) s.cells }

/-- What the buffer holds behind the prompt's NUL is read on. -/
def takePrompt (s : Intake) : Intake :=
  (cstr (s.cells.drop (s.stop + 1))).foldl see s.behindPrompt

def settle : ℕ → Intake → Intake
  | 0, s => s
  | n + 1, s =>
    if s.text = smsPrompt then settle n s.takePrompt
    else if s.ended then s.rewind
    else if s.fill = maxAtResponse then { s with text := [] }.rewind
    else s

def terminate (s : Intake) : Intake := { s with cells := s.cells.set s.fill 0 }

/-- A `read` ends: the data is terminated and the pieces are handed out. -/
def pause (s : Intake) : Intake := settle (maxAtResponse + 2) s.terminate

/-- A `read` also ends when the buffer is full. -/
def step (s : Intake) : Arrival → Intake
  | .byte c => if (s.byte c).fill = maxAtResponse then (s.byte c).pause else s.byte c
  | .pause => s.pause

/-- The line that a CR or LF would end here. -/
def line (s : Intake) : CString := if s.stop < s.fill then [] else s.text

end Intake

def intake (as : List Arrival) : Intake := as.foldl Intake.step .initial

namespace Intake

/-! ### Bytes that can be seen -/

theorem foldl_newlines {s : Intake} (hs : s.text = []) {g : List UInt8}
    (hg : ∀ x ∈ g, isNewline x = true) :
    g.foldl see s =
      { s with stop := s.stop + g.length, cells := overwrite s.stop g s.cells } := by
  induction g generalizing s with
  | nil => simp [overwrite_nil]
  | cons x g ih =>
    have hsee : s.see x = { s with stop := s.stop + 1, cells := s.cells.set s.stop x } := by
      simp [see, hg x (by simp), hs]
    have htext : (s.see x).text = [] := by rw [hsee, hs]
    rw [List.foldl_cons, ih htext (fun y hy => hg y (by simp [hy])), hsee, overwrite_cons]
    simp [Nat.add_assoc, Nat.add_comm 1]

theorem foldl_text (s : Intake) {v : List UInt8} (hv : ∀ x ∈ v, isNewline x = false) :
    v.foldl see s =
      { s with text := s.text ++ v, stop := s.stop + v.length,
               cells := overwrite s.stop v s.cells } := by
  induction v generalizing s with
  | nil => simp [overwrite_nil]
  | cons x v ih =>
    have hsee : s.see x =
        { s with text := s.text ++ [x], stop := s.stop + 1, cells := s.cells.set s.stop x } := by
      simp [see, hv x (by simp)]
    rw [List.foldl_cons, hsee, ih _ (fun y hy => hv y (by simp [hy])), overwrite_cons]
    simp [Nat.add_assoc, Nat.add_comm 1]

theorem see_stop (s : Intake) (x : UInt8) : (s.see x).stop = s.stop + 1 := by
  unfold see
  split_ifs <;> rfl

theorem see_fill (s : Intake) (x : UInt8) : (s.see x).fill = s.fill := by
  unfold see
  split_ifs <;> rfl

theorem foldl_see_stop (s : Intake) (l : List UInt8) :
    (l.foldl see s).stop = s.stop + l.length := by
  induction l generalizing s with
  | nil => rfl
  | cons x l ih =>
    rw [List.foldl_cons, ih, see_stop, List.length_cons]
    omega

theorem foldl_see_fill (s : Intake) (l : List UInt8) : (l.foldl see s).fill = s.fill := by
  induction l generalizing s with
  | nil => rfl
  | cons x l ih => rw [List.foldl_cons, ih, see_fill]

/-! ### Bytes as they are stored -/

theorem byte_fill (s : Intake) (x : UInt8) : (s.byte x).fill = s.fill + 1 := by
  unfold byte
  split_ifs <;> rfl

theorem foldl_byte_fill (s : Intake) (l : List UInt8) :
    (l.foldl byte s).fill = s.fill + l.length := by
  induction l generalizing s with
  | nil => rfl
  | cons x l ih =>
    rw [List.foldl_cons, ih, byte_fill, List.length_cons]
    omega

/-- Nothing is seen behind a NUL. -/
theorem foldl_hidden {s : Intake} (h : s.stop < s.fill) (c : List UInt8) :
    c.foldl byte s =
      { s with fill := s.fill + c.length, cells := overwrite s.fill c s.cells } := by
  induction c generalizing s with
  | nil => simp [overwrite_nil]
  | cons x c ih =>
    have hbyte : s.byte x = s.store x := if_pos h
    rw [List.foldl_cons, hbyte, ih (by simp only [store]; omega), overwrite_cons]
    simp [store, Nat.add_assoc, Nat.add_comm 1]

/-- The state with a chunk stored of which nothing has been seen. -/
def storeAll (s : Intake) (c : List UInt8) : Intake :=
  { s with fill := s.fill + c.length, cells := overwrite s.fill (c ++ [0]) s.cells }

theorem storeAll_cons (s : Intake) (x : UInt8) (c : List UInt8) :
    s.storeAll (x :: c) = (s.store x).storeAll c := by
  simp only [storeAll, store, List.cons_append, overwrite_cons, List.length_cons]
  simp [Nat.add_assoc, Nat.add_comm 1]

theorem terminate_hidden {s : Intake} (h : s.stop < s.fill) (c : List UInt8) :
    (c.foldl byte s).terminate = s.storeAll c := by
  induction c generalizing s with
  | nil => simp [terminate, storeAll, overwrite_singleton]
  | cons x c ih =>
    have hbyte : s.byte x = s.store x := if_pos h
    rw [List.foldl_cons, hbyte, ih (by simp only [store]; omega), storeAll_cons]

theorem see_storeAll {s : Intake} (h : s.stop = s.fill) (x : UInt8) (c : List UInt8) :
    (s.storeAll (x :: c)).see x = { s.see x with fill := s.fill + 1 }.storeAll c := by
  simp only [storeAll, List.cons_append, overwrite_cons, List.length_cons]
  unfold see
  split_ifs <;> simp [h, set_overwrite, Nat.add_assoc, Nat.add_comm 1]

theorem see_cells_length (s : Intake) (x : UInt8) : (s.see x).cells.length = s.cells.length := by
  unfold see
  split_ifs <;> simp

theorem foldl_see_cells_length (s : Intake) (l : List UInt8) :
    (l.foldl see s).cells.length = s.cells.length := by
  induction l generalizing s with
  | nil => rfl
  | cons x l ih => rw [List.foldl_cons, ih, see_cells_length]

theorem byte_cells_length (s : Intake) (x : UInt8) : (s.byte x).cells.length = s.cells.length := by
  unfold byte
  split_ifs <;> simp [store, behindPrompt, see_cells_length]

theorem foldl_byte_cells_length (s : Intake) (l : List UInt8) :
    (l.foldl byte s).cells.length = s.cells.length := by
  induction l generalizing s with
  | nil => rfl
  | cons x l ih => rw [List.foldl_cons, ih, byte_cells_length]

theorem takePrompt_storeAll {s : Intake} (h : s.stop = s.fill) {c : List UInt8}
    (hroom : s.fill + c.length + 1 < s.cells.length) :
    (s.storeAll (0 :: c)).takePrompt = (cstr c).foldl see ((s.store 0).behindPrompt.storeAll c) := by
  have hdrop : (s.storeAll (0 :: c)).cells.drop (s.stop + 1) =
      c ++ 0 :: (s.cells.set s.fill 0).drop (s.fill + 1 + (c ++ [0]).length) := by
    rw [storeAll, List.cons_append, overwrite_cons, h, drop_overwrite (by simp; omega)]
    simp
  have hsame : (s.storeAll (0 :: c)).behindPrompt = (s.store 0).behindPrompt.storeAll c := by
    rw [storeAll_cons]
    rfl
  have hstop : (s.storeAll (0 :: c)).stop = s.stop := rfl
  rw [takePrompt, hstop, hdrop, hsame, cstr_append_zero]

theorem settle_storeAll {s : Intake} (h : s.stop = s.fill) {c : List UInt8}
    (hroom : s.fill + c.length < s.cells.length) :
    ∃ k, ∀ n, settle n (c.foldl byte s).terminate =
      settle (n + k) ((cstr c).foldl see (s.storeAll c)) := by
  induction c generalizing s with
  | nil => exact ⟨0, fun n => by simp [terminate, storeAll, overwrite_singleton, cstr]⟩
  | cons x c ih =>
    rw [List.length_cons] at hroom
    by_cases hx : x = 0
    · subst hx
      have hzero : cstr (0 :: c) = [] := by simp [cstr]
      by_cases hp : s.text = smsPrompt
      · have hbyte : s.byte 0 = (s.store 0).behindPrompt := by
          simp [byte, h, hp]
        obtain ⟨k, hk⟩ := ih (s := (s.store 0).behindPrompt) (by simp [behindPrompt, store, h])
          (by simp [behindPrompt, store]; omega)
        refine ⟨k + 1, fun n => ?_⟩
        have hp' : (s.storeAll (0 :: c)).text = smsPrompt := hp
        rw [List.foldl_cons, hbyte, hk, hzero, List.foldl_nil, ← Nat.add_assoc, settle, if_pos hp',
          takePrompt_storeAll h (by omega)]
      · have hbyte : s.byte 0 = s.store 0 := by
          simp [byte, h, hp]
        refine ⟨0, fun n => ?_⟩
        rw [List.foldl_cons, hbyte, terminate_hidden (by simp [store, h]), hzero, List.foldl_nil,
          storeAll_cons, Nat.add_zero]
    · have hbyte : s.byte x = { s.see x with fill := s.fill + 1 } := by
        simp [byte, h, hx]
      obtain ⟨k, hk⟩ := ih (s := s.byte x) (by rw [hbyte]; simp [see_stop, h])
        (by rw [byte_fill, byte_cells_length]; omega)
      refine ⟨k, fun n => ?_⟩
      have hcons : cstr (x :: c) = x :: cstr c := by simp [cstr, hx]
      rw [List.foldl_cons, hk, hcons, List.foldl_cons, see_storeAll h, hbyte]

/-! ### Pieces stay -/

theorem see_pieces (s : Intake) (x : UInt8) : s.pieces <+: (s.see x).pieces := by
  unfold see
  split_ifs <;> simp

theorem foldl_see_pieces (s : Intake) (l : List UInt8) :
    s.pieces <+: (l.foldl see s).pieces := by
  induction l generalizing s with
  | nil => exact List.prefix_rfl
  | cons x l ih => exact (s.see_pieces x).trans (ih _)

theorem byte_pieces (s : Intake) (x : UInt8) : s.pieces <+: (s.byte x).pieces := by
  unfold byte
  split_ifs
  · exact List.prefix_rfl
  · exact s.see_pieces x
  · exact List.prefix_append _ _
  · exact List.prefix_rfl

theorem foldl_byte_pieces (s : Intake) (l : List UInt8) :
    s.pieces <+: (l.foldl byte s).pieces := by
  induction l generalizing s with
  | nil => exact List.prefix_rfl
  | cons x l ih => exact (s.byte_pieces x).trans (ih _)

theorem settle_pieces (n : ℕ) (s : Intake) : s.pieces <+: (settle n s).pieces := by
  induction n generalizing s with
  | zero => exact List.prefix_rfl
  | succ n ih =>
    rw [settle]
    split_ifs
    · refine ((List.prefix_append s.pieces [.prompt]).trans ?_).trans (ih _)
      exact foldl_see_pieces s.behindPrompt _
    · exact List.prefix_rfl
    · exact List.prefix_rfl
    · exact List.prefix_rfl

theorem step_pieces (s : Intake) (x : Arrival) : s.pieces <+: (s.step x).pieces := by
  have hpause (s : Intake) : s.pieces <+: s.pause.pieces := settle_pieces _ s.terminate
  cases x with
  | pause => exact hpause s
  | byte c =>
    rw [step]
    split_ifs
    · exact (s.byte_pieces c).trans (hpause _)
    · exact s.byte_pieces c

theorem foldl_step_pieces (s : Intake) (as : List Arrival) :
    s.pieces <+: (as.foldl step s).pieces := by
  induction as generalizing s with
  | nil => exact List.prefix_rfl
  | cons x as ih => exact (s.step_pieces x).trans (ih _)

/-! ### Pauses -/

/-- The unfinished text stands in the buffer, behind the piece that ended last. -/
def Sane (s : Intake) : Prop :=
  s.text = [] ∨ s.text.length ≤ s.stop ∧ s.stop ≤ s.cells.length ∧
    (s.ended = true → s.text.length + 2 ≤ s.stop)

theorem foldl_see_text {s : Intake} (htext : s.text.length ≤ s.stop)
    (hended : s.ended = true → s.text.length + 2 ≤ s.stop) (l : List UInt8) :
    (l.foldl see s).text.length ≤ (l.foldl see s).stop ∧
      ((l.foldl see s).ended = true → (l.foldl see s).text.length + 2 ≤ (l.foldl see s).stop) := by
  induction l generalizing s with
  | nil => exact ⟨htext, hended⟩
  | cons x l ih =>
    rw [List.foldl_cons]
    refine ih ?_ ?_
    · unfold see
      split_ifs <;> simp <;> omega
    · unfold see
      split_ifs with hx ht
      · intro he
        simpa using (hended he).trans (Nat.le_succ _)
      · have : 0 < s.text.length := by
          rw [List.length_pos_iff]
          simpa using ht
        simp
        omega
      · intro he
        have := hended he
        simp
        omega

theorem foldl_byte_text {s : Intake} (htext : s.text.length ≤ s.stop)
    (hended : s.ended = true → s.text.length + 2 ≤ s.stop) (hstop : s.stop ≤ s.fill)
    (l : List UInt8) :
    (l.foldl byte s).text.length ≤ (l.foldl byte s).stop ∧
      ((l.foldl byte s).ended = true →
        (l.foldl byte s).text.length + 2 ≤ (l.foldl byte s).stop) ∧
      (l.foldl byte s).stop ≤ (l.foldl byte s).fill := by
  induction l generalizing s with
  | nil => exact ⟨htext, hended, hstop⟩
  | cons x l ih =>
    rw [List.foldl_cons]
    unfold byte
    split_ifs with hhidden hx hp
    · exact ih htext hended (Nat.le_succ_of_le hstop)
    · obtain ⟨htext', hended'⟩ := foldl_see_text htext hended [x]
      exact ih htext' hended' (by simp only [see_stop]; omega)
    · have hlen : s.text.length = 2 := by simp [hp, smsPrompt]
      exact ih (by simp [behindPrompt]) (by simp [behindPrompt, store]; omega)
        (by simp [behindPrompt, store]; omega)
    · exact ih htext hended (Nat.le_succ_of_le hstop)

theorem takePrompt_cells_length (s : Intake) : s.takePrompt.cells.length = s.cells.length :=
  foldl_see_cells_length _ _

theorem takePrompt_stop (s : Intake) :
    s.takePrompt.stop = s.stop + 1 + (cstr (s.cells.drop (s.stop + 1))).length :=
  foldl_see_stop _ _

theorem foldl_see_text_length (s : Intake) (l : List UInt8) :
    (l.foldl see s).text.length ≤ s.text.length + l.length := by
  induction l generalizing s with
  | nil => simp
  | cons x l ih =>
    refine (ih _).trans ?_
    unfold see
    split_ifs <;> simp <;> omega

theorem Sane.takePrompt {s : Intake} (hs : Sane s) (hp : s.text = smsPrompt) :
    Sane s.takePrompt ∧ (s.takePrompt.text = smsPrompt → s.stop + 3 ≤ s.takePrompt.stop) := by
  have hlen : s.text.length = 2 := by simp [hp, smsPrompt]
  obtain h0 | ⟨htext, hstop, -⟩ := hs
  · simp [h0, smsPrompt] at hp
  have hstop' := s.takePrompt_stop
  have hcells := s.takePrompt_cells_length
  unfold Intake.takePrompt at hstop' hcells ⊢
  have hbehind : (cstr (s.cells.drop (s.stop + 1))).length ≤ s.cells.length - (s.stop + 1) := by
    have := (List.takeWhile_sublist (l := s.cells.drop (s.stop + 1)) (· != 0)).length_le
    rwa [List.length_drop] at this
  generalize cstr (s.cells.drop (s.stop + 1)) = X at *
  have hsee := foldl_see_text (s := s.behindPrompt) (by simp [behindPrompt])
    (by simp [behindPrompt]; omega) X
  have htextX : (X.foldl see s.behindPrompt).text.length ≤ X.length := by
    simpa [behindPrompt] using foldl_see_text_length s.behindPrompt X
  refine ⟨?_, fun hp' => ?_⟩
  · obtain h0 | hpos := Nat.eq_zero_or_pos X.length
    · exact .inl (by simpa [h0] using htextX)
    · exact .inr ⟨hsee.1, by omega, hsee.2⟩
  · have : (X.foldl see s.behindPrompt).text.length = 2 := by simp [hp', smsPrompt]
    omega

theorem foldl_see_ended {s : Intake} (hs : s.ended = true) (l : List UInt8) :
    (l.foldl see s).ended = true := by
  induction l generalizing s with
  | nil => exact hs
  | cons x l ih =>
    refine ih ?_
    unfold see
    split_ifs <;> simp [hs]

/-- A pause that finds an ended piece or a full buffer starts the buffer over. -/
theorem settle_rewind (n : ℕ) {s : Intake} (hs : Sane s) (hlen : s.cells.length = maxAtResponse + 1)
    (hend : s.ended = true ∨ s.fill = maxAtResponse) (hn : 0 < n)
    (hfuel : s.text = smsPrompt → maxAtResponse + 3 ≤ n + s.stop) :
    ∃ r : Intake, settle n s = r.rewind ∧ r.text ≠ smsPrompt ∧ r.text.length < maxAtResponse ∧
      r.cells.length = maxAtResponse + 1 := by
  induction n generalizing s with
  | zero => omega
  | succ n ih =>
    rw [settle]
    split_ifs with hp hended hfull
    · obtain ⟨hs', hstop⟩ := hs.takePrompt hp
      have hle : s.stop ≤ maxAtResponse + 1 := by
        obtain h0 | ⟨-, h, -⟩ := hs
        · simp [h0, smsPrompt] at hp
        · exact hlen ▸ h
      have := hfuel hp
      exact ih hs' (by rw [takePrompt_cells_length, hlen]) (.inl (foldl_see_ended rfl _)) (by omega)
        (fun hp' => by have := hstop hp'; omega)
    · refine ⟨s, rfl, hp, ?_, hlen⟩
      obtain h0 | ⟨-, hstop, hgap⟩ := hs
      · simp [h0, maxAtResponse]
      · have := hgap hended
        omega
    · exact ⟨{ s with text := [] }, rfl, by simp [smsPrompt], by simp [maxAtResponse], hlen⟩
    · exact absurd hend (by simp [hended, hfull])

theorem pause_rewind {r : Intake} (hp : r.text ≠ smsPrompt) (htext : r.text.length < maxAtResponse)
    (hlen : r.cells.length = maxAtResponse + 1) : r.rewind.pause = r.rewind := by
  have hcells : r.rewind.cells.set r.text.length 0 = r.rewind.cells := by
    rw [rewind, overwrite_zero_of_le (by simp; omega)]
    simp
  have hterminated : r.rewind.terminate = r.rewind := by
    rw [terminate, show r.rewind.fill = r.text.length from rfl, hcells]
    rfl
  have htext' : r.rewind.text ≠ smsPrompt := hp
  have hended : r.rewind.ended = false := rfl
  have hfill : r.rewind.fill ≠ maxAtResponse := htext.ne
  rw [pause, hterminated, settle, if_neg htext', hended, if_neg Bool.false_ne_true, if_neg hfill]

theorem pause_pause {s : Intake} (hs : Sane s) (hlen : s.cells.length = maxAtResponse + 1)
    (hfull : s.fill = maxAtResponse) : s.pause.pause = s.pause := by
  have hfuel : s.terminate.text = smsPrompt →
      maxAtResponse + 3 ≤ maxAtResponse + 2 + s.terminate.stop := by
    intro hp
    obtain h0 | ⟨htext, -⟩ := hs
    · exact absurd (h0.symm.trans hp) (by simp [smsPrompt])
    · have hlen : s.text.length = 2 := by rw [show s.text = smsPrompt from hp]; rfl
      simp only [terminate]
      omega
  rcases settle_rewind (maxAtResponse + 2) (s := s.terminate) (by simpa [Sane, terminate] using hs)
    (by simpa [terminate] using hlen) (.inr hfull) (by omega) hfuel with
    ⟨r, heq, hp, htext, hcells⟩
  have hpause : s.pause = r.rewind := heq
  rw [hpause, pause_rewind hp htext hcells]

/-! ### The bytes of one `read` -/

theorem foldl_step {s : Intake} {c : List UInt8} (h : s.fill + c.length ≤ maxAtResponse) :
    (c.map Arrival.byte).foldl step s =
      if c ≠ [] ∧ s.fill + c.length = maxAtResponse then (c.foldl byte s).pause
      else c.foldl byte s := by
  induction c generalizing s with
  | nil => simp
  | cons x c ih =>
    rw [List.length_cons] at h
    have hfill := s.byte_fill x
    have hstep : s.step (.byte x) =
        if s.fill + 1 = maxAtResponse then (s.byte x).pause else s.byte x := by
      rw [step, hfill]
    rw [List.map_cons, List.foldl_cons, hstep]
    cases c with
    | nil => simp
    | cons y c =>
      rw [List.length_cons] at h
      rw [if_neg (by omega), ih (by rw [hfill, List.length_cons]; omega), hfill]
      simp [Nat.add_assoc, Nat.add_comm 1]

end Intake

end Fw100.Channel
