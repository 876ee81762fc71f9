import Fw100.Channel.LineEnd
import Fw100.Channel.Command

/-!
# The reader thread

`readerLoop` hands each line to `processLine`, except that an SMS header and the
next line `readline` returns go to the unsolicited handler together. A line that
is taken as the body of a message never reaches the pending command.
-/
namespace Fw100.Channel
open Library Text

/-- One turn of `readerLoop`, or the end of the loop. -/
inductive ReaderAction where
  | line (l : CString)
  | sms (line1 line2 : CString)
  | closed
deriving DecidableEq, Repr

def readerLoop : ℕ → AtBuffer → List ReadResult → List ReaderAction
  | 0, _, _ => []
  | n + 1, b, rs =>
    match readline b rs with
    | (none, _, _) => [.closed]
    | (some line, b, rs) =>
      if isSMSUnsolicited line then
        match readline b rs with
        | (none, _, _) => [.closed]
        | (some line2, b, rs) => .sms line line2 :: readerLoop n b rs
      else .line line :: readerLoop n b rs

def readerStep (ch : AtChannel) : ReaderAction → AtChannel × List Effect
  | .line l => processLine ch l
  | .sms line1 line2 => (ch, [.unsolicited line1 (some line2)])
  | .closed => (ch.onReaderClosed, [])

def readerActions : List CString → List ReaderAction
  | [] => []
  | [l] => if isSMSUnsolicited l then [] else [.line l]
  | l :: l2 :: ls =>
    if isSMSUnsolicited l then .sms l l2 :: readerActions ls else .line l :: readerActions (l2 :: ls)

/-- After these lines the loop takes the next line as the body of a message. -/
def expectsBody : List CString → Bool
  | [] => false
  | [l] => isSMSUnsolicited l
  | l :: l2 :: ls => if isSMSUnsolicited l then expectsBody ls else expectsBody (l2 :: ls)

theorem readlineCalls_cons {b b' : AtBuffer} {rs rs' : List ReadResult} {line : Option CString}
    (h : readline b rs = (line, b', rs')) (n : ℕ) :
    (readlineCalls (n + 1) b rs).1 = line :: (readlineCalls n b' rs').1 ∧
      (readlineCalls (n + 1) b rs).2 = (readlineCalls n b' rs').2 := by
  simp [readlineCalls, h]

/-- Behind the turns for the lines returned so far stands the turn that takes the next line as a
body, or the loop goes on at that line. -/
theorem readerLoop_after {ls : List CString} {n : ℕ} {b : AtBuffer} {rs : List ReadResult}
    (h : (readlineCalls ls.length b rs).1 = ls.map some) (hn : ls.length < n) :
    ∃ later, readerLoop n b rs = readerActions ls ++ later ∧
      if expectsBody ls then ∀ l, later.head? ≠ some (.line l)
      else ∃ m, later = readerLoop (m + 1) (readlineCalls ls.length b rs).2.1
        (readlineCalls ls.length b rs).2.2 := by
  induction ls using readerActions.induct generalizing n b rs with
  | case1 =>
    obtain ⟨n, rfl⟩ := Nat.exists_eq_add_of_le' (show 1 ≤ n from hn)
    exact ⟨_, rfl, n, rfl⟩
  | case2 l hl =>
    obtain ⟨n, rfl⟩ := Nat.exists_eq_add_of_le' (show 1 ≤ n by omega)
    rcases hr : readline b rs with ⟨line, b', rs'⟩
    obtain rfl : line = some l := by simpa [readlineCalls, hr] using h
    rcases hr' : readline b' rs' with ⟨line', b'', rs''⟩
    refine ⟨readerLoop (n + 1) b rs, by simp [readerActions, hl], ?_⟩
    rw [expectsBody, if_pos hl]
    cases line' <;> simp [readerLoop, hr, hr', hl]
  | case3 l hl =>
    obtain ⟨n, rfl⟩ := Nat.exists_eq_add_of_le' (show 2 ≤ n from hn)
    rcases hr : readline b rs with ⟨line, b', rs'⟩
    obtain rfl : line = some l := by simpa [readlineCalls, hr] using h
    refine ⟨readerLoop (n + 1) b' rs', by simp [readerActions, readerLoop, hr, hl], ?_⟩
    rw [expectsBody, if_neg hl]
    exact ⟨n, by simp [readlineCalls, hr]⟩
  | case4 l l2 ls hl ih =>
    obtain ⟨n, rfl⟩ := Nat.exists_eq_add_of_le' (show 1 ≤ n by omega)
    rcases hr : readline b rs with ⟨line, b', rs'⟩
    rcases hr' : readline b' rs' with ⟨line', b'', rs''⟩
    obtain ⟨hcall, hstate⟩ := readlineCalls_cons hr (ls.length + 1)
    obtain ⟨hcall', hstate'⟩ := readlineCalls_cons hr' ls.length
    rw [List.length_cons, List.length_cons] at h hn
    rw [hcall, hcall', List.map_cons, List.map_cons, List.cons.injEq, List.cons.injEq] at h
    obtain ⟨rfl, rfl, hrest⟩ := h
    obtain ⟨later, hloop, hnext⟩ := ih (n := n) hrest (by omega)
    refine ⟨later, by simp [readerActions, readerLoop, hr, hr', hl, hloop], ?_⟩
    rw [expectsBody, if_pos hl, List.length_cons, List.length_cons, hstate, hstate']
    exact hnext
  | case5 l l2 ls hl ih =>
    obtain ⟨n, rfl⟩ := Nat.exists_eq_add_of_le' (show 1 ≤ n by omega)
    rcases hr : readline b rs with ⟨line, b', rs'⟩
    obtain ⟨hcall, hstate⟩ := readlineCalls_cons hr (ls.length + 1)
    rw [List.length_cons] at h hn
    rw [List.length_cons] at h hn
    rw [hcall, List.map_cons, List.cons.injEq] at h
    obtain ⟨rfl, hrest⟩ := h
    obtain ⟨later, hloop, hnext⟩ := ih (n := n) hrest (by simp; omega)
    refine ⟨later, by simp [readerActions, readerLoop, hr, hl, hloop], ?_⟩
    rw [expectsBody, if_neg hl, List.length_cons, List.length_cons, hstate]
    exact hnext

theorem readerLoop_line_head {n : ℕ} {b : AtBuffer} {rs : List ReadResult} {l : CString} :
    [.line l] <+: readerLoop (n + 1) b rs ↔
      (readline b rs).1 = some l ∧ isSMSUnsolicited l = false := by
  rcases hr : readline b rs with ⟨line, b', rs'⟩
  rw [readerLoop, hr]
  cases line with
  | none => simp
  | some line =>
    cases hsms : isSMSUnsolicited line with
    | false =>
      simp only [hsms, Bool.false_eq_true, if_false, List.cons_prefix_cons, List.nil_prefix, and_true]
      constructor
      · rintro ⟨⟩
        exact ⟨rfl, hsms⟩
      · rintro ⟨⟨⟩, -⟩
        rfl
    | true =>
      have hne : ¬ (line = l ∧ isSMSUnsolicited l = false) := by
        rintro ⟨rfl, h⟩
        simp [hsms] at h
      simp only [hsms, if_true, Option.some.injEq, hne, iff_false]
      rcases readline b' rs' with ⟨line2, b'', rs''⟩
      cases line2 <;> simp

theorem readlineCalls_mono {m n : ℕ} (h : m ≤ n) (b : AtBuffer) (rs : List ReadResult) :
    (readlineCalls m b rs).1 <+: (readlineCalls n b rs).1 := by
  induction n, h using Nat.le_induction with
  | base => exact List.prefix_rfl
  | succ n _ ih =>
    rw [readlineCalls_succ]
    exact ih.trans (List.prefix_append _ _)

/-- No line starts with two texts of which neither starts with the other. -/
theorem strStartsWith_incompatible {l p q : CString} (hp : strStartsWith l p = true)
    (hpq : strStartsWith p q = false) (hqp : strStartsWith q p = false) :
    strStartsWith l q = false := by
  rw [Bool.eq_false_iff, ne_eq, strStartsWith_iff] at hpq hqp ⊢
  rw [strStartsWith_iff] at hp
  intro hq
  exact (List.prefix_or_prefix_of_prefix hp hq).elim hqp hpq

/-- A final response starts with no text that is incompatible with the tables. -/
theorem strStartsWith_of_final {l q : CString} (h : isFinalResponse l = true)
    (hq : ∀ p ∈ finalResponsesSuccess ++ finalResponsesError,
      strStartsWith p q = false ∧ strStartsWith q p = false) : strStartsWith l q = false := by
  obtain ⟨p, hp, hl⟩ : ∃ p ∈ finalResponsesSuccess ++ finalResponsesError,
      strStartsWith l p = true := by
    simpa [isFinalResponse, isFinalResponseSuccess, isFinalResponseError, startsWithAny,
      or_and_right, exists_or] using h
  exact strStartsWith_incompatible hl (hq p hp).1 (hq p hp).2

theorem isSMSUnsolicited_of_final {l : CString} (h : isFinalResponse l = true) :
    isSMSUnsolicited l = false := by
  have htables : ∀ q ∈ smsUnsoliciteds, ∀ p ∈ finalResponsesSuccess ++ finalResponsesError,
      strStartsWith p q = false ∧ strStartsWith q p = false := by decide
  rw [isSMSUnsolicited, startsWithAny, List.any_eq_false]
  intro q hq
  simp [strStartsWith_of_final h (htables q hq)]

def leftAfter (rs : List ReadResult) (k : ℕ) : ℕ :=
  leftOver (readlineCalls k .initial rs).2.1 (readlineCalls k .initial rs).2.2

/-- The calls of `readline` in front of the one that passes the byte before the last `left`
bytes of the stream return these lines. -/
def ReadBefore (rs : List ReadResult) (left : ℕ) (earlier : List CString) : Prop :=
  (readlineCalls earlier.length .initial rs).1 = earlier.map some ∧
    (∀ j ≤ earlier.length, left < leftAfter rs j) ∧ leftAfter rs (earlier.length + 1) ≤ left

/-- The call that passes the end of the line, behind which `left` bytes follow, returns the line
and stops there. The loop hands it to `processLine`, where it completes the pending command. -/
def Completes (rs : List ReadResult) (final : CString) (left : ℕ) : Prop :=
  (∃ earlier, ReadBefore rs left earlier ∧ leftAfter rs (earlier.length + 1) = left ∧
    readerActions earlier ++ [.line final] <+: readerLoop (earlier.length + 1) .initial rs) ∧
  ∀ (ch : AtChannel) (r : ATResponse), ch.response = some r →
    (readerStep ch (.line final)).1.response =
      some (r.handleFinalResponse (isFinalResponseSuccess final) final)

def Ahead (S : Intake) (e : UInt8) (left : ℕ) (handed : List Piece) (b : AtBuffer)
    (rs : List ReadResult) : Prop :=
  Coming S e left handed b rs ∨ InBuffer S e left handed b rs

namespace Ahead
variable {S : Intake} {e : UInt8} {left : ℕ} {handed : List Piece} {b : AtBuffer}
  {rs : List ReadResult}

theorem pieces (h : Ahead S e left handed b rs) : handed <+: S.pieces := by
  obtain h | h := h
  · obtain ⟨s, before, after, hbetween, -, hS, -⟩ := h.ahead
    exact hS ▸ hbetween.pieces.trans (Intake.foldl_step_pieces s before)
  · obtain ⟨v₁, v₂, t, -, -, -, hread⟩ := h.held
    exact hread.pieces ▸ Intake.foldl_byte_pieces ⟨handed, [], 0, 0, true, []⟩ v₁

theorem left_lt (h : Ahead S e left handed b rs) : left < leftOver b rs := by
  obtain h | h := h
  · obtain ⟨s, before, after, -, harr, -, hleft⟩ := h.ahead
    have hlen := congrArg List.length (received_arrivals rs)
    rw [harr, received_append, List.length_append] at hlen
    have hcons : (received (.byte e :: after)).length = (received after).length + 1 := rfl
    rw [leftOver]
    omega
  · exact h.left_lt

theorem call (h : Ahead S e left handed b rs) (hb : Kept b) (hrs : ∀ q ∈ rs, q.Open)
    (he : isNewline e = true) :
    (∃ p : Piece, (readline b rs).1 = some p.text ∧
      Ahead S e left (handed ++ [p]) (readline b rs).2.1 (readline b rs).2.2) ∨
    Passed S left handed (readline b rs).1 (readline b rs).2.1 (readline b rs).2.2 := by
  obtain h | h := h
  · exact h.call hb hrs he
  · obtain ⟨p, hp, hnext⟩ | hpassed := h.call hb hrs he
    · exact .inl ⟨p, hp, .inr hnext⟩
    · exact .inr hpassed

end Ahead

/-- The calls for the pieces in front of the end of the line. -/
theorem readlineCalls_ahead {rs : List ReadResult} (hrs : ∀ q ∈ rs, q.Open)
    {before after : List Arrival} {e : UInt8} (harr : arrivals rs = before ++ .byte e :: after)
    (he : isNewline e = true) {k : ℕ} (hk : k ≤ (intake before).pieces.length) :
    (readlineCalls k .initial rs).1 =
        (((intake before).pieces.take k).map Piece.text).map some ∧
      Kept (readlineCalls k .initial rs).2.1 ∧ (∀ q ∈ (readlineCalls k .initial rs).2.2, q.Open) ∧
      Ahead (intake before) e (received after).length ((intake before).pieces.take k)
        (readlineCalls k .initial rs).2.1 (readlineCalls k .initial rs).2.2 := by
  induction k with
  | zero => exact ⟨rfl, .initial, hrs, .inl ⟨_, before, after, .initial, harr, rfl, rfl⟩⟩
  | succ k ih =>
    obtain ⟨hlines, hkept, hopen, hahead⟩ := ih (by omega)
    rw [readlineCalls_succ]
    dsimp only
    obtain ⟨p, hp, hnext⟩ | hpassed := hahead.call hkept hopen he
    · have htake : (intake before).pieces.take (k + 1) = (intake before).pieces.take k ++ [p] := by
        have hpre := List.prefix_iff_eq_take.mp hnext.pieces
        rw [List.length_append, List.length_take, Nat.min_eq_left (by omega)] at hpre
        exact hpre.symm
      rw [hlines, hp, htake]
      exact ⟨by simp, readline_kept hkept _, readline_open hopen, hnext⟩
    · have hlen := congrArg List.length hpassed.pieces
      rw [List.length_take] at hlen
      omega

/-- The calls in front of the end of a line, and the one that passes it. -/
structure EndReached (rs : List ReadResult) (S : Intake) (left : ℕ) : Prop where
  lines : (readlineCalls S.pieces.length .initial rs).1 = (S.pieces.map Piece.text).map some
  ahead : ∀ j ≤ S.pieces.length, left < leftAfter rs j
  passed : Passed S left S.pieces
    (readline (readlineCalls S.pieces.length .initial rs).2.1
      (readlineCalls S.pieces.length .initial rs).2.2).1
    (readlineCalls (S.pieces.length + 1) .initial rs).2.1
    (readlineCalls (S.pieces.length + 1) .initial rs).2.2

theorem endReached_of_arrivals {rs : List ReadResult} (hrs : ∀ q ∈ rs, q.Open)
    {before after : List Arrival} {e : UInt8} (harr : arrivals rs = before ++ .byte e :: after)
    (he : isNewline e = true) : EndReached rs (intake before) (received after).length := by
  obtain ⟨hlines, hkept, hopen, hahead⟩ := readlineCalls_ahead hrs harr he le_rfl
  rw [List.take_length] at hlines hahead
  refine ⟨hlines, fun j hj => (readlineCalls_ahead hrs harr he hj).2.2.2.left_lt, ?_⟩
  obtain ⟨p, -, hnext⟩ | hpassed := hahead.call hkept hopen he
  · have := hnext.pieces.length_le
    simp at this
  · rwa [readlineCalls_succ]

/-- No other calls come to the end of the line. -/
theorem EndReached.earlier_eq {rs : List ReadResult} {S : Intake} {left : ℕ} (h : EndReached rs S left)
    {earlier : List CString} (hearlier : ReadBefore rs left earlier) :
    earlier = S.pieces.map Piece.text := by
  obtain ⟨hlines, hbefore, hreached⟩ := hearlier
  have hge : S.pieces.length ≤ earlier.length := by
    by_contra hlt
    have := h.ahead (earlier.length + 1) (by omega)
    omega
  have hsame : earlier.length = S.pieces.length := by
    by_contra hne
    have hlt := hbefore (S.pieces.length + 1) (by omega)
    obtain ⟨-, -, heq⟩ | ⟨-, hnone | hless⟩ := h.passed.outcome
    · exact hlt.ne heq.symm
    · have hpre := readlineCalls_mono (show S.pieces.length + 1 ≤ earlier.length by omega)
        .initial rs
      rw [hlines, readlineCalls_succ] at hpre
      have := hpre.subset (List.mem_append_right _ (List.mem_singleton_self _))
      simp [hnone] at this
    · exact (hlt.trans hless).false
  rw [hsame] at hlines
  exact List.map_injective_iff.mpr (Option.some_injective _) (hlines.symm.trans h.lines)

/-- What a modem sends: a line of its own, or an SMS header with its body line. -/
inductive Sent where
  | line (l : CString)
  | sms (header body : CString)

def Sent.bytes : Sent → List UInt8
  | .line l => l ++ [13, 10]
  | .sms header body => header ++ [13, 10] ++ body ++ [13, 10]

end Fw100.Channel
