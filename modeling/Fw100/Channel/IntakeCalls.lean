import Fw100.Channel.Intake

/-!
# The calls of `readline` follow the intake

Between two calls the unread data of the buffer is what the intake has read behind the pieces
handed out, stale bytes included. A call hands out the next piece, or waits for it.
-/
namespace Fw100.Channel
open Library Text

/-- What `read` returns on an open channel: interruptions and data. -/
def ReadResult.Open : ReadResult → Prop
  | .data c => c ≠ []
  | .eintr => True
  | .error => False

instance ReadResult.decidableOpen : (r : ReadResult) → Decidable r.Open
  | .data c => inferInstanceAs (Decidable (c ≠ []))
  | .eintr => inferInstanceAs (Decidable True)
  | .error => inferInstanceAs (Decidable False)

theorem ReadResult.Live.open {r : ReadResult} (h : r.Live) : r.Open := by
  cases r with
  | data c => exact h.1
  | eintr => trivial
  | error => exact h

/-- The unread data of a buffer, read on behind the pieces handed out. -/
def AtBuffer.scan (b : AtBuffer) (handed : List Piece) (ended : Bool) : Intake :=
  (cstr b.rest).foldl Intake.see ⟨handed, [], b.cur, b.fill, ended, b.cells⟩

namespace Unread
variable {b : AtBuffer} {a u t : List UInt8} (handed : List Piece) (ended : Bool)

theorem scan_text (h : Unread b a u t) (htext : ∀ x ∈ u.dropWhile isNewline, isNewline x = false) :
    b.scan handed ended =
      ⟨handed, u.dropWhile isNewline, a.length + u.length, b.fill, ended, b.cells⟩ := by
  have hcat := List.takeWhile_append_dropWhile (p := isNewline) (l := u)
  have hlen := congrArg List.length hcat
  rw [List.length_append] at hlen
  have hnl : ∀ x ∈ u.takeWhile isNewline, isNewline x = true :=
    fun x hx => List.mem_takeWhile_imp hx
  have hg : overwrite a.length (u.takeWhile isNewline) b.cells = b.cells := by
    rw [h.cells, ← hcat, List.append_assoc, List.append_assoc, ← List.append_assoc a]
    simpa using overwrite_same (a := a) (c := u.takeWhile isNewline)
  have hv : overwrite (a.length + (u.takeWhile isNewline).length) (u.dropWhile isNewline) b.cells =
      b.cells := by
    have := overwrite_same (a := a ++ u.takeWhile isNewline) (c := u.dropWhile isNewline)
      (l := 0 :: t)
    rwa [List.append_assoc a, hcat, ← h.cells, List.length_append] at this
  rw [AtBuffer.scan, h.cstr_rest, ← hcat, List.foldl_append, Intake.foldl_newlines rfl hnl,
    Intake.foldl_text _ htext, h.cur, hcat]
  simp [hg, hv, Nat.add_assoc, hlen]

theorem scan_prompt (h : Unread b a u t) (hp : u.dropWhile isNewline = smsPrompt) :
    (b.scan handed ended).takePrompt = b.look.2.scan (handed ++ [.prompt]) true := by
  rcases h.look_prompt hp with ⟨-, hcells, hcur⟩
  rw [h.scan_text handed ended (by rw [hp]; exact smsPrompt_no_newline), Intake.takePrompt, AtBuffer.scan,
    AtBuffer.rest, hcells, hcur, look_fill]
  rfl

theorem scan_line (h : Unread b a u t) (hp : u.dropWhile isNewline ≠ smsPrompt) {s r : CString}
    (hl : firstLine isNewline u = some (s, r)) :
    b.scan handed ended = b.look.2.scan (handed ++ [.line s]) true := by
  rcases firstLine_eq_some _ hl with ⟨e, hu, he, hs, hne⟩
  rcases h.look_line hp hl with ⟨-, hnext⟩
  have hnl : ∀ x ∈ u.takeWhile isNewline, isNewline x = true :=
    fun x hx => List.mem_takeWhile_imp hx
  generalize u.takeWhile isNewline = g at *
  have hcells : b.cells = a ++ g ++ s ++ e :: (r ++ 0 :: t) := by
    rw [h.cells, hu]
    simp
  have hg : overwrite a.length g b.cells = b.cells := by
    rw [hcells, List.append_assoc (a ++ g)]
    exact overwrite_same
  have hv : overwrite (a.length + g.length) s b.cells = b.cells := by
    rw [hcells, ← List.length_append]
    exact overwrite_same
  have hset : b.cells.set (a.length + g.length + s.length) 0 = b.look.2.cells := by
    have hend : a.length + g.length + s.length = (a ++ g ++ s).length := by simp [Nat.add_assoc]
    rw [hnext.cells, hcells, hend, List.set_append_right _ _ le_rfl, Nat.sub_self]
    simp
  rw [AtBuffer.scan, h.cstr_rest, hu, List.foldl_append, List.foldl_append,
    Intake.foldl_newlines rfl hnl, Intake.foldl_text _ hs, List.foldl_cons, h.cur]
  simp only [hg, hv, Intake.see, he, if_true, List.nil_append, List.isEmpty_iff, hne, if_false]
  rw [hset, AtBuffer.scan, hnext.cstr_rest, hnext.cur, look_fill]
  simp [Nat.add_assoc]

end Unread

/-- Between two calls the next pieces are those of the unread data. -/
def Between (b : AtBuffer) (handed : List Piece) (s : Intake) : Prop :=
  ∃ n, maxAtResponse + 1 ≤ n + b.cur + (cstr b.rest).length ∧
    s = Intake.settle (n + 1) (b.scan handed true)

namespace Unread
variable {b : AtBuffer} {a u t : List UInt8}

/-- A line that a look finds is the next piece. -/
theorem look_piece (h : Unread b a u t) (handed : List Piece) (ended : Bool) {n : ℕ}
    (hn : maxAtResponse + 1 ≤ n + a.length + u.length) {line : CString}
    (hl : b.look.1 = some line) :
    ∃ p : Piece, line = p.text ∧
      Between b.look.2 (handed ++ [p]) (Intake.settle (n + 1) (b.scan handed ended)) ∧
      (p = .prompt ↔ a.length + u.length < b.look.2.cur) := by
  have hroom := h.room
  by_cases hp : u.dropWhile isNewline = smsPrompt
  · rcases h.look_prompt hp with ⟨hline, -, hcur⟩
    have htext : (b.scan handed ended).text = smsPrompt := by
      rw [h.scan_text handed ended (by rw [hp]; exact smsPrompt_no_newline), hp]
    obtain ⟨n, rfl⟩ := Nat.exists_eq_add_of_lt (show 0 < n by omega)
    refine ⟨.prompt, by simpa [hl] using hline, ⟨n, ?_, ?_⟩, by simp [hcur]⟩
    · rw [hcur]
      omega
    · rw [Intake.settle, if_pos htext, h.scan_prompt handed ended hp, Nat.zero_add]
  · cases hf : firstLine isNewline u with
    | none => simp [h.look_none hp hf] at hl
    | some q =>
      rcases q with ⟨s, r⟩
      rcases h.look_line hp hf with ⟨hline, hnext⟩
      rcases firstLine_eq_some _ hf with ⟨e, hu, -, -, -⟩
      have hlen := congrArg List.length hu
      simp only [List.length_append, List.length_cons] at hlen
      have hcur : b.look.2.cur + r.length = a.length + u.length := by
        rw [hnext.cur]
        simp only [List.length_append, List.length_cons, List.length_nil]
        omega
      refine ⟨.line s, by simpa [hl] using hline, ⟨n, ?_, ?_⟩, by simp; omega⟩
      · rw [hnext.cstr_rest]
        omega
      · rw [h.scan_line handed ended hp hf]

/-- A look without a result leaves text that is no prompt. -/
theorem look_waits (h : Unread b a u t) (hl : b.look.1 = none) :
    u.dropWhile isNewline ≠ smsPrompt ∧ ∀ x ∈ u.dropWhile isNewline, isNewline x = false := by
  have hp : u.dropWhile isNewline ≠ smsPrompt := by
    intro hp
    simp [(h.look_prompt hp).1] at hl
  refine ⟨hp, ?_⟩
  cases hf : firstLine isNewline u with
  | none => exact (firstLine_eq_none_iff _).mp hf
  | some q => simp [(h.look_line hp hf).1] at hl

end Unread

/-- `readline` waits for data: all pieces are handed out, and what can be seen is the text. -/
structure Filling (b : AtBuffer) (s : Intake) : Prop where
  reading : Reading b
  room : b.fill ≠ maxAtResponse
  unread : ∃ a t, Unread b a s.text t ∧ a.length + s.text.length = s.stop
  noNewline : ∀ x ∈ s.text, isNewline x = false
  noPrompt : s.text ≠ smsPrompt
  fill : s.fill = b.fill
  ended : s.ended = false
  cells : s.cells = b.cells

/-- A full buffer is started over before the next `read`. -/
def AtBuffer.refill (b : AtBuffer) : AtBuffer := if b.fill = maxAtResponse then b.reset else b

theorem Unread.stop_le {b : AtBuffer} {a u t : List UInt8} (h : Unread b a u t) (hb : Reading b) :
    a.length + u.length ≤ b.fill := by
  have hle := cstr_length_le hb.ended hb.cur
  have hcur := hb.cur
  rw [h.cstr_rest, h.cur] at hle
  rw [h.cur] at hcur
  omega

theorem dropWhile_newline {u : List UInt8} (hu : ∀ x ∈ u, isNewline x = false) :
    u.dropWhile isNewline = u := by
  cases u with
  | nil => rfl
  | cons x u => simp [hu x (by simp)]

namespace Filling
variable {b : AtBuffer} {s : Intake} {c : List UInt8}

theorem stop_le (h : Filling b s) : s.stop ≤ s.fill := by
  obtain ⟨a, t, hb, hstop⟩ := h.unread
  rw [← hstop, h.fill]
  exact hb.stop_le h.reading

theorem text_dropWhile (h : Filling b s) : s.text.dropWhile isNewline = s.text :=
  dropWhile_newline h.noNewline

/-- Nothing of a chunk behind a NUL is seen. -/
theorem stored_hidden (h : Filling b s) (hhidden : s.stop < s.fill) (c : List UInt8) :
    ∃ a t, Unread (b.store c) a s.text t ∧ a.length + s.text.length = s.stop := by
  obtain ⟨a, t, hb, hstop⟩ := h.unread
  have hlt : (a ++ s.text ++ [0]).length ≤ b.fill := by
    rw [h.fill] at hhidden
    simp
    omega
  refine ⟨a, overwrite (b.fill - (a ++ s.text ++ [0]).length) (c ++ [0]) t,
    ⟨?_, hb.cur, hb.nulFree⟩, hstop⟩
  have hcells : b.cells = (a ++ s.text ++ [0]) ++ t := by rw [hb.cells]; simp
  rw [AtBuffer.store_cells, hcells, ← overwrite_append_right hlt]
  simp

/-- A chunk behind what was seen is seen up to its first NUL. -/
theorem stored_seen (h : Filling b s) (hseen : s.stop = s.fill)
    (hfit : b.fill + c.length ≤ maxAtResponse) :
    ∃ a t, Unread (b.store c) a (s.text ++ cstr c) t ∧ a.length + s.text.length = s.stop := by
  obtain ⟨a, t, hb, hstop⟩ := h.unread
  have hend : b.fill = (a ++ s.text).length := by
    rw [List.length_append, hstop, hseen, h.fill]
  have hroom := b.cells_length
  rw [hb.cells, List.length_append, List.length_cons] at hroom
  have hcells : (b.store c).cells = a ++ (s.text ++ c ++ 0 :: t.drop c.length) := by
    rw [AtBuffer.store_cells, hend, hb.cells, overwrite_append (by simp; omega)]
    simp
  obtain ⟨t', ht⟩ := cstr_terminated (l := s.text ++ c ++ 0 :: t.drop c.length)
    (k := (s.text ++ c).length) (by simp)
  rw [cstr_append_zero, cstr_append hb.nulFree] at ht
  refine ⟨a, t', ⟨by rw [hcells, ht]; simp, hb.cur, ?_⟩, hstop⟩
  intro x hx
  rcases List.mem_append.mp hx with hx | hx
  · exact hb.nulFree x hx
  · exact cstr_nulFree c x hx

theorem storeAll_eq (h : Filling b s) (c : List UInt8) :
    s.storeAll c = ⟨s.pieces, s.text, s.stop, (b.store c).fill, false, (b.store c).cells⟩ := by
  rw [Intake.storeAll, h.fill, h.ended, h.cells]
  rfl

theorem scan_hidden (h : Filling b s) (hhidden : s.stop < s.fill) (c : List UInt8) :
    (b.store c).scan s.pieces false = s.storeAll c := by
  obtain ⟨a, t, hstore, hstop⟩ := h.stored_hidden hhidden c
  rw [hstore.scan_text _ _ (by rw [h.text_dropWhile]; exact h.noNewline), h.text_dropWhile,
    hstop, h.storeAll_eq]

theorem scan_seen (h : Filling b s) (hseen : s.stop = s.fill)
    (hfit : b.fill + c.length ≤ maxAtResponse) :
    (b.store c).scan s.pieces false = (cstr c).foldl Intake.see (s.storeAll c) := by
  obtain ⟨a, t, hstore, hstop⟩ := h.stored_seen hseen hfit
  have hsame : overwrite a.length s.text (b.store c).cells = (b.store c).cells := by
    rw [hstore.cells, List.append_assoc, List.append_assoc, ← List.append_assoc a]
    exact overwrite_same
  rw [AtBuffer.scan, hstore.cstr_rest, List.foldl_append, Intake.foldl_text _ h.noNewline,
    hstore.cur, hsame, hstop, h.storeAll_eq]
  rfl

theorem pause (h : Filling b s) (hfit : b.fill + c.length ≤ maxAtResponse) :
    ∃ n, maxAtResponse + 1 ≤ n ∧ (c.foldl Intake.byte s).pause =
      Intake.settle (n + 1) ((b.store c).scan s.pieces false) := by
  obtain hhidden | hseen := Nat.lt_or_eq_of_le h.stop_le
  · refine ⟨maxAtResponse + 1, le_rfl, ?_⟩
    rw [Intake.pause, Intake.terminate_hidden hhidden, h.scan_hidden hhidden]
  · have hroom : s.fill + c.length < s.cells.length := by
      have := b.cells_length
      rw [h.fill, h.cells]
      omega
    obtain ⟨k, hk⟩ := Intake.settle_storeAll hseen hroom
    refine ⟨maxAtResponse + 1 + k, by omega, ?_⟩
    rw [Intake.pause, hk, h.scan_seen hseen hfit]
    congr 1
    omega

theorem found (h : Filling b s) (hfit : b.fill + c.length ≤ maxAtResponse) {line : CString}
    (hl : (b.store c).look.1 = some line) :
    ∃ p : Piece, line = p.text ∧
      Between (b.store c).look.2 (s.pieces ++ [p]) (c.foldl Intake.byte s).pause ∧
      (p = .prompt ↔ (b.store c).cur + (cstr (b.store c).rest).length < (b.store c).look.2.cur) := by
  obtain ⟨t, hstore⟩ := (h.reading.store hfit).unread
  obtain ⟨n, hn, hpause⟩ := h.pause hfit
  rw [hpause, hstore.cur]
  exact hstore.look_piece s.pieces false (by omega) hl

/-- The state of a pause that completes no piece. -/
def waiting (b : AtBuffer) (handed : List Piece) : Intake :=
  ⟨handed, (cstr b.rest).dropWhile isNewline, b.cur + (cstr b.rest).length, b.fill, false, b.cells⟩

theorem pause_waiting (h : Filling b s) (hfit : b.fill + c.length ≤ maxAtResponse)
    (hl : (b.store c).look.1 = none) :
    (c.foldl Intake.byte s).pause =
      if (b.store c).fill = maxAtResponse then { waiting (b.store c) s.pieces with text := [] }.rewind
      else waiting (b.store c) s.pieces := by
  obtain ⟨t, hstore⟩ := (h.reading.store hfit).unread
  obtain ⟨n, -, hpause⟩ := h.pause hfit
  obtain ⟨hp, htext⟩ := hstore.look_waits hl
  rw [hpause, hstore.scan_text s.pieces false htext, Intake.settle, if_neg hp,
    if_neg Bool.false_ne_true, ← hstore.cur]
  rfl

theorem waits (h : Filling b s) (hfit : b.fill + c.length ≤ maxAtResponse)
    (hl : (b.store c).look.1 = none) :
    Filling (b.store c).look.2.refill (c.foldl Intake.byte s).pause ∧
      (c.foldl Intake.byte s).pause.pieces = s.pieces := by
  have hreading := h.reading.store hfit
  obtain ⟨t, hstore⟩ := hreading.unread
  obtain ⟨hp, htext⟩ := hstore.look_waits hl
  rw [h.pause_waiting hfit hl, look_none_skip hl, AtBuffer.refill, AtBuffer.skipNewlines_fill]
  split_ifs with hfull
  · rcases Holding.reset (b.store c).skipNewlines with ⟨t', hreset⟩
    refine ⟨⟨.reset hreading.last, reset_fill_ne _, ⟨[], t', hreset.toUnread, rfl⟩, by simp [Intake.rewind],
      by simp [Intake.rewind, smsPrompt], rfl, rfl, ?_⟩, rfl⟩
    simp [Intake.rewind, waiting, AtBuffer.reset, overwrite_singleton]
  · refine ⟨⟨hreading.skipNewlines, hfull, ⟨_, _, hstore.skipNewlines, ?_⟩, htext, hp, rfl, rfl, rfl⟩,
      rfl⟩
    have hlen := congrArg List.length
      (List.takeWhile_append_dropWhile (p := isNewline) (l := cstr (b.store c).rest))
    rw [List.length_append] at hlen
    simp only [waiting, List.length_append, ← hstore.cur]
    omega

/-- Data without NULs is seen to its end. -/
theorem store_nulFree (h : Filling b s) (hseen : s.stop = s.fill) (hnul : ∀ x ∈ c, x ≠ 0)
    (hfit : b.fill + c.length ≤ maxAtResponse) :
    (b.store c).cur + (cstr (b.store c).rest).length = (b.store c).fill := by
  obtain ⟨a, t, hb, hstop⟩ := h.unread
  have hfill : b.fill = a.length + s.text.length := by rw [hstop, hseen, h.fill]
  have hstore := Holding.store ⟨hb, hfill⟩ hnul hfit
  rw [hstore.cur, hstore.cstr_rest, hstore.fill]

theorem pause_nulFree (h : Filling b s) (hseen : s.stop = s.fill) (hnul : ∀ x ∈ c, x ≠ 0)
    (hfit : b.fill + c.length ≤ maxAtResponse) (hl : (b.store c).look.1 = none) :
    (c.foldl Intake.byte s).pause.stop = (c.foldl Intake.byte s).pause.fill := by
  rw [h.pause_waiting hfit hl]
  split_ifs
  · rfl
  · exact h.store_nulFree hseen hnul hfit

end Filling

/-! ### One call -/

/-- A `read` on an open channel delivers at least a byte and at most as many as asked for. -/
theorem sysRead_open {n : ℕ} (hn : 0 < n) {d c : List UInt8} (hd : d ≠ []) {rs rs' : List ReadResult}
    (hres : sysRead n (.data d :: rs) = (.data c, rs')) :
    c ≠ [] ∧ c.length ≤ n ∧ readFuel rs' < readFuel (.data d :: rs) := by
  rw [sysRead] at hres
  split_ifs at hres with hfit
  · obtain ⟨rfl, rfl⟩ : d = c ∧ rs = rs' := by simpa using hres
    exact ⟨hd, hfit, by simp [readFuel_cons]⟩
  · obtain ⟨rfl, rfl⟩ : d.take n = c ∧ .data (d.drop n) :: rs = rs' := by simpa using hres
    refine ⟨?_, by simp, ?_⟩
    · rw [← List.length_pos_iff, List.length_take]
      omega
    · simp only [readFuel_cons, ReadResult.bytes, List.length_drop]
      omega

theorem sysRead_rest_open {n : ℕ} {rs : List ReadResult} (h : ∀ q ∈ rs, q.Open) :
    ∀ q ∈ (sysRead n rs).2, q.Open := by
  cases rs with
  | nil => simp [sysRead]
  | cons r rs =>
    have hrs : ∀ q ∈ rs, q.Open := fun q hq => h q (by simp [hq])
    cases r with
    | error => exact hrs
    | eintr => exact hrs
    | data d =>
      rw [sysRead]
      split_ifs with hfit
      · exact hrs
      · have hrest : (ReadResult.data (d.drop n)).Open := by
          rw [ReadResult.Open, ne_eq, List.drop_eq_nil_iff]
          exact hfit
        simpa [hrest] using hrs

/-- The bytes of a `read`, with the end of the read when it took all there was. -/
theorem sysRead_arrivals {n : ℕ} {d c : List UInt8} {rs rs' : List ReadResult}
    (hres : sysRead n (.data d :: rs) = (.data c, rs')) :
    ∃ tail, (tail = [] ∧ c.length = n ∨ tail = [.pause] ∧ c.length ≤ n) ∧
      arrivals (.data d :: rs) = c.map Arrival.byte ++ tail ++ arrivals rs' := by
  rw [sysRead] at hres
  split_ifs at hres with hfit
  · obtain ⟨rfl, rfl⟩ : d = c ∧ rs = rs' := by simpa using hres
    exact ⟨[.pause], .inr ⟨rfl, hfit⟩, by simp [arrivals, ReadResult.arrivals]⟩
  · obtain ⟨rfl, rfl⟩ : d.take n = c ∧ .data (d.drop n) :: rs = rs' := by simpa using hres
    refine ⟨[], .inl ⟨rfl, by simp; omega⟩, ?_⟩
    simp only [arrivals, List.flatMap_cons, ReadResult.arrivals]
    rw [← List.append_assoc, ← List.append_assoc, List.append_nil, ← List.map_append,
      List.take_append_drop]

theorem Filling.sane {b : AtBuffer} {s : Intake} (h : Filling b s) (c : List UInt8)
    (hfit : b.fill + c.length ≤ maxAtResponse) :
    Intake.Sane (c.foldl Intake.byte s) ∧
      (c.foldl Intake.byte s).cells.length = maxAtResponse + 1 ∧
      (c.foldl Intake.byte s).fill = b.fill + c.length := by
  obtain ⟨a, t, -, hstop⟩ := h.unread
  have hcells : (c.foldl Intake.byte s).cells.length = maxAtResponse + 1 := by
    rw [Intake.foldl_byte_cells_length, h.cells]
    exact b.cells_length
  have hend : (c.foldl Intake.byte s).fill = b.fill + c.length := by
    rw [Intake.foldl_byte_fill, h.fill]
  obtain ⟨htext, hended, hseen⟩ :=
    Intake.foldl_byte_text (s := s) (by omega) (by simp [h.ended]) h.stop_le c
  exact ⟨.inr ⟨htext, by omega, hended⟩, hcells, hend⟩

/-- What a `read` delivers is taken in up to its end. -/
theorem Filling.read {b : AtBuffer} {s : Intake} (h : Filling b s) {c : List UInt8}
    {tail : List Arrival} (hne : c ≠ []) (hfit : b.fill + c.length ≤ maxAtResponse)
    (htail : tail = [] ∧ c.length = maxAtResponse - b.fill ∨ tail = [.pause]) :
    (c.map Arrival.byte ++ tail).foldl Intake.step s = (c.foldl Intake.byte s).pause := by
  obtain ⟨hsane, hcells, hfill⟩ := h.sane c hfit
  have hs := h.fill
  rw [List.foldl_append, Intake.foldl_step (by omega), hs]
  obtain ⟨rfl, hfull⟩ | rfl := htail
  · rw [if_pos ⟨hne, by omega⟩]
    rfl
  · split_ifs with hfull
    · exact Intake.pause_pause hsane hcells (by omega)
    · rfl

/-- What a call does that waits for data: the input ends, or a `read` completes a piece. -/
inductive Reads (s : Intake) (rs : List ReadResult) :
    Option CString → AtBuffer → List ReadResult → Prop where
  | closed {b : AtBuffer} {s' : Intake} (wait : Filling b s') (same : s'.pieces = s.pieces)
      (all : (arrivals rs).foldl Intake.step s = s') : Reads s rs none b []
  | line {b : AtBuffer} {s₁ : Intake} {evs tail : List Arrival} {c : List UInt8} {l : CString}
      {rs' : List ReadResult} (wait : Filling b s₁) (same : s₁.pieces = s.pieces)
      (read : evs.foldl Intake.step s = s₁) (fit : b.fill + c.length ≤ maxAtResponse)
      (found : (b.store c).look.1 = some l) (paused : ∀ x ∈ tail, x = .pause)
      (split : arrivals rs = evs ++ (c.map Arrival.byte ++ tail) ++ arrivals rs')
      (last : (c.map Arrival.byte ++ tail).foldl Intake.step s₁ = (c.foldl Intake.byte s₁).pause)
      (seen : s.stop = s.fill → Arrival.byte 0 ∉ arrivals rs →
        (b.store c).cur + (cstr (b.store c).rest).length = (b.store c).fill) :
      Reads s rs (some l) (b.store c).look.2 rs'

theorem Reads.prepend {s s₁ : Intake} {rs rs₁ rs' : List ReadResult} {evs : List Arrival}
    {line : Option CString} {b : AtBuffer} (h : Reads s₁ rs₁ line b rs')
    (hread : evs.foldl Intake.step s = s₁) (hsame : s₁.pieces = s.pieces)
    (hsplit : arrivals rs = evs ++ arrivals rs₁)
    (hseen : s.stop = s.fill → Arrival.byte 0 ∉ evs → s₁.stop = s₁.fill) :
    Reads s rs line b rs' := by
  cases h with
  | closed wait same all =>
    exact .closed wait (same.trans hsame) (by rw [hsplit, List.foldl_append, hread, all])
  | @line _ _ evs' _ _ _ _ wait same read fit found paused split last seen =>
    refine .line wait (same.trans hsame) (by rw [List.foldl_append, hread, read]) fit found paused
      (by rw [hsplit, split, ← List.append_assoc, ← List.append_assoc]) last ?_
    intro h hnul
    rw [hsplit, List.mem_append, not_or] at hnul
    exact seen (hseen h hnul.1) hnul.2

theorem Filling.refill_eq {b : AtBuffer} {s : Intake} (h : Filling b s) : b.refill = b :=
  if_neg h.room

theorem readLoop_refill (fuel : ℕ) (b : AtBuffer) (rs : List ReadResult) :
    readLoop (fuel + 1) b rs = readLoop (fuel + 1) b.refill rs := by
  rw [AtBuffer.refill]
  split_ifs with hfull
  · exact readLoop_full hfull fuel rs
  · rfl

theorem Filling.reads (fuel : ℕ) {b : AtBuffer} {s : Intake} {rs : List ReadResult}
    (h : Filling b.refill s) (hrs : ∀ q ∈ rs, q.Open) (hf : readFuel rs ≤ fuel) :
    Reads s rs (readLoop fuel b rs).1 (readLoop fuel b rs).2.1 (readLoop fuel b rs).2.2 := by
  induction fuel generalizing b s rs with
  | zero => simp [readFuel] at hf
  | succ fuel ih =>
    rw [readLoop_refill]
    generalize b.refill = b at *
    have hroom := h.room
    have hle := h.reading.fill
    cases rs with
    | nil =>
      rw [readLoop, if_neg hroom]
      exact .closed h rfl rfl
    | cons r rs =>
      cases r with
      | error => exact (hrs .error (by simp)).elim
      | eintr =>
        have hlater : ∀ q ∈ rs, q.Open := fun q hq => hrs q (by simp [hq])
        rw [readFuel_cons] at hf
        have hloop := ih (b := b) (by rwa [h.refill_eq]) hlater (by omega)
        have hres : sysRead (maxAtResponse - b.fill) (.eintr :: rs) = (.eintr, rs) := rfl
        rw [readLoop, if_neg hroom, hres]
        exact hloop.prepend (rfl : [].foldl Intake.step s = s) rfl rfl (fun hs _ => hs)
      | data d =>
        obtain ⟨c, rs', hres⟩ : ∃ c rs',
            sysRead (maxAtResponse - b.fill) (.data d :: rs) = (.data c, rs') := by
          rw [sysRead]
          split_ifs <;> exact ⟨_, _, rfl⟩
        have hlater := sysRead_rest_open (n := maxAtResponse - b.fill) hrs
        rw [hres] at hlater
        rcases sysRead_open (by omega) (hrs (.data d) (by simp)) hres with ⟨hne, hlen, hfuel⟩
        rcases sysRead_arrivals hres with ⟨tail, htail, hsplit⟩
        have hfit : b.fill + c.length ≤ maxAtResponse := by omega
        have hread := h.read hne hfit (htail.imp_right And.left)
        have hnul : Arrival.byte 0 ∉ c.map Arrival.byte ++ tail → ∀ x ∈ c, x ≠ 0 := by
          rintro hnot x hx rfl
          exact hnot (List.mem_append_left _ (List.mem_map_of_mem hx))
        rcases List.exists_cons_of_ne_nil hne with ⟨x, c, rfl⟩
        cases hl : (b.store (x :: c)).look.1 with
        | some line =>
          rw [readLoop_found fuel hroom hres hl]
          refine .line h rfl (rfl : [].foldl Intake.step s = s) hfit hl ?_ (by simpa using hsplit)
            hread ?_
          · rcases htail with ⟨rfl, -⟩ | ⟨rfl, -⟩ <;> simp
          · intro hs hnot
            rw [hsplit, List.mem_append, not_or] at hnot
            exact h.store_nulFree hs (hnul hnot.1) hfit
        | none =>
          rcases h.waits hfit hl with ⟨hnext, hnone⟩
          rw [readLoop_continue fuel hroom hres hl]
          have hf' : readFuel rs' ≤ fuel := by omega
          refine (ih hnext hlater hf').prepend hread hnone hsplit (fun hs hnot => ?_)
          exact h.pause_nulFree hs (hnul hnot) hfit hl

theorem cstr_rest_of_here {b : AtBuffer} (h : (b.here == 0) = true) : cstr b.rest = [] := by
  rw [AtBuffer.here] at h
  cases hr : b.rest with
  | nil => rfl
  | cons x l =>
    obtain rfl : x = 0 := by simpa [hr] using h
    simp [cstr]

theorem Between.initial : Between .initial [] .initial := by
  refine ⟨maxAtResponse + 1, by omega, ?_⟩
  have hrest : cstr AtBuffer.initial.rest = [] := cstr_rest_of_here rfl
  rw [AtBuffer.scan, hrest, List.foldl_nil, Intake.settle, if_neg (by simp [smsPrompt]), if_pos rfl]
  simp only [Intake.rewind, Intake.initial, AtBuffer.initial, List.nil_append, List.length_nil,
    overwrite_singleton, List.replicate_succ, List.set_cons_zero]

theorem Between.pieces {b : AtBuffer} {handed : List Piece} {s : Intake} (h : Between b handed s) :
    handed <+: s.pieces := by
  rcases h with ⟨n, -, rfl⟩
  refine List.IsPrefix.trans ?_ (Intake.settle_pieces _ _)
  exact Intake.foldl_see_pieces ⟨handed, [], b.cur, b.fill, true, b.cells⟩ (cstr b.rest)

theorem Filling.reset {b : AtBuffer} (hb : Kept b) (handed : List Piece) :
    Filling b.reset ⟨handed, [], 0, 0, false, b.reset.cells⟩ := by
  rcases Holding.reset b with ⟨t, hreset⟩
  exact ⟨.reset hb.last, reset_fill_ne b, ⟨[], t, hreset.toUnread, rfl⟩, by simp, by simp [smsPrompt],
    rfl, rfl, rfl⟩

theorem Between.reset {b : AtBuffer} {handed : List Piece} {s : Intake} (h : Between b handed s)
    (hhere : (b.here == 0) = true) : s = ⟨handed, [], 0, 0, false, b.reset.cells⟩ := by
  rcases h with ⟨n, -, rfl⟩
  rw [AtBuffer.scan, cstr_rest_of_here hhere, List.foldl_nil, Intake.settle,
    if_neg (by simp [smsPrompt]), if_pos rfl]
  simp [Intake.rewind, AtBuffer.reset, overwrite_singleton]

/-- An unfinished line moved to the start of the buffer. -/
def Intake.moved (handed : List Piece) (b : AtBuffer) : Intake :=
  ⟨handed, cstr b.rest, (cstr b.rest).length, (cstr b.rest).length, false, b.compact.cells⟩

theorem Filling.compact {b : AtBuffer} (hb : Kept b) (hhere : (b.here == 0) = false)
    (hl : b.look.1 = none) (handed : List Piece) :
    Filling b.look.2.compact (.moved handed b.look.2) := by
  obtain ⟨hkept, hcur⟩ := hb.skipNewlines hhere
  rcases hb.unread (cur_le_of_here hhere) with ⟨t, hunread⟩
  obtain ⟨hp, htext⟩ := hunread.look_waits hl
  have hskip := hunread.skipNewlines
  rw [← hskip.cstr_rest] at hp htext
  rw [look_none_skip hl]
  rcases hskip.compact with ⟨t', hcompact⟩
  rw [← hskip.cstr_rest] at hcompact
  exact ⟨.compact hkept hcur, hkept.short.ne, ⟨[], t', hcompact.toUnread, by simp [Intake.moved]⟩,
    htext, hp, rfl, rfl, rfl⟩

theorem Between.compact {b : AtBuffer} {handed : List Piece} {s : Intake} (h : Between b handed s)
    {a u t : List UInt8} (hb : Unread b a u t) (hl : b.look.1 = none) :
    s = .moved handed b.look.2 := by
  rcases h with ⟨n, -, rfl⟩
  obtain ⟨hp, htext⟩ := hb.look_waits hl
  have hskip := hb.skipNewlines
  have htake : (b.skipNewlines.rest).take ((u.dropWhile isNewline).length + 1) =
      u.dropWhile isNewline ++ [0] := by
    rw [hskip.rest, List.append_cons, List.take_left' (by simp)]
  rw [hb.scan_text handed true htext, Intake.settle, if_neg hp, if_pos rfl, look_none_skip hl,
    Intake.moved, AtBuffer.compact_cells, hskip.cstr_rest, htake]
  rfl

/-- One call hands out a line that is in the buffer, or waits for the next pieces. -/
theorem Between.call {b : AtBuffer} {handed : List Piece} {s : Intake} (hb : Kept b)
    (h : Between b handed s) {rs : List ReadResult} (hrs : ∀ q ∈ rs, q.Open) :
    (∃ a u t line, Unread b a u t ∧ b.look.1 = some line ∧
      readline b rs = (some line, b.look.2, rs)) ∨
    (s.pieces = handed ∧ s.stop = s.fill ∧
      Reads s rs (readline b rs).1 (readline b rs).2.1 (readline b rs).2.2) := by
  cases hhere : b.here == 0 with
  | true =>
    obtain rfl := h.reset hhere
    have hfilling := Filling.reset hb handed
    rw [readline, if_pos hhere]
    exact .inr ⟨rfl, rfl, Filling.reads _ (by rwa [hfilling.refill_eq]) hrs le_rfl⟩
  | false =>
    rcases hb.unread (cur_le_of_here hhere) with ⟨t, hunread⟩
    cases hl : b.look.1 with
    | some line => exact .inl ⟨_, _, t, line, hunread, rfl, readline_found rs hhere hl⟩
    | none =>
      obtain rfl := h.compact hunread hl
      have hfilling := Filling.compact hb hhere hl handed
      rw [readline_continue rs hhere hl]
      exact .inr ⟨rfl, rfl, Filling.reads _ (by rwa [hfilling.refill_eq]) hrs le_rfl⟩

/-- What a call has not read comes from an open channel. -/
theorem readLoop_open (fuel : ℕ) {b : AtBuffer} {rs : List ReadResult} (h : ∀ q ∈ rs, q.Open) :
    ∀ q ∈ (readLoop fuel b rs).2.2, q.Open := by
  induction fuel generalizing b rs with
  | zero => exact h
  | succ fuel ih =>
    rw [readLoop]
    have hrest := sysRead_rest_open
      (n := maxAtResponse - (if b.fill = maxAtResponse then b.reset else b).fill) h
    split
    · next hres => exact ih (by rwa [hres] at hrest)
    · next hres => rwa [hres] at hrest
    · next hres => rwa [hres] at hrest
    · next hres =>
      rw [hres] at hrest
      split
      · exact hrest
      · exact ih hrest

theorem readline_open {b : AtBuffer} {rs : List ReadResult} (h : ∀ q ∈ rs, q.Open) :
    ∀ q ∈ (readline b rs).2.2, q.Open := by
  rw [readline]
  split_ifs
  · exact readLoop_open _ h
  · split
    · exact h
    · exact readLoop_open _ h

end Fw100.Channel
