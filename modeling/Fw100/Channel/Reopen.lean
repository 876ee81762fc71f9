import Fw100.Channel.Stale
import Fw100.Channel.Command

/-!
# Opening the channel again

`at_open` starts a new reader on the new descriptor but leaves `s_ATBuffer` and
`s_ATBufferCur` as the old reader left them. What the new reader returns depends on
the descriptor alone exactly when nothing but newlines is left unread and the cells
that the prompt branch can expose hold no text.
-/
namespace Fw100.Channel
open Library Text

/-- The statics of `atchannel.c`, which live as long as the driver. -/
structure Driver where
  channel : AtChannel
  buffer : AtBuffer

def Driver.loaded : Driver := ⟨.loaded, .initial⟩

/-- `at_open` does not touch the input buffer. -/
def Driver.atOpen (d : Driver) : Driver := { d with channel := d.channel.atOpen }

/-- The first `n` results of `readline` after `at_open` on a descriptor that delivers `rs`. -/
def Driver.delivered (d : Driver) (n : ℕ) (rs : List ReadResult) : List (Option CString) :=
  (readlineCalls n d.atOpen.buffer rs).1

/-- Any sessions on any descriptors, each ended anywhere. The channel may change in any way
between two calls of `readline`. -/
inductive Reached : Driver → Prop where
  | loaded : Reached .loaded
  | atOpen {d : Driver} (h : Reached d) : Reached d.atOpen
  | readline {d : Driver} (h : Reached d) (channel : AtChannel) (rs : List ReadResult) :
      Reached ⟨channel, (readline d.buffer rs).2.1⟩

theorem Reached.kept {d : Driver} (h : Reached d) : Kept d.buffer := by
  induction h with
  | loaded => exact .initial
  | atOpen _ ih => exact ih
  | readline _ _ rs ih => exact readline_kept ih rs

/-- The sequence of lines is that of a freshly loaded driver, for every descriptor. -/
def Driver.Isolated (d : Driver) : Prop :=
  ∀ n rs, d.delivered n rs = Driver.loaded.delivered n rs

/-- Only newlines are unread, and no cell from index 3 on holds text. -/
def Driver.Drained (d : Driver) : Prop :=
  (∀ x ∈ cstr d.buffer.rest, isNewline x = true) ∧
    ∀ x ∈ d.buffer.cells.drop 3, harmless x = true

theorem mem_cstr_drop_newlines {x : UInt8} {l : List UInt8} (hx : x ∈ cstr l)
    (htext : isNewline x = false) : x ∈ cstr (l.drop (l.takeWhile isNewline).length) := by
  induction l with
  | nil => simp [cstr] at hx
  | cons y l ih =>
    by_cases hy : isNewline y = true
    · have hy0 : y ≠ 0 := fun h0 => by simp [h0, isNewline_zero] at hy
      have hxy : x ≠ y := fun h => by simp [h, hy] at htext
      have hmem : x ∈ cstr l := by simpa [cstr, hy0, hxy] using hx
      simpa [hy] using ih hmem
    · simpa [hy] using hx

/-- A carriage return completes the line that stale text begins. -/
theorem stale_text_delivered {b : AtBuffer} (hb : Kept b) {x : UInt8} (hx : x ∈ cstr b.rest)
    (htext : isNewline x = false) : (readline b [.data [13]]).1.isSome = true := by
  have hhere : (b.here == 0) = false := by
    rw [AtBuffer.here]
    cases hr : b.rest with
    | nil => simp [hr, cstr] at hx
    | cons y l =>
      by_contra h0
      simp_all [cstr]
  cases hl : b.look.1 with
  | some line => simp [readline_found _ hhere hl]
  | none =>
    rw [readline_continue _ hhere hl, look_none_skip hl]
    rcases hb.skipNewlines hhere with ⟨hs, hcur⟩
    rcases hs.unread hcur with ⟨t₀, hunread⟩
    rcases hunread.compact with ⟨t, hold⟩
    have hmem : x ∈ cstr b.skipNewlines.rest := by
      rw [AtBuffer.rest, AtBuffer.skipNewlines_cells, AtBuffer.skipNewlines_cur, ← List.drop_drop]
      exact mem_cstr_drop_newlines hx htext
    have hshort := hs.short
    have hfill : b.skipNewlines.compact.fill = (cstr b.skipNewlines.rest).length := rfl
    have hroom : b.skipNewlines.compact.fill ≠ maxAtResponse := by omega
    have hres : sysRead (maxAtResponse - b.skipNewlines.compact.fill) [.data [13]] =
        (.data [13], []) := by
      rw [sysRead, if_pos (by simp; omega)]
    have hstore := hold.store (c := [13]) (by simp) (by simp; omega)
    rcases hstore.look_outcome True [] with ⟨line, hline, -⟩ | ⟨-, -, hplain⟩
    · rw [readFuel]
      simp [readLoop_found _ hroom hres hline]
    · have hleft : (cstr b.skipNewlines.rest).dropWhile isNewline ≠ [] := by
        intro hnil
        have := List.dropWhile_eq_nil_iff.mp hnil x hmem
        simp [htext] at this
      have h13 := hplain 13 (by simp [List.dropWhile_append, hleft])
      simp [isNewline] at h13

theorem newline_swallowed (b : AtBuffer) :
    (readLoop (readFuel [.data [13]]) b.reset [.data [13]]).1 = none := by
  rcases Holding.reset b with ⟨t, hold⟩
  have hres : sysRead (maxAtResponse - b.reset.fill) [.data [13]] = (.data [13], []) := rfl
  have hstore := hold.store (c := [13]) (by simp) (by simp [AtBuffer.reset, maxAtResponse])
  have hnone := congrArg Prod.fst (hstore.look_none (by decide) (by decide))
  rw [readFuel, readLoop_continue _ (reset_fill_ne b) hres hnone]
  simp [readLoop, sysRead]

/-- The prompt behind carriage returns. -/
theorem crs_prompt (k : ℕ) :
    (List.replicate k 13 ++ smsPrompt).dropWhile isNewline = smsPrompt := by
  have hnl : ∀ x ∈ List.replicate k (13 : UInt8), isNewline x = true := by
    intro x hx
    rw [List.eq_of_mem_replicate hx]
    rfl
  rw [List.dropWhile_append_of_pos hnl]
  rfl

theorem crs_prompt_nulFree (k : ℕ) : ∀ x ∈ List.replicate k 13 ++ smsPrompt, x ≠ 0 := by
  intro x hx
  rcases List.mem_append.mp hx with hx | hx
  · simp [List.eq_of_mem_replicate hx]
  · intro h0
    simp [h0, smsPrompt] at hx

/-- The bare prompt puts the cursor on a cell of the old sessions. -/
theorem prompt_exposes {b : AtBuffer} (hb : Kept b) (hrest : ∀ x ∈ cstr b.rest, isNewline x = true)
    (k : ℕ) (hk : k + 3 ≤ maxAtResponse) (rs : List ReadResult) :
    (readline b (.data (List.replicate k 13 ++ smsPrompt) :: rs)).1 = some smsPrompt ∧
      (readline b (.data (List.replicate k 13 ++ smsPrompt) :: rs)).2.2 = rs ∧
      (readline b (.data (List.replicate k 13 ++ smsPrompt) :: rs)).2.1.rest =
        b.cells.drop (k + 3) := by
  rcases Holding.reset b with ⟨t, hold⟩
  have ht : t = b.cells.drop 1 := by
    have := hold.cells
    rw [AtBuffer.reset] at this
    cases hc : b.cells with
    | nil => simp [hc] at this
    | cons y l => simpa [hc] using this.symm
  set c := List.replicate k (13 : UInt8) ++ smsPrompt with hc
  have hlen : c.length = k + 2 := by simp [hc, smsPrompt]
  have hnul : ∀ x ∈ c, x ≠ 0 := crs_prompt_nulFree k
  have hdrop := crs_prompt k
  rw [← hc] at hdrop
  have hfill : b.reset.fill = 0 := rfl
  have hstore := hold.store hnul (by omega)
  rcases hstore.look_prompt (by simpa using hdrop) with ⟨hline, hcells, hcur⟩
  have hres : sysRead (maxAtResponse - b.reset.fill) (.data c :: rs) = (.data c, rs) := by
    rw [sysRead, if_pos (by omega)]
  have hfuel : readFuel (.data c :: rs) = (c.length + readFuel rs) + 1 := by
    rw [readFuel_cons, ReadResult.bytes]
    omega
  obtain ⟨x, c', hcons⟩ := List.exists_cons_of_ne_nil (l := c) (by simp [← List.length_pos_iff, hlen])
  rw [readline_restart hb hrest, hfuel]
  rw [hstore.cells, ht] at hcells
  rw [hcons] at hres hline hcells hcur ⊢
  rw [readLoop_found _ (reset_fill_ne b) hres hline]
  refine ⟨rfl, rfl, ?_⟩
  dsimp only
  rw [AtBuffer.rest, hcells, hcur, ← hcons, List.nil_append, List.append_cons,
    List.drop_left' (by simp), hlen, List.drop_drop]
  congr 1
  omega

theorem newline_only {b : AtBuffer} (hb : Kept b) (hrest : ∀ x ∈ cstr b.rest, isNewline x = true) :
    (readline b [.data [13]]).1 = none := by
  rw [readline_restart hb hrest]
  exact newline_swallowed b

theorem Driver.loaded_drained : Driver.loaded.Drained := by
  constructor
  · intro x hx
    exact absurd hx (by simp [Driver.loaded, AtBuffer.initial, AtBuffer.rest, cstr])
  · intro x hx
    have hzero : x = 0 := List.eq_of_mem_replicate (List.mem_of_mem_drop hx)
    simp [hzero, harmless]

theorem readline_reset (b : AtBuffer) (rs : List ReadResult) :
    readline b.reset rs = readLoop (readFuel rs) b.reset rs := by
  rcases Holding.reset b with ⟨t, hold⟩
  have hagain : b.reset.reset = b.reset := by simp [AtBuffer.reset]
  rw [readline, hold.here_eq_zero, List.isEmpty_nil, if_pos rfl, hagain]

theorem alike_reset {b b₀ : AtBuffer} (hb : Kept b) (hb₀ : Kept b₀)
    (hq : ∀ x ∈ b.cells.drop 3, harmless x = true)
    (hq₀ : ∀ x ∈ b₀.cells.drop 3, harmless x = true) : Alike b.reset b₀.reset := by
  have hcells : ∀ c : AtBuffer, c.reset.cells = [] ++ 0 :: c.cells.drop 1 := by
    intro c
    have hlen := c.cells_length
    cases hc : c.cells with
    | nil => simp [hc] at hlen
    | cons y l => simp [AtBuffer.reset, hc]
  refine ⟨(Reading.reset hb.last).kept (reset_fill_ne b),
    (Reading.reset hb₀.last).kept (reset_fill_ne b₀), [], ⟨rfl, rfl, ⟨_, hcells b, ?_⟩, ⟨_, hcells b₀, ?_⟩⟩,
    .inl le_rfl⟩
  · simpa [QuietFrom] using hq
  · simpa [QuietFrom] using hq₀

/-- From a drained buffer on, the new reader cannot tell the driver from a fresh one. -/
theorem Driver.Drained.isolated {d : Driver} (hd : d.Drained) (hb : Kept d.buffer) :
    d.Isolated := by
  intro n rs
  cases n with
  | zero => rfl
  | succ n =>
    have hstart : readline d.buffer rs = readline d.buffer.reset rs := by
      rw [readline_restart hb hd.1, readline_reset]
    have hstart₀ : readline AtBuffer.initial rs = readline AtBuffer.initial.reset rs := by
      rw [readline_restart .initial Driver.loaded_drained.1, readline_reset]
    have hcalls := (alike_reset hb .initial hd.2 Driver.loaded_drained.2).readlineCalls (n + 1) rs
    simp only [readlineCalls, ← hstart, ← hstart₀] at hcalls
    exact hcalls

/-- Text left unread is delivered in front of the first line of the new descriptor. -/
theorem Driver.Isolated.rest {d : Driver} (h : d.Isolated) (hb : Kept d.buffer) :
    ∀ x ∈ cstr d.buffer.rest, isNewline x = true := by
  intro x hx
  by_contra htext
  have hsome := stale_text_delivered hb hx (by simpa using htext)
  have hnone := newline_only Kept.initial Driver.loaded_drained.1
  have hsame := h 1 [.data [13]]
  simp only [Driver.delivered, Driver.atOpen, Driver.loaded, readlineCalls, List.cons.injEq,
    and_true] at hsame
  rw [hsame, hnone] at hsome
  simp at hsome

/-- A stale cell is delivered behind a bare prompt. -/
theorem Driver.Isolated.cells {d : Driver} (h : d.Isolated) (hb : Kept d.buffer) :
    ∀ x ∈ d.buffer.cells.drop 3, harmless x = true := by
  have hrest := h.rest hb
  intro x hx
  by_contra htext
  rcases List.mem_iff_getElem?.mp hx with ⟨k, hk⟩
  rw [List.getElem?_drop, Nat.add_comm] at hk
  have hlt : k + 3 < maxAtResponse + 1 := by
    rw [← d.buffer.cells_length]
    exact (List.getElem?_eq_some_iff.mp hk).1
  rcases prompt_exposes hb hrest k (by omega) [.data [13]] with ⟨-, hrs, hexp⟩
  obtain ⟨-, hrs₀, hexp₀⟩ :=
    prompt_exposes .initial Driver.loaded_drained.1 k (by omega) [.data [13]]
  have hkept := readline_kept hb (.data (List.replicate k 13 ++ smsPrompt) :: [.data [13]])
  have hkept₀ := readline_kept .initial (.data (List.replicate k 13 ++ smsPrompt) :: [.data [13]])
  have hsame := h 2 (.data (List.replicate k 13 ++ smsPrompt) :: [.data [13]])
  simp only [Driver.delivered, Driver.atOpen, Driver.loaded, readlineCalls, hrs, hrs₀,
    List.cons.injEq, and_true] at hsame
  obtain ⟨hx0, hnl⟩ : x ≠ 0 ∧ isNewline x = false := by simpa [harmless] using htext
  have hmem : x ∈ cstr (readline d.buffer
      (.data (List.replicate k 13 ++ smsPrompt) :: [.data [13]])).2.1.rest := by
    rcases List.getElem?_eq_some_iff.mp hk with ⟨hlt', hget⟩
    rw [hexp, List.drop_eq_getElem_cons hlt', hget]
    simp [cstr, hx0]
  have hsome := stale_text_delivered hkept hmem hnl
  have hnone := newline_only hkept₀ (by
    intro y hy
    rw [hexp₀] at hy
    have hzero := List.eq_of_mem_replicate
      (List.mem_of_mem_drop ((List.takeWhile_sublist _).subset hy))
    have hne := List.mem_takeWhile_imp hy
    simp [hzero] at hne)
  rw [hsame.2, hnone] at hsome
  simp at hsome

/-- **Sessions are isolated exactly when the buffer is drained.** -/
theorem Driver.isolated_iff_drained {d : Driver} (h : Reached d) : d.Isolated ↔ d.Drained :=
  ⟨fun hi => ⟨hi.rest h.kept, hi.cells h.kept⟩, fun hd => hd.isolated h.kept⟩

/-- The driver after one session that delivered `rs` to a single call of `readline`. -/
def Driver.afterSession (rs : List ReadResult) : Driver :=
  ⟨Driver.loaded.atOpen.channel.onReaderClosed, (readline Driver.loaded.atOpen.buffer rs).2.1⟩

theorem Driver.reached_afterSession (rs : List ReadResult) : Reached (.afterSession rs) :=
  .readline (.atOpen .loaded) _ rs

theorem Driver.drained_short_line : (Driver.afterSession [.data (ascii "OK\r")]).Drained := by
  have hrest : cstr (Driver.afterSession [.data (ascii "OK\r")]).buffer.rest = [] := by
    decide +kernel
  have hcells : (Driver.afterSession [.data (ascii "OK\r")]).buffer.cells.drop 3 =
      List.replicate (maxAtResponse - 2) 0 := by rfl
  constructor
  · simp [hrest]
  · intro x hx
    rw [hcells] at hx
    simp [List.eq_of_mem_replicate hx, harmless]

/-- A session that ended behind a short complete line. -/
theorem isolated_iff_drained_short_line :
    (Driver.afterSession [.data (ascii "OK\r")]).Isolated :=
  (Driver.isolated_iff_drained (Driver.reached_afterSession _)).mpr Driver.drained_short_line

/-- A session that ended inside a line: its text is put in front of the next session's line. -/
theorem partial_line_crosses_sessions :
    Reached (.afterSession [.data (ascii "+CR")]) ∧
      (Driver.afterSession [.data (ascii "+CR")]).delivered 1 [.data (ascii "OK\r")] =
        [some (ascii "+CROK")] ∧
      Driver.loaded.delivered 1 [.data (ascii "OK\r")] = [some (ascii "OK")] ∧
      ¬ (Driver.afterSession [.data (ascii "+CR")]).Isolated := by
  have hold : (Driver.afterSession [.data (ascii "+CR")]).delivered 1 [.data (ascii "OK\r")] =
      [some (ascii "+CROK")] := by decide +kernel
  have hnew : Driver.loaded.delivered 1 [.data (ascii "OK\r")] = [some (ascii "OK")] := by
    decide +kernel
  refine ⟨.readline (.atOpen .loaded) _ _, hold, hnew, fun h => ?_⟩
  have hsame := h 1 [.data (ascii "OK\r")]
  rw [hold, hnew] at hsame
  exact absurd hsame (by decide)

end Fw100.Channel
