import Fw100.Channel.LineBuffer
import Fw100.Session.Context

/-!
# The handshake on a freshly opened port

`sync_modem` sends `AT` and collects what the modem sends back until an `OK` is seen or
`read` delivers nothing more. The environment fixes for every try what `write` returns
and what the successive calls of `read` have to deliver.
-/
namespace Fw100.Session
open Library Text Channel

/-- What the calls of one try return. -/
structure SyncTry where
  written : ℤ
  reads : List ReadResult
deriving DecidableEq, Repr

/-- A call of `read` by the index it stores at and its third argument, with the buffer
as it leaves it. -/
structure SyncRead where
  offset : ℕ
  count : ℕ
  buffer : CharArray 255
deriving DecidableEq, Repr

structure SyncLoop where
  found : Bool
  received : List UInt8
  calls : List SyncRead
deriving DecidableEq, Repr

structure SyncResult where
  ret : ℤ
  /-- The tries whose command was written. -/
  loops : List SyncLoop
deriving DecidableEq, Repr

/-- `buffer + sizeof(buffer) - bufptr - 1`, converted to `size_t`. -/
def readCount (pos : ℕ) : ℕ := ((255 - (pos : ℤ) - 1) % 2 ^ 32).toNat

def storeRead (buffer : CharArray 255) (pos : ℕ) (chunk : List UInt8) : CharArray 255 :=
  ⟨overwrite pos chunk buffer.1, (length_overwrite pos chunk buffer.1).trans buffer.2⟩

/-- The loop around `read`, with `pos` for `bufptr`. A call that delivers nothing or
fails ends it. -/
def readUntilOk (buffer : CharArray 255) (pos : ℕ) : List ReadResult → SyncLoop
  | .data bytes :: reads =>
    let chunk := bytes.take (readCount pos)
    let call : SyncRead := ⟨pos, readCount pos, storeRead buffer pos chunk⟩
    if chunk = [] then ⟨false, [], [call]⟩
    else if strstr call.buffer.text (ascii "OK") then ⟨true, chunk, [call]⟩
    else
      let loop := readUntilOk call.buffer (pos + chunk.length) reads
      ⟨loop.found, chunk ++ loop.received, call :: loop.calls⟩
  | _ => ⟨false, [], [⟨pos, readCount pos, buffer⟩]⟩

/-- The loop over the tries, of which `left` are left. Behind it `ret` is set to 0. -/
def syncTries (env : ℕ → SyncTry) : ℕ → ℕ → SyncResult
  | 0, _ => ⟨0, []⟩
  | left + 1, tries =>
    if (env tries).written < 3 then syncTries env left (tries + 1)
    else
      let loop := readUntilOk (.zero 255) 0 (env tries).reads
      if loop.found then ⟨0, [loop]⟩
      else
        let result := syncTries env left (tries + 1)
        ⟨result.ret, loop :: result.loops⟩

def syncModem (env : ℕ → SyncTry) : SyncResult := syncTries env 100 0

/-- The descriptor that `mainLoop` has at `check_fd`, where `open` returned `fd` and
`configure_modem_fd` returned `configured`. With `errno` at `EAGAIN` both steps are skipped. -/
def openAtPort (fd : ℤ) (again : Bool) (configured : ℤ) (env : ℕ → SyncTry) : ℤ :=
  if again then fd
  else if fd < 0 then fd
  else if configured ≠ 0 then -1
  else if (syncModem env).ret ≠ 0 then -1
  else fd

/-! ### The buffer of one try -/

def leadingData : List ReadResult → List UInt8
  | .data (b :: bytes) :: reads => b :: bytes ++ leadingData reads
  | _ => []

def delivered (reads : List ReadResult) : List UInt8 := (leadingData reads).take 254

/-- The received bytes stand at the front of the cleared buffer. -/
def Holds (buffer : CharArray 255) (received : List UInt8) : Prop :=
  received.length ≤ 254 ∧ buffer.1 = received ++ List.replicate (255 - received.length) 0

theorem holds_zero : Holds (.zero 255) [] := by
  constructor
  · simp
  · rfl

theorem readCount_eq {pos : ℕ} (h : pos ≤ 254) : readCount pos = 254 - pos := by
  unfold readCount
  omega

section Buffer
variable {buffer : CharArray 255} {received chunk : List UInt8}

theorem Holds.text (h : Holds buffer received) (hnul : ∀ b ∈ received, b ≠ 0) :
    buffer.text = received := by
  have hcells : 255 - received.length = 254 - received.length + 1 := by
    have := h.1
    omega
  rw [CharArray.text, h.2, hcells, List.replicate_succ]
  exact cstr_append_nul hnul _

theorem Holds.nul_mem (h : Holds buffer received) : (0 : UInt8) ∈ buffer.1 := by
  have := h.1
  rw [h.2, List.mem_append, List.mem_replicate]
  exact .inr ⟨by omega, rfl⟩

theorem Holds.store (h : Holds buffer received) (hfits : chunk.length ≤ 254 - received.length) :
    Holds (storeRead buffer received.length chunk) (received ++ chunk) := by
  have hlength := h.1
  constructor
  · rw [List.length_append]
    omega
  · have hroom : chunk.length ≤ (List.replicate (255 - received.length) (0 : UInt8)).length := by
      rw [List.length_replicate]
      omega
    simp only [storeRead]
    rw [h.2, overwrite_append hroom, List.drop_replicate, List.length_append, Nat.sub_sub]

/-- A chunk clipped by the buffer is clipped by its first 254 bytes. -/
theorem take_received (received bytes more : List UInt8) :
    (received ++ (bytes ++ more)).take 254 =
      (received ++ bytes.take (254 - received.length) ++ more).take 254 := by
  have hclip : 254 - received.length - min (254 - received.length) bytes.length =
      254 - received.length - bytes.length := by omega
  simp [List.take_append, List.take_take, hclip, Nat.sub_sub]

end Buffer

/-! ### The two loops -/

/-- `read` stores in front of a NUL of the buffer. -/
def SyncRead.InBounds (call : SyncRead) : Prop :=
  call.offset + call.count < 255 ∧ (0 : UInt8) ∈ call.buffer.1

/-- The inner loop from the point at which `received` has been received without an `OK`. -/
structure LoopResult (received : List UInt8) (reads : List ReadResult) (loop : SyncLoop) :
    Prop where
  received_iff : loop.found = true ↔ ascii "OK" <:+: received ++ loop.received
  delivered_iff : loop.found = true ↔ ascii "OK" <:+: (received ++ leadingData reads).take 254
  inBounds : ∀ call ∈ loop.calls, call.InBounds

section Loop
variable {buffer : CharArray 255} {received : List UInt8}

theorem Holds.inBounds (h : Holds buffer received) {pos : ℕ} (hpos : pos ≤ 254) :
    SyncRead.InBounds ⟨pos, readCount pos, buffer⟩ := by
  constructor
  · simp only [readCount_eq hpos]
    omega
  · exact h.nul_mem

theorem LoopResult.stop (hok : ¬ ascii "OK" <:+: received) {reads : List ReadResult}
    (hrest : (received ++ leadingData reads).take 254 = received) {call : SyncRead}
    (hcall : call.InBounds) : LoopResult received reads ⟨false, [], [call]⟩ where
  received_iff := by simpa using hok
  delivered_iff := by simpa [hrest] using hok
  inBounds := by simpa using hcall

theorem leadingData_cons (bytes : List UInt8) (hbytes : bytes ≠ []) (reads : List ReadResult) :
    leadingData (.data bytes :: reads) = bytes ++ leadingData reads := by
  cases bytes with
  | nil => exact absurd rfl hbytes
  | cons b bytes => rfl

/-- An empty chunk means a full buffer or the end of the data. -/
theorem take_received_of_empty {bytes : List UInt8} (hlength : received.length ≤ 254)
    (hempty : bytes.take (254 - received.length) = []) (reads : List ReadResult) :
    (received ++ leadingData (.data bytes :: reads)).take 254 = received := by
  rcases List.take_eq_nil_iff.mp hempty with hzero | hnil
  · have hfull : received.length = 254 := by omega
    rw [← hfull, List.take_left]
  · have hnone : leadingData (.data bytes :: reads) = [] := by
      rw [hnil]
      rfl
    rw [hnone, List.append_nil, List.take_of_length_le hlength]

theorem LoopResult.hit {bytes : List UInt8} {reads : List ReadResult} (hlength : received.length ≤ 254)
    (hbytes : bytes ≠ [])
    (hok : ascii "OK" <:+: received ++ bytes.take (254 - received.length)) {call : SyncRead}
    (hcall : call.InBounds) : LoopResult received (.data bytes :: reads)
      ⟨true, bytes.take (254 - received.length), [call]⟩ where
  received_iff := by simpa using hok
  delivered_iff := by
    have hfits : (received ++ bytes.take (254 - received.length)).length ≤ 254 := by
      rw [List.length_append, List.length_take]
      omega
    have hprefix := List.prefix_take_iff.mpr
      ⟨List.prefix_append _ (leadingData reads), hfits⟩
    rw [leadingData_cons bytes hbytes, take_received]
    simpa using hok.trans hprefix.isInfix
  inBounds := by simpa using hcall

theorem LoopResult.more {bytes : List UInt8} {reads : List ReadResult} (hbytes : bytes ≠ [])
    {loop : SyncLoop}
    (h : LoopResult (received ++ bytes.take (254 - received.length)) reads loop)
    {call : SyncRead} (hcall : call.InBounds) : LoopResult received (.data bytes :: reads)
      ⟨loop.found, bytes.take (254 - received.length) ++ loop.received, call :: loop.calls⟩ where
  received_iff := by rw [← List.append_assoc, h.received_iff]
  delivered_iff := by rw [leadingData_cons bytes hbytes, take_received, h.delivered_iff]
  inBounds := List.forall_mem_cons.mpr ⟨hcall, h.inBounds⟩

/-- The invariant of the loop is that the buffer holds what was received. -/
theorem readUntilOk_result (reads : List ReadResult) (h : Holds buffer received)
    (hreceived : ∀ b ∈ received, b ≠ 0) (hreads : ∀ b ∈ streamBytes reads, b ≠ 0)
    (hok : ¬ ascii "OK" <:+: received) :
    LoopResult received reads (readUntilOk buffer received.length reads) := by
  induction reads generalizing buffer received with
  | nil =>
    have hfull : received.take 254 = received := List.take_of_length_le h.1
    exact .stop hok (by simpa [leadingData] using hfull) (h.inBounds h.1)
  | cons r reads ih =>
    have hfull : received.take 254 = received := List.take_of_length_le h.1
    cases r with
    | eintr => exact .stop hok (by simpa [leadingData] using hfull) (h.inBounds h.1)
    | error => exact .stop hok (by simpa [leadingData] using hfull) (h.inBounds h.1)
    | data bytes =>
      have hcount := readCount_eq h.1
      let chunk := bytes.take (254 - received.length)
      have hnext : Holds (storeRead buffer received.length chunk) (received ++ chunk) :=
        h.store (List.length_take_le _ _)
      have hcall := hnext.inBounds h.1
      have hstream : ∀ b ∈ bytes ++ streamBytes reads, b ≠ 0 := hreads
      have hnul : ∀ b ∈ received ++ chunk, b ≠ 0 := by
        intro b hb
        rcases List.mem_append.mp hb with hb | hb
        · exact hreceived b hb
        · exact hstream b (List.mem_append_left _ (List.mem_of_mem_take hb))
      rw [hcount] at hcall
      simp only [readUntilOk, hcount]
      by_cases hempty : chunk = []
      · rw [if_pos hempty]
        exact .stop hok (take_received_of_empty h.1 hempty reads) hcall
      · have hbytes : bytes ≠ [] := by
          intro hnil
          exact hempty (by simp [chunk, hnil])
        rw [if_neg hempty, hnext.text hnul]
        by_cases hfound : strstr (received ++ chunk) (ascii "OK") = true
        · rw [if_pos hfound]
          exact .hit h.1 hbytes ((strstr_iff _ _).mp hfound) hcall
        · have htail := ih hnext hnul (fun b hb => hstream b (List.mem_append_right _ hb))
            (fun hinfix => hfound ((strstr_iff _ _).mpr hinfix))
          rw [List.length_append] at htail
          rw [if_neg hfound]
          exact .more hbytes htail hcall

end Loop

def NulFree (env : ℕ → SyncTry) : Prop := ∀ n, ∀ b ∈ streamBytes (env n).reads, b ≠ 0

section Tries
variable {env : ℕ → SyncTry}

theorem readUntilOk_zero (hnul : NulFree env) (n : ℕ) :
    LoopResult [] (env n).reads (readUntilOk (.zero 255) 0 (env n).reads) :=
  readUntilOk_result _ holds_zero (by simp) (hnul n) (by decide)

theorem syncTries_ret (env : ℕ → SyncTry) (left tries : ℕ) : (syncTries env left tries).ret = 0 := by
  induction left generalizing tries with
  | zero => rfl
  | succ left ih =>
    simp only [syncTries]
    split_ifs
    · exact ih _
    · rfl
    · exact ih _

theorem syncTries_length (env : ℕ → SyncTry) (left tries : ℕ) :
    (syncTries env left tries).loops.length ≤ left := by
  induction left generalizing tries with
  | zero => exact le_rfl
  | succ left ih =>
    have htail := ih (tries + 1)
    simp only [syncTries]
    split_ifs
    · omega
    · simp
    · simpa using htail

theorem syncTries_inBounds (hnul : NulFree env) (left tries : ℕ) :
    ∀ loop ∈ (syncTries env left tries).loops, ∀ call ∈ loop.calls, call.InBounds := by
  induction left generalizing tries with
  | zero => simp [syncTries]
  | succ left ih =>
    have hloop := (readUntilOk_zero hnul tries).inBounds
    simp only [syncTries]
    split_ifs
    · exact ih _
    · simpa using hloop
    · exact List.forall_mem_cons.mpr ⟨hloop, ih _⟩

/-- The command of try `n` is written and its answer has an `OK`. -/
def Answers (env : ℕ → SyncTry) (n : ℕ) : Prop :=
  3 ≤ (env n).written ∧ ascii "OK" <:+: delivered (env n).reads

/-- One of the tries sees an `OK` exactly if the modem answers one of them. -/
theorem syncTries_received_iff (hnul : NulFree env) (left tries : ℕ) :
    (∃ loop ∈ (syncTries env left tries).loops, ascii "OK" <:+: loop.received) ↔
      ∃ k < left, Answers env (tries + k) := by
  induction left generalizing tries with
  | zero => simp [syncTries]
  | succ left ih =>
    have hloop := readUntilOk_zero hnul tries
    have hrest : (∃ k < left, Answers env (tries + (k + 1))) ↔
        ∃ loop ∈ (syncTries env left (tries + 1)).loops, ascii "OK" <:+: loop.received := by
      simp only [ih, Nat.add_assoc, Nat.add_comm 1]
    rw [Nat.exists_lt_succ_left, hrest]
    simp only [syncTries, add_zero]
    by_cases hwritten : (env tries).written < 3
    · rw [if_pos hwritten]
      simp [Answers, hwritten]
    · have hanswers : Answers env tries ↔
          ascii "OK" <:+: (readUntilOk (.zero 255) 0 (env tries).reads).received := by
        have hreceived := hloop.received_iff
        rw [hloop.delivered_iff] at hreceived
        simpa [Answers, delivered, not_lt.mp hwritten] using hreceived
      rw [if_neg hwritten, hanswers]
      split_ifs with hfound
      · have hok := hloop.received_iff.mp hfound
        rw [List.nil_append] at hok
        simp [hok]
      · simp

end Tries

/-- `sync_modem` returns 0 exactly if one of its at most 100 tries received an `OK`, and
-1 otherwise; its calls of `read` leave the buffer's last byte alone. -/
def SyncReports (env : ℕ → SyncTry) : Prop :=
  let result := syncModem env
  (result.ret = 0 ↔ ∃ loop ∈ result.loops, ascii "OK" <:+: loop.received) ∧
    (result.ret ≠ 0 → result.ret = -1) ∧ result.loops.length ≤ 100 ∧
    ∀ loop ∈ result.loops, ∀ call ∈ loop.calls, call.InBounds

theorem modem_sync_reported_iff {env : ℕ → SyncTry} (hnul : NulFree env) :
    SyncReports env ↔ ∃ n < 100, Answers env n := by
  have hret : (syncModem env).ret = 0 := syncTries_ret env 100 0
  have hlength : (syncModem env).loops.length ≤ 100 := syncTries_length env 100 0
  have hbounds := syncTries_inBounds hnul 100 0
  have hreceived := syncTries_received_iff hnul 100 0
  simp only [Nat.zero_add] at hreceived
  rw [← hreceived]
  constructor
  · intro h
    exact h.1.mp hret
  · intro hok
    exact ⟨iff_of_true hret hok, fun hbad => absurd hret hbad, hlength, hbounds⟩

/-- An `OK` that arrives in two parts. -/
theorem modem_sync_reported_split :
    let env : ℕ → SyncTry := fun _ =>
      ⟨3, [.data (ascii "AT\r\r\nO"), .data (ascii "K\r\n"), .error]⟩
    SyncReports env := by
  intro env
  have hnul : NulFree env := by
    intro n
    decide +kernel
  have hanswers : Answers env 0 := ⟨by decide, by decide +kernel⟩
  exact (modem_sync_reported_iff hnul).mpr ⟨0, by decide, hanswers⟩

/-- A port whose modem never says anything is reported as ready. -/
theorem modem_sync_reported_silent :
    let env : ℕ → SyncTry := fun _ => ⟨3, []⟩
    NulFree env ∧ (syncModem env).ret = 0 ∧ ¬ SyncReports env := by
  intro env
  have hnul : NulFree env := by
    intro n b hb
    simp [env, streamBytes] at hb
  have hret : (syncModem env).ret = 0 := syncTries_ret env 100 0
  have hsilent : ∀ n, ¬ Answers env n := by
    intro n h
    exact absurd h.2 (by decide)
  have hreceived := syncTries_received_iff hnul 100 0
  refine ⟨hnul, hret, ?_⟩
  intro h
  rcases hreceived.mp (h.1.mp hret) with ⟨n, -, hanswers⟩
  exact hsilent _ hanswers

/-- `mainLoop` keeps every port that it could configure, whatever the modem says. -/
theorem openAtPort_eq (fd : ℤ) (again : Bool) (configured : ℤ) (env : ℕ → SyncTry) :
    openAtPort fd again configured env =
      if again = false ∧ 0 ≤ fd ∧ configured ≠ 0 then -1 else fd := by
  have hret : (syncModem env).ret = 0 := syncTries_ret env 100 0
  cases again with
  | true => simp [openAtPort]
  | false =>
    by_cases hfd : fd < 0
    · simp [openAtPort, hfd, not_le.mpr hfd]
    · simp [openAtPort, hfd, not_lt.mp hfd, hret]

end Fw100.Session
