import Fw100.Request.Fields

/-!
# Commands to the GPS device

The library sets the rates of the device's sentences with `$PUBX` sentences of its own.
`gps_dev_send` writes them in as many parts as the device takes. The descriptor does not block,
so that a write can also fail with another error than `EINTR`, which the loop does not look at.
-/
namespace Fw100.Gps
open Text (ascii)
open Request (decimal decimal_digits)

inductive WriteResult where
  /-- It takes that many of the bytes, or all if there are fewer. -/
  | wrote (count : ℕ)
  | eintr
  | error
deriving DecidableEq, Repr

def cell (msg : List UInt8) (i : ℤ) : Option UInt8 := if i < 0 then none else msg[i.toNat]?

def sentNext (msg : List UInt8) (n : ℤ) : WriteResult → ℤ
  | .wrote count => n + min count (msg.length - n).toNat
  | .eintr => n
  | .error => n - 1

def sentBytes (msg : List UInt8) (n : ℤ) : WriteResult → List (Option UInt8)
  | .wrote count =>
    (List.range (min count (msg.length - n).toNat)).map (fun j : ℕ => cell msg (n + j))
  | _ => []

/-- The loop of `gps_dev_send` from `n` on: the bytes that are written, and the results that are
left. It is still in the loop when there are no more results. -/
def sendLoop (msg : List UInt8) : ℤ → List WriteResult →
    Option (List (Option UInt8) × List WriteResult)
  | _, [] => none
  | n, r :: results =>
    if sentNext msg n r < msg.length then
      (sendLoop msg (sentNext msg n r) results).map (fun d => (sentBytes msg n r ++ d.1, d.2))
    else some (sentBytes msg n r, results)

def gpsDevSend (msg : List UInt8) (results : List WriteResult) :
    Option (List (Option UInt8) × List WriteResult) := sendLoop msg 0 results

def sendAll : List (List UInt8) → List WriteResult →
    Option (List (Option UInt8) × List WriteResult)
  | [], results => some ([], results)
  | msg :: msgs, results =>
    (gpsDevSend msg results).bind (fun d =>
      (sendAll msgs d.2).map (fun later => (d.1 ++ later.1, later.2)))

def hexDigit (n : ℕ) : UInt8 := if n < 10 then UInt8.ofNat (48 + n) else UInt8.ofNat (87 + n)

def hexByte (b : UInt8) : List UInt8 := [hexDigit (b.toNat / 16), hexDigit (b.toNat % 16)]

def gpsDevCalcNmeaCsum (msg : List UInt8) : UInt8 :=
  ((msg.drop 1).takeWhile (· != 42)).foldl (· ^^^ ·) 0

/-- The message of `gps_dev_set_nmea_message_rate`. -/
def nmeaMessageRate (msg : List UInt8) (rate : ℤ) : List UInt8 :=
  let buff := ascii "$PUBX,40," ++ msg ++ ascii "," ++ decimal rate ++ ascii "," ++ decimal rate ++
    ascii "," ++ decimal rate ++ ascii ",0*"
  buff ++ (hexByte (gpsDevCalcNmeaCsum buff) ++ ascii "\r\n")

def rateIds : List (List UInt8) :=
  [ascii "GGA", ascii "GLL", ascii "ZDA", ascii "VTG", ascii "GSA", ascii "GSV", ascii "RMC"]

def rateMessages (rate : ℤ) : List (List UInt8) := rateIds.map (nmeaMessageRate · rate)

/-- `gps_dev_set_message_rate`; the rate is 1 in `gps_dev_start` and 10 in `gps_dev_stop`. -/
def gpsDevSetMessageRate (rate : ℤ) (results : List WriteResult) :
    Option (List (Option UInt8) × List WriteResult) := sendAll (rateMessages rate) results

/-! ### Delivery -/

/-- The bytes of the string from `n` on. -/
theorem map_cell (msg : List UInt8) {n k : ℕ} (h : n + k ≤ msg.length) :
    (List.range k).map (fun j : ℕ => cell msg ((n : ℤ) + j)) =
      ((msg.drop n).take k).map some := by
  apply List.ext_getElem?
  intro j
  have hnat : ∀ i : ℕ, cell msg ((n : ℤ) + i) = msg[n + i]? := by
    intro i
    rw [cell, if_neg (by omega)]
    congr 1
  by_cases hj : j < k
  · rw [List.getElem?_map, List.getElem?_range hj, List.getElem?_map, List.getElem?_take_of_lt hj,
      List.getElem?_drop, Option.map_some, hnat, List.getElem?_eq_getElem (by omega)]
    rfl
  · rw [List.getElem?_eq_none (by simpa using hj), List.getElem?_eq_none]
    rw [List.length_map, List.length_take]
    omega

theorem length_sentBytes (msg : List UInt8) (n : ℤ) (r : WriteResult) :
    ((sentBytes msg n r).length : ℤ) = sentNext msg n r - n + (if r = .error then 1 else 0) := by
  cases r with
  | wrote count =>
    simp only [sentBytes, sentNext, List.length_map, List.length_range, reduceCtorEq, if_false]
    omega
  | eintr => simp [sentBytes, sentNext]
  | error => simp [sentBytes, sentNext]

theorem sentNext_le {msg : List UInt8} {n : ℤ} (h : n ≤ msg.length) (r : WriteResult) :
    sentNext msg n r ≤ msg.length := by
  cases r with
  | wrote count =>
    simp only [sentNext]
    omega
  | eintr => exact h
  | error =>
    simp only [sentNext]
    omega

/-- The results that were used. Every error is made up for by a byte too many. -/
theorem sendLoop_length {msg : List UInt8} {n : ℤ} (hn : n ≤ msg.length) {results : List WriteResult}
    {d : List (Option UInt8) × List WriteResult} (h : sendLoop msg n results = some d) :
    ∃ used, results = used ++ d.2 ∧
      (d.1.length : ℤ) = msg.length - n + used.count .error := by
  induction results generalizing n d with
  | nil => cases h
  | cons r results ih =>
    have hlen := length_sentBytes msg n r
    rw [sendLoop] at h
    split_ifs at h with hmore
    · obtain ⟨later, hlater, rfl⟩ := Option.map_eq_some_iff.mp h
      obtain ⟨used, rfl, hcount⟩ := ih hmore.le hlater
      refine ⟨r :: used, rfl, ?_⟩
      rw [List.length_append, List.count_cons]
      push_cast
      rw [hlen, hcount]
      simp only [beq_iff_eq]
      ring
    · obtain rfl := Option.some.inj h
      have hle := sentNext_le hn r
      refine ⟨[r], rfl, ?_⟩
      rw [hlen, List.count_singleton]
      simp only [beq_iff_eq]
      split_ifs <;> push_cast <;> omega

/-- What is written before the position of the next round, if that is no error. -/
theorem sentBytes_exact {msg : List UInt8} {n : ℕ} (hn : n ≤ msg.length) {r : WriteResult}
    (hr : r ≠ .error) : ∃ k : ℕ, sentNext msg n r = (n + k : ℕ) ∧ n + k ≤ msg.length ∧
      sentBytes msg n r = ((msg.drop n).take k).map some := by
  cases r with
  | wrote count =>
    refine ⟨min count (msg.length - n), ?_, by omega, ?_⟩
    · simp only [sentNext]
      omega
    · rw [← map_cell msg (by omega), sentBytes]
      congr 2
      omega
  | eintr => exact ⟨0, rfl, hn, by simp [sentBytes]⟩
  | error => exact absurd rfl hr

/-- Without an error the rest of the string is written. -/
theorem sendLoop_exact {msg : List UInt8} {n : ℕ} (hn : n ≤ msg.length)
    {results used : List WriteResult} {d : List (Option UInt8) × List WriteResult}
    (h : sendLoop msg n results = some d) (hused : results = used ++ d.2)
    (hgood : .error ∉ used) : d.1 = (msg.drop n).map some := by
  induction results generalizing n d used with
  | nil => cases h
  | cons r results ih =>
    rw [sendLoop] at h
    split_ifs at h with hmore
    · obtain ⟨later, hlater, rfl⟩ := Option.map_eq_some_iff.mp h
      obtain ⟨used', hused', -⟩ := sendLoop_length hmore.le hlater
      have hcons : r :: used' = used := by
        have happend : r :: used' ++ later.2 = used ++ later.2 := by
          rw [List.cons_append, ← hused', ← hused]
        exact List.append_cancel_right happend
      subst hcons
      have hr : r ≠ .error := fun heq => hgood (heq ▸ .head _)
      obtain ⟨k, hnext, hle, hbytes⟩ := sentBytes_exact hn hr
      rw [hnext] at hlater
      have hlast := ih hle hlater hused' (fun hin => hgood (.tail _ hin))
      simp only [hbytes, hlast]
      rw [← List.map_append, ← List.drop_drop, List.take_append_drop]
    · obtain rfl := Option.some.inj h
      have hone : [r] = used := by
        have happend : [r] ++ results = used ++ results := by
          rw [← hused, List.singleton_append]
        exact List.append_cancel_right happend
      subst hone
      have hr : r ≠ .error := fun heq => hgood (heq ▸ .head _)
      obtain ⟨k, hnext, hle, hbytes⟩ := sentBytes_exact hn hr
      rw [hnext] at hmore
      have hend : k = msg.length - n := by omega
      simp only [hbytes]
      rw [List.take_of_length_le]
      rw [List.length_drop, hend]

/-- What is sent of all messages is exactly right exactly if no write failed. -/
theorem sendAll_exact {msgs : List (List UInt8)} {results : List WriteResult}
    {d : List (Option UInt8) × List WriteResult} (h : sendAll msgs results = some d) :
    ∃ used, results = used ++ d.2 ∧ d.1.length = msgs.flatten.length + used.count .error ∧
      (.error ∉ used → d.1 = msgs.flatten.map some) := by
  induction msgs generalizing results d with
  | nil =>
    obtain rfl := Option.some.inj h
    exact ⟨[], rfl, rfl, fun _ => rfl⟩
  | cons msg msgs ih =>
    obtain ⟨first, hfirst, hrest⟩ := Option.bind_eq_some_iff.mp h
    obtain ⟨later, hlater, rfl⟩ := Option.map_eq_some_iff.mp hrest
    obtain ⟨used, hused, hcount⟩ := sendLoop_length (by omega) hfirst
    obtain ⟨used', hused', hcount', hexact⟩ := ih hlater
    refine ⟨used ++ used', ?_, ?_, ?_⟩
    · rw [hused, hused', List.append_assoc]
    · rw [List.length_append, List.count_append, List.flatten_cons, List.length_append]
      omega
    · intro hgood
      rw [List.mem_append, not_or] at hgood
      have hmsg := sendLoop_exact (n := 0) (Nat.zero_le _) hfirst hused hgood.1
      simp only [hmsg, hexact hgood.2, List.drop_zero, List.flatten_cons, List.map_append]

/-! ### Checksums -/

def Checked (sentence : List UInt8) : Prop :=
  ∃ body : List UInt8, 42 ∉ body ∧
    sentence = [36] ++ body ++ [42] ++ hexByte (body.foldl (· ^^^ ·) 0) ++ [13, 10]

theorem decimal_no_star (v : ℤ) : (42 : UInt8) ∉ decimal v := by
  obtain ⟨sign, digits, heq, hsign, -, hdigits⟩ := decimal_digits v
  rw [heq, List.mem_append, not_or]
  constructor
  · rcases hsign with rfl | rfl <;> decide
  · exact fun hin => absurd (hdigits 42 hin) (by decide)

/-- The message has a checksum, for every id that has no `*` in it and every rate. -/
theorem checked_rate {msg : List UInt8} (hmsg : 42 ∉ msg) (rate : ℤ) :
    Checked (nmeaMessageRate msg rate) := by
  have hrate := decimal_no_star rate
  let body := ascii "PUBX,40," ++ msg ++ ascii "," ++ decimal rate ++ ascii "," ++ decimal rate ++
    ascii "," ++ decimal rate ++ ascii ",0"
  have hbody : (42 : UInt8) ∉ body := by
    simp only [body, List.mem_append, not_or]
    exact ⟨⟨⟨⟨⟨⟨⟨⟨by decide, hmsg⟩, by decide⟩, hrate⟩, by decide⟩, hrate⟩, by decide⟩, hrate⟩,
      by decide⟩
  have hbuff : ascii "$PUBX,40," ++ msg ++ ascii "," ++ decimal rate ++ ascii "," ++ decimal rate ++
      ascii "," ++ decimal rate ++ ascii ",0*" = 36 :: (body ++ [42]) := by
    simp [body, ascii]
  have hcsum : gpsDevCalcNmeaCsum (36 :: (body ++ [42])) = body.foldl (· ^^^ ·) 0 := by
    have hword : (body ++ [42]).takeWhile (· != 42) = body := by
      rw [List.takeWhile_append_of_pos]
      · simp
      · intro c hc
        simpa using fun heq : c = 42 => hbody (heq ▸ hc)
    rw [gpsDevCalcNmeaCsum, List.drop_one, List.tail_cons, hword]
  refine ⟨body, hbody, ?_⟩
  rw [nmeaMessageRate, hbuff, hcsum]
  simp [ascii]

theorem length_rate (msg : List UInt8) (rate : ℤ) :
    (nmeaMessageRate msg rate).length = msg.length + 3 * (decimal rate).length + 19 := by
  have hstart : (ascii "$PUBX,40,").length = 9 := rfl
  have hcomma : (ascii ",").length = 1 := rfl
  have hend : (ascii ",0*").length = 3 := rfl
  have hline : (ascii "\r\n").length = 2 := rfl
  simp only [nmeaMessageRate, List.length_append, hexByte, List.length_cons, List.length_nil,
    hstart, hcomma, hend, hline]
  omega

/-- The device is told the rate of all sentences. Whatever the writes take at a time, it gets
the seven messages as they are exactly if no write fails; each has a valid checksum, and it
fits the buffer exactly if the rate has nine characters at most. -/
theorem set_message_rate_exact (rate : ℤ) (results : List WriteResult)
    (d : List (Option UInt8) × List WriteResult) (h : gpsDevSetMessageRate rate results = some d) :
    (∃ used, results = used ++ d.2 ∧
        (d.1 = (rateMessages rate).flatten.map some ↔ .error ∉ used)) ∧
      ∀ msg ∈ rateMessages rate, Checked msg ∧
        (msg.length + 1 ≤ 50 ↔ (decimal rate).length ≤ 9) := by
  constructor
  · obtain ⟨used, hused, hcount, hexact⟩ := sendAll_exact h
    refine ⟨used, hused, ?_, hexact⟩
    intro heq
    rw [heq, List.length_map] at hcount
    exact List.count_eq_zero.mp (by omega)
  · intro msg hmsg
    obtain ⟨id, hid, rfl⟩ := List.mem_map.mp hmsg
    have hids : ∀ id ∈ rateIds, (42 : UInt8) ∉ id ∧ id.length = 3 := by decide
    obtain ⟨hstar, hthree⟩ := hids id hid
    refine ⟨checked_rate hstar rate, ?_⟩
    rw [length_rate, hthree]
    omega

/-- Two parts, an interrupted write, and the rest at once. -/
theorem set_message_rate_exact_start :
    let results := [.wrote 10, .eintr, .wrote 100] ++ List.replicate 6 (.wrote 50)
    ∃ d, gpsDevSetMessageRate 1 results = some d ∧
      ∃ used, results = used ++ d.2 ∧
        (d.1 = (rateMessages 1).flatten.map some ↔ .error ∉ used) := by
  intro results
  have hsome : (gpsDevSetMessageRate 1 results).isSome = true := by decide +kernel
  obtain ⟨d, hd⟩ := Option.isSome_iff_exists.mp hsome
  exact ⟨d, hd, (set_message_rate_exact 1 results d hd).1⟩

/-- Behind an `EAGAIN` at the start, a byte is written that is not of the string. -/
example : (gpsDevSend (ascii "$PUBX") [.error, .wrote 50]).map (fun d => d.1.take 2) =
    some [none, some 36] := by decide +kernel

end Fw100.Gps
