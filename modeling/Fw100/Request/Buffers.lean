import Fw100.Request.Dispatch

/-!
# The strings that are built in fixed arrays

Four functions build a string in an array on their stack from tokens of the modem, from the
request or from system properties. Each of them stays inside its array under a condition on the
lengths of what it is given.
-/
namespace Fw100.Request
open Library Text Channel Session

variable {env : Environment} {s : RequestState}

def FixedBuffer.isBuilt : FixedBuffer → Bool
  | .mccmnc => true
  | .imsiResponse => true
  | .smsPdu => true
  | .smsLog => true
  | .dnsList => true
  | .pppdCommand => false
  | .dns => false
  | .meid => false
  | .displayOptname => false

def Event.overbuilt : Event → Option FixedBuffer
  | .overrun buffer => if buffer.isBuilt then some buffer else none
  | _ => none

/-- The part ends without a fault and every string it builds fits its array. -/
def StaysWithin {α : Type} (env : Environment) (s : RequestState) (m : RilM α) : Prop :=
  Traced.Ends env s m (fun _ _ es => es.filterMap Event.overbuilt = [])

/-! ### Parts of a function -/

theorem overbuilt_of_mark {e : Event} (h : ∀ buffer, e.mark ≠ some (.overran buffer)) :
    e.overbuilt = none := by
  cases e with
  | overrun buffer => exact absurd rfl (h buffer)
  | _ => rfl

/-- Marks without an overrun leave nothing to complain about. -/
theorem overbuilt_of_marks {es : List Event}
    (h : ∀ buffer, Mark.overran buffer ∉ es.filterMap Event.mark) :
    es.filterMap Event.overbuilt = [] := by
  rw [List.filterMap_eq_nil_iff]
  intro e he
  apply overbuilt_of_mark
  exact fun buffer hmark => h buffer (List.mem_filterMap.mpr ⟨e, he, hmark⟩)

theorem StaysWithin.of_quiet {α : Type} {m : RilM α} {R : α → RequestState → Prop}
    (h : ShowsAt env s [] m R) : StaysWithin env s m :=
  h.mono (fun _ _ _ hm => overbuilt_of_marks (by simp [hm.1]))

theorem StaysWithin.of_completed {t : Token} {m : RilM Unit} {R : Unit → RequestState → Prop}
    (h : ShowsAt env s [.completed t] m R) : StaysWithin env s m :=
  h.mono (fun _ _ _ hm => overbuilt_of_marks (by simp [hm.1]))

/-- The first part has to stay within its arrays for the whole to do so. -/
theorem StaysWithin.left {α β : Type} {m : RilM β} {f : β → RilM α}
    (h : StaysWithin env s (m >>= f)) : StaysWithin env s m := by
  rw [StaysWithin, Traced.ends_bind] at h
  apply h.mono
  rintro b s' es ⟨_, -, hes⟩
  rw [List.filterMap_append, List.append_eq_nil_iff] at hes
  exact hes.1

theorem staysWithin_quiet_bind {α β : Type} {m : RilM β} {S : β → RequestState → Prop}
    (hm : ShowsAt env s [] m S) :
    ∃ b s', S b s' ∧ ∀ f : β → RilM α, StaysWithin env s (m >>= f) ↔ StaysWithin env s' (f b) := by
  rcases hm with ⟨b, hvalue, hes, hS⟩
  refine ⟨b, (m env s).state, hS, fun f => ?_⟩
  have hquiet : (m env s).events.filterMap Event.overbuilt = [] := overbuilt_of_marks (by simp [hes])
  rw [StaysWithin, Traced.ends_bind, Traced.ends_of_value hvalue]
  simp only [List.filterMap_append, hquiet, List.nil_append]
  rfl

theorem staysWithin_bind_of_eq {α β : Type} {m : RilM β} {f : β → RilM α} {b : β}
    {s' : RequestState} {es : List Event} (h : m env s = ⟨.ok b, s', es⟩)
    (hes : es.filterMap Event.overbuilt = []) :
    StaysWithin env s (m >>= f) ↔ StaysWithin env s' (f b) := by
  rw [StaysWithin, Traced.ends_bind, Traced.ends_of_eq h]
  simp only [List.filterMap_append, hes, List.nil_append]
  rfl

theorem staysWithin_query_bind {α : Type} {failed : ℤ → Bool} (hf : TestsZero failed)
    {command responsePrefix : CString} {p : Pointer} {f : Pointer × Option CString → RilM α} :
    StaysWithin env s (queryLine failed command responsePrefix p >>= f) ↔
      StaysWithin env { s with sent := s.sent + 1 }
        (f (p.store s.sent (checked (.singleline command responsePrefix true)
          (env.replies s.sent)).2, replyLine command responsePrefix (env.replies s.sent))) := by
  exact ends_query_bind_seen ⟨fun _ => rfl, fun _ => rfl⟩ hf (Q := fun _ _ seen => seen = [])

theorem staysWithin_store_bind {α : Type} {buffer : FixedBuffer} (hbuilt : buffer.isBuilt = true)
    {size : ℕ} {text : CString} {f : Unit → RilM α} :
    StaysWithin env s (storeString buffer size text >>= f) ↔
      text.length < size ∧ StaysWithin env s (f ()) := by
  rw [StaysWithin, Traced.ends_bind, ends_storeString]
  by_cases hfits : text.length < size
  · simp [hfits, StaysWithin]
  · simp only [hfits, if_false, false_and, iff_false]
    rintro ⟨_, -, hes⟩
    simp [Event.overbuilt, hbuilt] at hes

theorem staysWithin_other_store_bind {α : Type} {buffer : FixedBuffer}
    (hother : buffer.isBuilt = false) {size : ℕ} {text : CString} {f : Unit → RilM α} :
    StaysWithin env s (storeString buffer size text >>= f) ↔ StaysWithin env s (f ()) := by
  rw [StaysWithin, Traced.ends_bind, ends_storeString]
  have hsilent : (if text.length < size then [] else [Event.overrun buffer]).filterMap
      Event.overbuilt = [] := by
    split <;> simp [Event.overbuilt, hother]
  simp only [List.filterMap_append, hsilent, List.nil_append]
  rfl

/-! ### The four functions -/

theorem staysWithin_getNetworkInfo_iff :
    StaysWithin env s getNetworkInfo ↔ MccmncFits env s.sent := by
  constructor
  · intro hwithin mcc cur hreply
    rw [getNetworkInfo, staysWithin_query_bind testsZero_isNonzero] at hwithin
    dsimp only at hwithin
    rw [← vmccmncReply, hreply] at hwithin
    dsimp only at hwithin
    rw [staysWithin_bind_of_eq rfl rfl] at hwithin
    cases hmnc : mncText env cur with
    | none =>
      simp only [hmnc] at hwithin
      exact absurd hwithin Traced.ends_fault
    | some mnc =>
      simp only [hmnc] at hwithin
      rw [staysWithin_store_bind rfl] at hwithin
      exact ⟨mnc, rfl, hwithin.1⟩
  · exact fun hfits => .of_quiet (showsAt_getNetworkInfo hfits)

theorem staysWithin_requestGetIMSI_iff (t : Token) :
    StaysWithin env s (requestGetIMSI t) ↔ MccmncFits env s.sent ∧ ImsiFits env s.sent := by
  constructor
  · intro hwithin
    have hfits : MccmncFits env s.sent := staysWithin_getNetworkInfo_iff.mp hwithin.left
    refine ⟨hfits, ?_⟩
    rintro info m meid hlookup hmeid
    rw [requestGetIMSI] at hwithin
    obtain ⟨found, s', heq, hbind⟩ := staysWithin_quiet_bind (α := Unit) (showsAt_getNetworkInfo hfits)
    rw [hbind] at hwithin
    obtain ⟨rfl, rfl⟩ : found = some info ∧ s'.sent = m := by simpa [hlookup] using heq
    dsimp only at hwithin
    rw [staysWithin_query_bind testsZero_isNonzero] at hwithin
    dsimp only at hwithin
    rw [hmeid] at hwithin
    dsimp only at hwithin
    rw [staysWithin_bind_of_eq rfl rfl, staysWithin_store_bind rfl] at hwithin
    exact hwithin.1
  · intro hfits
    exact .of_completed ((showsAt_requestGetIMSI_iff t).mpr hfits)

theorem smsLogText_length (smsc : Option CString) {pdu : CString} (hpdu : pdu ≠ []) :
    (smsLogText smsc pdu (terminatePdu pdu)).length =
      (smsc.getD (ascii "00")).length + pdu.length + 29 := by
  have hbody : (terminatePdu pdu).length = pdu.length := by
    have hpos : 0 < pdu.length := List.length_pos_iff.mpr hpdu
    unfold terminatePdu
    split
    · rfl
    · simp only [List.length_append, List.length_dropLast, List.length_singleton]
      omega
  have hflag : ∀ p : Prop, [Decidable p] → ∀ a b : CString, a.length = b.length →
      (if p then a else b).length = a.length := by
    intro p _ a b hab
    split
    · rfl
    · exact hab.symm
  simp only [smsLogText, List.length_append, hbody, hflag _ (ascii "0") (ascii "1") rfl,
    hflag _ (ascii "1") (ascii "0") rfl]
  have h1 : (ascii "smsc=").length = 5 := rfl
  have h2 : (ascii " pdu=").length = 5 := rfl
  have h3 : (ascii " ctrlz=").length = 7 := rfl
  have h4 : (ascii " nulsmsc=").length = 9 := rfl
  have h5 : (ascii "\n").length = 1 := rfl
  have h6 : (ascii "0").length = 1 := rfl
  have h7 : (ascii "1").length = 1 := rfl
  omega

theorem staysWithin_requestSendSMSEVDO_iff (smsc : Option CString) (pdu : CString) (t : Token) :
    StaysWithin env s (requestSendSMSEVDO (some ⟨smsc, some pdu⟩) t) ↔
      pdu ≠ [] ∧ (smsc.getD (ascii "00")).length + pdu.length + 29 < 128 := by
  constructor
  · intro hwithin
    rw [requestSendSMSEVDO, staysWithin_bind_of_eq (atSendCommandNull_eq env _ s) rfl, deref_bind,
      deref_bind] at hwithin
    have hpdu : pdu ≠ [] := by
      rintro rfl
      obtain ⟨_, -, hes⟩ := hwithin.left
      cases hes
    refine ⟨hpdu, ?_⟩
    have hpure : storeTerminator pdu = pure (terminatePdu pdu) := if_neg hpdu
    rw [hpure, staysWithin_bind_of_eq rfl rfl, staysWithin_store_bind rfl] at hwithin
    rw [← smsLogText_length smsc hpdu]
    exact hwithin.1
  · rintro ⟨hpdu, hshort⟩
    rw [← smsLogText_length smsc hpdu] at hshort
    exact .of_completed ((showsAt_requestSendSMSEVDO_iff _ t).mpr ⟨_, rfl, pdu, rfl, hpdu, hshort⟩)

theorem staysWithin_requestSetupDataCallEVDO_iff (t : Token) :
    StaysWithin env s (requestSetupDataCallEVDO t) ↔
      (0 ≤ env.systemResult → (pollPppLinkstate env 30).isSome = true →
        env.dns1.length + 1 + env.dns2.length < 128) := by
  have hdone : ∀ s e data, StaysWithin env s (complete t e data) := fun s e data =>
    .of_completed (completes_complete t e data s)
  have hlist : (dnsListText env).length = env.dns1.length + 1 + env.dns2.length := by
    simp only [dnsListText, List.length_append]
    rfl
  rw [requestSetupDataCallEVDO, staysWithin_bind_of_eq rfl rfl, staysWithin_bind_of_eq rfl rfl,
    staysWithin_other_store_bind rfl, staysWithin_bind_of_eq rfl rfl]
  split
  · next hsys => exact iff_of_true (hdone _ _ _) (fun h => by omega)
  · next hsys =>
    cases hpoll : pollPppLinkstate env 30 with
    | none => exact iff_of_true (hdone _ _ _) (by simp)
    | some link =>
      dsimp only
      rw [staysWithin_bind_of_eq rfl rfl, staysWithin_other_store_bind rfl,
        staysWithin_other_store_bind rfl, staysWithin_store_bind rfl, staysWithin_bind_of_eq rfl rfl,
        hlist]
      simp [hdone, not_lt.mp hsys]

/-- A call of one of the four functions, with the payload that the request brings. -/
inductive BufferWriter where
  | getNetworkInfo
  | requestGetIMSI (t : Token)
  | requestSendSMSEVDO (smsc : Option CString) (pdu : CString) (t : Token)
  | requestSetupDataCallEVDO (t : Token)
deriving DecidableEq, Repr

def BufferWriter.StaysWithin (env : Environment) (s : RequestState) : BufferWriter → Prop
  | .getNetworkInfo => Request.StaysWithin env s Request.getNetworkInfo
  | .requestGetIMSI t => Request.StaysWithin env s (Request.requestGetIMSI t)
  | .requestSendSMSEVDO smsc pdu t =>
    Request.StaysWithin env s (Request.requestSendSMSEVDO (some ⟨smsc, some pdu⟩) t)
  | .requestSetupDataCallEVDO t => Request.StaysWithin env s (Request.requestSetupDataCallEVDO t)

/-- What is given to the function is short enough for its array. -/
def BufferWriter.Short (env : Environment) (s : RequestState) : BufferWriter → Prop
  | .getNetworkInfo => MccmncFits env s.sent
  | .requestGetIMSI _ => MccmncFits env s.sent ∧ ImsiFits env s.sent
  | .requestSendSMSEVDO smsc pdu _ =>
    pdu ≠ [] ∧ (smsc.getD (ascii "00")).length + pdu.length + 29 < 128
  | .requestSetupDataCallEVDO _ =>
    0 ≤ env.systemResult → (pollPppLinkstate env 30).isSome = true →
      env.dns1.length + 1 + env.dns2.length < 128

/-- For every reply, payload and property value: the strings fit their arrays exactly if what
they are built from is short enough. -/
theorem built_strings_fit_iff (env : Environment) (s : RequestState) (writer : BufferWriter) :
    writer.StaysWithin env s ↔ writer.Short env s := by
  cases writer with
  | getNetworkInfo => exact staysWithin_getNetworkInfo_iff
  | requestGetIMSI t => exact staysWithin_requestGetIMSI_iff t
  | requestSendSMSEVDO smsc pdu t => exact staysWithin_requestSendSMSEVDO_iff smsc pdu t
  | requestSetupDataCallEVDO t => exact staysWithin_requestSetupDataCallEVDO_iff t

/-- A message of a hundred characters is longer than the array of its log line. -/
theorem built_strings_overrun :
    ¬ (BufferWriter.requestSendSMSEVDO none (List.replicate 100 48) 7).StaysWithin .terse
      ⟨initSessionContext none 0, 0⟩ := by
  rintro ⟨_, -, hes⟩
  exact absurd hes (by decide +kernel)

end Fw100.Request
