import Fw100.Request.Contract

/-!
# The operator

`getNetworkInfo` and the three requests that report what it finds. Two local arrays decide whether
they reach their completion: the search string and the identity that is built from it.
-/
namespace Fw100.Request
open Library Text Channel Session

variable {env : Environment}

def operatorInfo : List (CString × CString × CString) :=
  [(ascii "310000", ascii "Verizon Wireless", ascii "VZW"),
    (ascii "310004", ascii "Verizon Wireless", ascii "VZW"),
    (ascii "310005", ascii "Verizon Wireless", ascii "VZW"),
    (ascii "310012", ascii "Verizon Wireless", ascii "VZW")]

/-- The `response` array that `getNetworkInfo` fills in. Without a literal the numeric code is
a pointer into the function's own frame. -/
structure NetworkInfo where
  longName : CString
  shortName : CString
  numeric : Option CString
deriving DecidableEq, Repr

/-- The names behind `done` that the answer to `AT$QCMIPGETP=0` decides. -/
def carrierOf (line : CString) : NetworkInfo :=
  if strstr line (ascii "sprint") then ⟨ascii "Sprint PCS", ascii "SPCS", some (ascii "310120")⟩
  else if strstr line (ascii "vzw") then
    ⟨ascii "Verizon Wireless", ascii "VZW", some (ascii "310004")⟩
  else ⟨ascii "Unknown Operator", ascii "UNK", some (ascii "000000")⟩

/-- The tokens of a `+VMCCMNC:` line up to the country code. -/
def vmccmncFields (line : CString) : Option (CString × Cursor) := do
  let cur ← tokStart line
  let (_, cur) ← tokInt cur
  tokStr cur

/-- The network code. Its error is not tested, so a missing token leaves `mnctoken` as it was. -/
def mncText (env : Environment) (cur : Cursor) : Option CString :=
  match tokStr cur with
  | some (mnc, _) => some mnc
  | none => env.mnctoken

def networkDone (p p2 : Pointer) (info : NetworkInfo) : RilM (Option NetworkInfo) := do
  modifyCtx (fun ctx => { ctx with carrier := .copy 16 info.shortName })
  atResponseFree p
  atResponseFree p2
  let ctx ← getCtx
  Traced.emit (.wroteStatus (rilWriteStatus ctx))
  pure (some info)

def networkError (p p2 : Pointer) : RilM (Option NetworkInfo) := do
  atResponseFree p
  atResponseFree p2
  pure none

/-- The table search and, without a match, the second query. -/
def searchOperator (p : Pointer) (mccmnc : CString) : RilM (Option NetworkInfo) :=
  match operatorInfo.find? (fun entry => entry.1 == mccmnc) with
  | some (_, longName, shortName) => networkDone p none ⟨longName, shortName, none⟩
  | none => do
    let (p2, line) ← queryLine isNonzero (ascii "AT$QCMIPGETP=0") [] none
    match line with
    | none => networkError p p2
    | some line => networkDone p p2 (carrierOf line)

def getNetworkInfo : RilM (Option NetworkInfo) := do
  let (p, line) ← queryLine isNonzero (ascii "AT+VMCCMNC?") (ascii "+VMCCMNC:") none
  match line.bind vmccmncFields with
  | none => networkError p none
  | some (mcc, cur) =>
    let env ← Traced.environment
    match mncText env cur with
    | none => Traced.fault .wildPointer
    | some mnc =>
      storeString .mccmnc 32 (mcc ++ mnc)
      searchOperator p (mcc ++ mnc)

/-- The codes that the answer to the first query carries. -/
def vmccmncReply (env : Environment) (n : ℕ) : Option (CString × Cursor) :=
  (replyLine (ascii "AT+VMCCMNC?") (ascii "+VMCCMNC:") (env.replies n)).bind vmccmncFields

/-- An answer with a country code has a network code that can be read, and both fit
`mccmnc[32]`. -/
def MccmncFits (env : Environment) (n : ℕ) : Prop :=
  ∀ mcc cur, vmccmncReply env n = some (mcc, cur) →
    ∃ mnc, mncText env cur = some mnc ∧ (mcc ++ mnc).length < 32

/-- The result that the replies from number `n` on determine, and the number of the next. -/
def networkLookup (env : Environment) (n : ℕ) : Option NetworkInfo × ℕ :=
  match vmccmncReply env n with
  | none => (none, n + 1)
  | some (mcc, cur) =>
    match operatorInfo.find? (fun entry => entry.1 == mcc ++ (mncText env cur).getD []) with
    | some (_, longName, shortName) => (some ⟨longName, shortName, none⟩, n + 1)
    | none => ((replyLine (ascii "AT$QCMIPGETP=0") [] (env.replies (n + 1))).map carrierOf, n + 2)

section NetworkInfo
variable {s : RequestState}

theorem showsAt_atResponseFree (p : Pointer) :
    ShowsAt env s [] (atResponseFree p) (fun _ s' => s' = s) := by
  cases p with
  | none => exact Traced.ends_pure.mpr ⟨rfl, rfl⟩
  | some held => exact Traced.ends_emit.mpr ⟨rfl, rfl⟩

theorem showsAt_networkError (p p2 : Pointer) :
    ShowsAt env s [] (networkError p p2) (fun info s' => info = none ∧ s'.sent = s.sent) := by
  apply ShowsAt.silent_bind (showsAt_atResponseFree p)
  rintro - _ rfl
  apply ShowsAt.silent_bind (showsAt_atResponseFree p2)
  rintro - _ rfl
  exact Traced.ends_pure.mpr ⟨rfl, rfl, rfl⟩

theorem showsAt_networkDone (p p2 : Pointer) (info : NetworkInfo) :
    ShowsAt env s [] (networkDone p p2 info)
      (fun found s' => found = some info ∧ s'.sent = s.sent) := by
  refine .silent_bind (S := fun _ s' => s'.sent = s.sent)
    (Traced.ends_update.mpr ⟨rfl, rfl⟩) ?_
  rintro - s' hs'
  apply ShowsAt.silent_bind (showsAt_atResponseFree p)
  rintro - _ rfl
  apply ShowsAt.silent_bind (showsAt_atResponseFree p2)
  rintro - _ rfl
  simp [ShowsAt, getCtx, Event.mark, hs']

theorem showsAt_searchOperator (p : Pointer) (mccmnc : CString) :
    ShowsAt env s [] (searchOperator p mccmnc) (fun found s' =>
      (found, s'.sent) =
        match operatorInfo.find? (fun entry => entry.1 == mccmnc) with
        | some (_, longName, shortName) => (some ⟨longName, shortName, none⟩, s.sent)
        | none => ((replyLine (ascii "AT$QCMIPGETP=0") [] (env.replies s.sent)).map carrierOf,
            s.sent + 1)) := by
  unfold searchOperator
  split
  · next entry longName shortName hfind =>
    apply Traced.Ends.mono (showsAt_networkDone p none _)
    rintro found s' es ⟨hes, rfl, hs'⟩
    exact ⟨hes, Prod.ext rfl hs'⟩
  · next hfind =>
    rw [ShowsAt.query_bind testsZero_isNonzero]
    dsimp only
    cases hline : replyLine (ascii "AT$QCMIPGETP=0") [] (env.replies s.sent) with
    | none =>
      apply Traced.Ends.mono (showsAt_networkError p _)
      rintro found s' es ⟨hes, rfl, hs'⟩
      exact ⟨hes, Prod.ext rfl hs'⟩
    | some line =>
      apply Traced.Ends.mono (showsAt_networkDone p _ _)
      rintro found s' es ⟨hes, rfl, hs'⟩
      exact ⟨hes, Prod.ext rfl hs'⟩

/-- With codes that fit, the function does what the replies determine. -/
theorem showsAt_getNetworkInfo (h : MccmncFits env s.sent) :
    ShowsAt env s [] getNetworkInfo
      (fun found s' => (found, s'.sent) = networkLookup env s.sent) := by
  unfold getNetworkInfo
  rw [ShowsAt.query_bind testsZero_isNonzero]
  dsimp only
  rw [← vmccmncReply]
  unfold networkLookup
  cases hreply : vmccmncReply env s.sent with
  | none =>
    apply Traced.Ends.mono (showsAt_networkError _ none)
    rintro found s' es ⟨hes, rfl, hs'⟩
    exact ⟨hes, Prod.ext rfl hs'⟩
  | some codes =>
    rcases codes with ⟨mcc, cur⟩
    rcases h mcc cur hreply with ⟨mnc, hmnc, hfits⟩
    rw [ShowsAt.environment_bind]
    simp only [hmnc]
    rw [ShowsAt.fitting_bind hfits]
    exact showsAt_searchOperator _ _

/-- With codes that do not fit nothing can follow that would mend it. -/
theorem not_showsAt_getNetworkInfo (h : ¬ MccmncFits env s.sent) {α : Type}
    (f : Option NetworkInfo → RilM α) (t : Token) (R : α → RequestState → Prop) :
    ¬ ShowsAt env s [.completed t] (getNetworkInfo >>= f) R := by
  obtain ⟨mcc, cur, hreply, hbad⟩ : ∃ mcc cur, vmccmncReply env s.sent = some (mcc, cur) ∧
      ∀ mnc, mncText env cur = some mnc → 32 ≤ (mcc ++ mnc).length := by
    simpa [MccmncFits] using h
  intro hshows
  have hclean : Traced.Ends env s getNetworkInfo
      (fun _ _ es => .overran .mccmnc ∉ es.filterMap Event.mark) := by
    rw [ShowsAt, Traced.ends_bind] at hshows
    apply hshows.mono
    rintro _ _ es ⟨_, -, hmarks, -⟩ hmem
    rw [List.filterMap_append] at hmarks
    have := hmarks ▸ List.mem_append_left _ hmem
    simp at this
  unfold getNetworkInfo at hclean
  rw [ends_query_bind testsZero_isNonzero] at hclean
  dsimp only at hclean
  rw [← vmccmncReply, hreply] at hclean
  dsimp only at hclean
  rw [Traced.ends_bind, Traced.ends_environment] at hclean
  cases hmnc : mncText env cur with
  | none =>
    simp only [hmnc] at hclean
    exact Traced.ends_fault hclean
  | some mnc =>
    have hlong : ¬ (mcc ++ mnc).length < 32 := Nat.not_lt.mpr (hbad mnc hmnc)
    simp only [hmnc, storeString, if_neg hlong, Traced.ends_bind, Traced.ends_emit] at hclean
    rcases hclean with ⟨_, -, hnot⟩
    exact hnot (List.mem_filterMap.mpr ⟨.overrun .mccmnc, by simp, rfl⟩)

end NetworkInfo

/-- The numeric code that a caller of `getNetworkInfo` reads. -/
def NetworkInfo.readNumeric (info : NetworkInfo) (env : Environment) : CString :=
  info.numeric.getD env.deadMccmnc

def requestOperator (t : Token) : RilM Unit := do
  let info ← getNetworkInfo
  match info with
  | none => complete t .genericFailure .null
  | some info =>
    let env ← Traced.environment
    storeString .displayOptname 20 env.displayOptname
    complete t .success
      (.strings [some info.longName, some info.shortName, some (info.readNumeric env)])

/-- A request that only reports what `getNetworkInfo` found. -/
theorem showsAt_reportNetwork_iff {s : RequestState} {t : Token} {f : Option NetworkInfo → RilM Unit}
    (hf : ∀ info, Completes env t (f info)) :
    ShowsAt env s [.completed t] (getNetworkInfo >>= f) (fun _ _ => True) ↔
      MccmncFits env s.sent := by
  constructor
  · intro h
    by_contra hfits
    exact not_showsAt_getNetworkInfo hfits f t _ h
  · intro hfits
    exact .silent_bind (showsAt_getNetworkInfo hfits) (fun info s' _ => hf info s')

/-- The property that is read once a network was found fits `display_optname[20]`. -/
def OptnameFits (env : Environment) (n : ℕ) : Prop :=
  (networkLookup env n).1.isSome = true → env.displayOptname.length < 20

theorem showsAt_requestOperator_iff {s : RequestState} (t : Token) :
    ShowsAt env s [.completed t] (requestOperator t) (fun _ _ => True) ↔
      MccmncFits env s.sent ∧ OptnameFits env s.sent := by
  unfold requestOperator OptnameFits
  by_cases hfits : MccmncFits env s.sent
  · obtain ⟨info, s', heq, hbind⟩ :=
      ShowsAt.silent_bind_iff (α := Unit) (showsAt_getNetworkInfo hfits)
    rw [hbind, ← heq]
    simp only [hfits, true_and]
    cases info with
    | none => exact iff_of_true (completes_complete _ _ _ s') (by simp)
    | some info =>
      have hdone : ∀ s data, ShowsAt env s [.completed t] (complete t .success data)
          (fun _ _ => True) := fun s data => completes_complete _ _ data s
      rw [ShowsAt.environment_bind, ShowsAt.store_bind]
      simp [hdone]
  · simp only [hfits, false_and, iff_false]
    exact not_showsAt_getNetworkInfo hfits _ t _

def requestQueryAvailableNetworks (t : Token) : RilM Unit := do
  let info ← getNetworkInfo
  match info with
  | none => complete t .genericFailure .null
  | some info =>
    let env ← Traced.environment
    complete t .success (.strings [some info.longName, some info.shortName,
      some (info.readNumeric env), some (ascii "available")])

theorem showsAt_requestQueryAvailableNetworks_iff {s : RequestState} (t : Token) :
    ShowsAt env s [.completed t] (requestQueryAvailableNetworks t) (fun _ _ => True) ↔
      MccmncFits env s.sent := by
  refine showsAt_reportNetwork_iff (fun info => ?_)
  cases info with
  | none => exact completes_complete _ _ _
  | some info => exact .silent_bind .environment (fun _ _ => completes_complete _ _ _)

def meidField (line : CString) : Option CString := do
  let cur ← tokStart line
  let (meid, _) ← tokStr cur
  pure meid

/-- `strncpy` and `strncat` into `responseStr[64]`. -/
def imsiText (numeric meid : CString) : CString :=
  numeric.take 64 ++ (strToUpper (trimHexMark meid)).take 64

def requestGetIMSI (t : Token) : RilM Unit := do
  let info ← getNetworkInfo
  match info with
  | none => completeThenFree t .genericFailure .null none
  | some info =>
    let (p, line) ← queryLine isNonzero (ascii "AT^MEID") (ascii "^MEID:") none
    match line.bind meidField with
    | none => completeThenFree t .genericFailure .null p
    | some meid =>
      let env ← Traced.environment
      storeString .imsiResponse 64 (imsiText (info.readNumeric env) meid)
      completeThenFree t .success (.string (imsiText (info.readNumeric env) meid)) p

/-- The identity that follows a network that was found fits `responseStr[64]`. -/
def ImsiFits (env : Environment) (n : ℕ) : Prop :=
  ∀ info m meid, networkLookup env n = (some info, m) →
    (replyLine (ascii "AT^MEID") (ascii "^MEID:") (env.replies m)).bind meidField = some meid →
    (imsiText (info.readNumeric env) meid).length < 64

theorem showsAt_requestGetIMSI_iff {s : RequestState} (t : Token) :
    ShowsAt env s [.completed t] (requestGetIMSI t) (fun _ _ => True) ↔
      MccmncFits env s.sent ∧ ImsiFits env s.sent := by
  unfold requestGetIMSI
  by_cases hfits : MccmncFits env s.sent
  · obtain ⟨info, s', heq, hbind⟩ :=
      ShowsAt.silent_bind_iff (α := Unit) (showsAt_getNetworkInfo hfits)
    rw [hbind]
    simp only [hfits, true_and]
    cases info with
    | none =>
      apply iff_of_true (completes_completeThenFree _ _ _ _ s')
      rintro info m meid hlookup
      simp [← heq] at hlookup
    | some info =>
      rw [ShowsAt.query_bind testsZero_isNonzero]
      have himsi : ImsiFits env s.sent ↔ ∀ meid,
          (replyLine (ascii "AT^MEID") (ascii "^MEID:") (env.replies s'.sent)).bind meidField =
            some meid → (imsiText (info.readNumeric env) meid).length < 64 := by
        constructor
        · exact fun h meid hmeid => h info s'.sent meid heq.symm hmeid
        · rintro h found m meid hlookup hmeid
          obtain ⟨rfl, rfl⟩ : info = found ∧ s'.sent = m := by simpa [← heq] using hlookup
          exact h meid hmeid
      rw [himsi]
      dsimp only
      cases hmeid : (replyLine (ascii "AT^MEID") (ascii "^MEID:")
          (env.replies s'.sent)).bind meidField with
      | none => exact iff_of_true (completes_completeThenFree _ _ _ _ _) (by simp)
      | some meid =>
        dsimp only
        rw [ShowsAt.environment_bind, ShowsAt.store_bind]
        have hdone : ∀ s p, ShowsAt env s [.completed t] (completeThenFree t .success
            (.string (imsiText (info.readNumeric env) meid)) p) (fun _ _ => True) :=
          fun s p => completes_completeThenFree _ _ _ p s
        simp [hdone]
  · simp only [hfits, false_and, iff_false]
    exact not_showsAt_getNetworkInfo hfits _ t _

end Fw100.Request
