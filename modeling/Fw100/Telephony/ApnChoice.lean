import Fw100.Telephony.Connection

/-!
# The choice of access points

`createAllApnList` keeps the preferred access point if it is one of the operator, which is that
of the network on a phone without a SIM. `buildWaitingApns` compares it with the operator of the
SIM alone.
-/
namespace Fw100.Telephony
open Library

def Phone.apns (phone : Phone) : List ApnSetting := builtApns phone.operator phone.carriers

/-- The stored choice among them, whatever its operator. -/
def Phone.choice (phone : Phone) (type : String) : Option ApnSetting :=
  phone.storedApn phone.apns type

def Phone.noCarriers (phone : Phone) : Bool := (phone.carriers.getD []).isEmpty

def Phone.rebuilt (phone : Phone) (t : Tracker) : Tracker :=
  { t with
    allApns := some phone.apns
    defaultApnIsReady := t.defaultApnIsReady || phone.noCarriers
    canSetPreferApn := phone.preferApn.isSome
    preferredApn := (phone.choice t.requestedApnType).filter (fun apn => apn.numeric = phone.operator) }

/-- What `createAllApnList` asks for; a choice of another operator is deleted. -/
def Phone.rebuildEffects (phone : Phone) (type : String) : List Effect :=
  [.queryCarriers phone.operator, .queryPreferApn] ++
    if (phone.choice type).any (fun apn => apn.numeric ≠ phone.operator) then [.deletePreferApn]
    else []

theorem noCarriers_eq (phone : Phone) :
    (createApnList (phone.carriers.getD [])).isEmpty = phone.noCarriers := by
  simp [createApnList, Phone.noCarriers]

/-- A choice needs the table that it is stored in. -/
theorem isSome_preferApn_of_choice {phone : Phone} {type : String} {apn : ApnSetting}
    (h : phone.choice type = some apn) : phone.preferApn.isSome = true := by
  cases hrows : phone.preferApn with
  | none => simp [Phone.choice, Phone.storedApn, hrows] at h
  | some _ => rfl

theorem getPreferredApn_eq {phone : Phone} {t : Tracker} (h : t.allApns = some phone.apns) :
    getPreferredApn phone t =
      ⟨.ok (phone.choice t.requestedApnType),
        { t with canSetPreferApn := phone.preferApn.isSome }, [.queryPreferApn]⟩ := by
  have hne : phone.apns.isEmpty = false :=
    List.isEmpty_eq_false_iff.mpr (builtApns_ne_nil phone.operator phone.carriers)
  simp [getPreferredApn, bind, Traced.environment, Traced.current, h, hne, Traced.emit,
    Traced.update, pure, Phone.choice]

/-- The list comes from the rows or is made up, and the flag is set in the second case only. -/
theorem queryApns_eq (phone : Phone) (t : Tracker) :
    queryApns phone.operator phone t =
      ⟨.ok phone.apns, { t with defaultApnIsReady := t.defaultApnIsReady || phone.noCarriers },
        [.queryCarriers phone.operator]⟩ := by
  have hrows := noCarriers_eq phone
  cases hnone : phone.noCarriers with
  | true =>
    rw [hnone] at hrows
    simp [queryApns, bind, Traced.environment, Traced.emit, createApnFromOperator, Traced.update,
      pure, hrows, Phone.apns, builtApns]
  | false =>
    rw [hnone] at hrows
    simp [queryApns, bind, Traced.environment, Traced.emit, pure, hrows, Phone.apns, builtApns]

theorem dropForeign_eq (phone : Phone) (operator : String) {preferred : Option ApnSetting}
    {t : Tracker} (hset : preferred.isSome = true → t.canSetPreferApn = true) :
    dropForeign operator preferred phone { t with preferredApn := preferred } =
      ⟨.ok (), { t with preferredApn := preferred.filter (fun apn => apn.numeric = operator) },
        if preferred.any (fun apn => apn.numeric ≠ operator) then [.deletePreferApn] else []⟩ := by
  cases preferred with
  | none => rfl
  | some apn =>
    by_cases hown : apn.numeric = operator
    · simp [dropForeign, hown, pure, Option.filter]
    · simp [dropForeign, hown, Option.filter, bind, Traced.update, setPreferredApn, Traced.current, hset rfl,
        Traced.emit, pure]

theorem createAllApnList_eq (phone : Phone) (t : Tracker) :
    createAllApnList phone t =
      ⟨.ok (), phone.rebuilt t, phone.rebuildEffects t.requestedApnType⟩ := by
  let listed : Tracker :=
    { t with allApns := some phone.apns,
             defaultApnIsReady := t.defaultApnIsReady || phone.noCarriers }
  have hchoice : getPreferredApn phone listed = _ := getPreferredApn_eq rfl
  have hset : (phone.choice t.requestedApnType).isSome = true → phone.preferApn.isSome = true := by
    intro h
    obtain ⟨apn, hapn⟩ := Option.isSome_iff_exists.mp h
    exact isSome_preferApn_of_choice hapn
  have hdrop := dropForeign_eq phone phone.operator
    (t := { listed with canSetPreferApn := phone.preferApn.isSome }) hset
  rw [createAllApnList, Traced.environment_bind, Traced.bind_eq (queryApns_eq phone t),
    Traced.update_bind, Traced.bind_eq hchoice, Traced.update_bind, hdrop]
  rfl

/-! ### The two operators -/

def Tracker.request (t : Tracker) (type : String) : Tracker := { t with requestedApnType := type }

/-- What the list building leaves preferred is what a later setup for the default type tries,
alone and without forgetting it. -/
def AgreesOnOperator (phone : Phone) (t : Tracker) : Prop :=
  let built := (createAllApnList phone t).state
  ∀ apn, built.preferredApn = some apn → built.canSetPreferApn = true →
    ∀ later : Phone, later.simOperatorNumeric = phone.simOperatorNumeric →
      buildWaitingApns later (built.request apnTypeDefault) =
        ⟨.ok [apn], built.request apnTypeDefault, []⟩

theorem setPreferredApn_delete (phone : Phone) {t : Tracker} (h : t.canSetPreferApn = true) :
    setPreferredApn (-1) phone t = ⟨.ok (), t, [.deletePreferApn]⟩ := by
  rw [setPreferredApn, Traced.current_bind, if_pos h, Traced.emit_bind]
  rfl

/-- With a preferred access point the operator of the SIM decides. -/
theorem buildWaitingApns_preferred {phone : Phone} {t : Tracker} {apn : ApnSetting}
    (htype : t.requestedApnType = apnTypeDefault) (hset : t.canSetPreferApn = true)
    (hpreferred : t.preferredApn = some apn) :
    buildWaitingApns phone t = ⟨.ok [apn], t, []⟩ ↔
      some apn.numeric = phone.simOperatorNumeric := by
  have hdun : t.requestedApnType ≠ apnTypeDun := by
    rw [htype]
    decide
  rw [buildWaitingApns, Traced.environment_bind, Traced.current_bind, if_neg hdun,
    if_pos ⟨htype, hset⟩]
  simp only [hpreferred]
  by_cases hown : some apn.numeric = phone.simOperatorNumeric
  · rw [if_pos hown]
    exact iff_of_true rfl hown
  · rw [if_neg hown, Traced.bind_eq (setPreferredApn_delete phone hset)]
    refine iff_of_false ?_ hown
    intro h
    have hevents := congrArg Result.events h
    simp at hevents

theorem preferred_apn_selected_iff (phone : Phone) (t : Tracker) :
    AgreesOnOperator phone t ↔
      phone.simOperatorNumeric ≠ none ∨
        ∀ apn, phone.choice t.requestedApnType = some apn → apn.numeric ≠ phone.networkOperator := by
  have hkept : ∀ apn, (phone.rebuilt t).preferredApn = some apn ↔
      phone.choice t.requestedApnType = some apn ∧ apn.numeric = phone.operator := by
    intro apn
    simp [Phone.rebuilt, Option.filter_eq_some_iff]
  simp only [AgreesOnOperator, createAllApnList_eq]
  constructor
  · intro h
    by_contra hnot
    simp only [ne_eq, not_or, not_not, not_forall] at hnot
    obtain ⟨hsim, apn, hchoice, hnetwork⟩ := hnot
    have hoperator : phone.operator = phone.networkOperator := by simp [Phone.operator, hsim]
    have hpreferred := (hkept apn).mpr ⟨hchoice, hnetwork.trans hoperator.symm⟩
    have hset : (phone.rebuilt t).canSetPreferApn = true := isSome_preferApn_of_choice hchoice
    have hown := (buildWaitingApns_preferred (t := (phone.rebuilt t).request apnTypeDefault)
      rfl hset hpreferred).mp (h apn hpreferred hset phone rfl)
    rw [hsim] at hown
    cases hown
  · intro h apn hpreferred hset later hlater
    obtain ⟨hchoice, hnumeric⟩ := (hkept apn).mp hpreferred
    apply (buildWaitingApns_preferred (t := (phone.rebuilt t).request apnTypeDefault)
      rfl hset hpreferred).mpr
    rw [hlater]
    cases hsim : phone.simOperatorNumeric with
    | some operator => simp [hnumeric, Phone.operator, hsim]
    | none =>
      have hnetwork : apn.numeric = phone.networkOperator := by
        simpa [Phone.operator, hsim] using hnumeric
      rcases h with hne | hforeign
      · exact absurd hsim hne
      · exact absurd hnetwork (hforeign apn hchoice)

/-- Without a SIM the made-up access point is chosen and then forgotten. -/
theorem preferred_apn_selected_simless :
    let phone := Phone.simless "310004" none (some [1])
    let built := (createAllApnList phone .created).state
    ¬ AgreesOnOperator phone .created ∧ built.preferredApn = some verizonApn ∧
      (buildWaitingApns phone built).state.preferredApn = none ∧
      (buildWaitingApns phone built).events = [.deletePreferApn] := by
  intro phone built
  refine ⟨?_, by decide +kernel, by decide +kernel, by decide +kernel⟩
  intro h
  have hbuild := h verizonApn (by decide +kernel) (by decide +kernel) phone rfl
  have hevents : (buildWaitingApns phone (built.request apnTypeDefault)).events ≠ [] := by
    decide +kernel
  exact hevents (congrArg Result.events hbuild)

end Fw100.Telephony
