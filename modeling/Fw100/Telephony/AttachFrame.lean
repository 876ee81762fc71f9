import Fw100.Telephony.Scan

/-!
# The frame of the forced build

Attaching with the forced build is compared with `onGprsAttached` alone on a tracker that has
the rebuilt list and is otherwise as it was. The build may change the list and the preferred
access point and queue one setup, and nothing else.
-/
namespace Fw100.Telephony
open Library
open Traced (emit environment current update fault)

/-- A look at a table of the content provider changes nothing outside. -/
def Effect.isRead : Effect → Bool
  | .queryCarriers _ | .queryPreferApn => true
  | _ => false

/-- What the outside notices of the effects. -/
def asked (es : List Effect) : List Effect := es.filter (fun e => !e.isRead)

theorem asked_append (es es' : List Effect) : asked (es ++ es') = asked es ++ asked es' :=
  List.filter_append _ _

def Tracker.listed (phone : Phone) (t : Tracker) : Tracker :=
  if t.defaultApnIsReady then t
  else { t with allApns := (createAllApnList phone t).state.allApns }

def attachAlone (phone : Phone) (t : Tracker) : Result Effect Fault Tracker Unit :=
  onGprsAttached phone (t.listed phone)

/-- The setup that a forced build queues. -/
def Tracker.queuedSetup (t : Tracker) : List Effect :=
  if t.defaultApnIsReady then [] else [.sendTrySetup (some .simLoaded) false]

/-- Attaching does what `onGprsAttached` alone does with the rebuilt list, and nothing else but
to store the list and the preferred access point and to queue one setup. -/
structure Undisturbed (phone : Phone) (t : Tracker) : Prop where
  value : (handleMessage .gprsAttached phone t).value = (attachAlone phone t).value
  state : (handleMessage .gprsAttached phone t).state =
    { (attachAlone phone t).state with
      allApns := (handleMessage .gprsAttached phone t).state.allApns
      preferredApn := (handleMessage .gprsAttached phone t).state.preferredApn }
  events : (asked (handleMessage .gprsAttached phone t).events).Perm
    (t.queuedSetup ++ asked (attachAlone phone t).events)

/-! ### What the preferred access point is used for -/

def Tracker.prefer (t : Tracker) (preferred : Option ApnSetting) : Tracker :=
  { t with preferredApn := preferred }

def deletion (b : Bool) : List Effect := if b then [.deletePreferApn] else []

/-- An idle tracker builds its list to try now. -/
def Phone.startsSetup (phone : Phone) (t : Tracker) : Bool :=
  !phone.simulatedRadio && decide (t.state = .idle) && phone.isReady t

/-- `setupFirst` behind the building of the list. -/
def setupList (reason : Option Reason) (waiting : List ApnSetting) : Handler Bool := do
  update (fun t => { t with waitingApns := some waiting,
                            waitingApnsPermanentFailureCountDown := waiting.length })
  if waiting.isEmpty then
    notifyNoData
    pure false
  else setupWaiting reason

/-- `onGprsAttached` where no list is built. -/
def attachElse : Handler Unit := do
  let phone ← environment
  let t ← current
  if t.state = .connected then
    startNetStatPoll
    emit (.notifyDataConnection (some .gprsAttached))
  else if phone.simulatedRadio then
    setState .connected
    emit (.notifyDataConnection (some .gprsAttached))
  else if t.state = .scanning ∧ phone.isReady t = true then
    let _ ← setupWaiting (some .gprsAttached)
    pure ()
  else pure ()

section Blind
variable {phone : Phone} {preferred : Option ApnSetting}

abbrev Blind (phone : Phone) (preferred : Option ApnSetting) {α : Type} (m : Handler α) : Prop :=
  Traced.Commutes phone (fun t => t.prefer preferred) m

theorem blind_setState (s : State) : Blind phone preferred (setState s) := .update (fun _ => rfl)

theorem blind_setupWaiting (reason : Option Reason) :
    Blind phone preferred (setupWaiting reason) := by
  have hfree : Blind phone preferred findFreePdp :=
    .bind .environment (fun _ => .current_bind (fun _ => rfl) (fun _ => .pure))
  have hconnect : ∀ apn, Blind phone preferred (connectApn apn reason) := fun _ =>
    .bind (.update (fun _ => rfl)) (fun _ => .bind .emit (fun _ => .bind (blind_setState _) (fun _ =>
      .bind .emit (fun _ => .pure))))
  refine .current_bind (fun _ => rfl) (fun _ => .ite .fault ?_)
  refine .bind (.current_bind (fun _ => rfl) (fun _ => .pure)) (fun apn => ?_)
  cases apn with
  | none => exact .pure
  | some apn => exact .bind hfree (fun _ => .ite (hconnect apn) .pure)

theorem blind_setupList (reason : Option Reason) (waiting : List ApnSetting) :
    Blind phone preferred (setupList reason waiting) :=
  .bind (.update (fun _ => rfl)) (fun _ =>
    .ite (.bind (blind_setState _) (fun _ => .pure)) (blind_setupWaiting reason))

theorem blind_attachElse : Blind phone preferred attachElse := by
  refine .bind .environment (fun _ => .current_bind (fun _ => rfl) (fun _ => .ite ?_ (.ite ?_ ?_)))
  · refine .bind (.current_bind (fun _ => rfl) (fun _ => .ite ?_ .pure)) (fun _ => .emit)
    exact .bind (.update (fun _ => rfl)) (fun _ => .emit)
  · exact .bind (blind_setState _) (fun _ => .emit)
  · exact .ite (.bind (blind_setupWaiting _) (fun _ => .pure)) .pure

end Blind

/-- What is tried stays in the list to try. -/
theorem setupList_waiting (phone : Phone) (t : Tracker) (reason : Option Reason)
    (waiting : List ApnSetting) :
    (setupList reason waiting phone t).state.waitingApns = some waiting := by
  rw [setupList, Traced.update_bind]
  cases waiting with
  | nil => rfl
  | cons apn rest =>
    simp only [List.isEmpty_cons, Bool.false_eq_true, if_false]
    rw [setupWaiting_cons rfl]
    split
    · rw [connectApn_eq]
    · rfl

/-- A first setup is one with its list, up to the preferred access point. -/
theorem setupFirst_eq {phone : Phone} {t : Tracker} (hlist : t.allApns ≠ none)
    (reason : Option Reason) :
    setupFirst reason phone t =
      let r := setupList reason (phone.waiting t) phone t
      ⟨r.value, r.state.prefer (if phone.forgets t then none else t.preferredApn),
        deletion (phone.forgets t) ++ r.events⟩ := by
  have hsome : ¬ t.allApns.isNone = true := by simpa using hlist
  rw [setupFirst, Traced.current_bind, Traced.bind_eq (buildWaitingApns_exact phone t)]
  simp only [if_neg hsome]
  have hblind := @blind_setupList phone (if phone.forgets t then none else t.preferredApn) reason
    (phone.waiting t) t
  rw [setupList] at hblind
  simp only [Tracker.prefer] at hblind
  rw [hblind]
  rfl

theorem onGprsAttached_tries {phone : Phone} {t : Tracker} (hconnected : t.state ≠ .connected)
    (hfailed : t.state ≠ .failed) :
    onGprsAttached phone t =
      let r := trySetupData (some .gprsAttached) phone t
      ⟨r.value.map (fun _ => ()), r.state, r.events⟩ := by
  rw [onGprsAttached, Traced.current_bind, if_neg hconnected, if_neg hfailed]
  exact Traced.bind_pure_comp

/-- What an idle tracker does that is attached. -/
theorem onGprsAttached_starts {phone : Phone} {t : Tracker} (hstart : phone.startsSetup t = true)
    (hlist : t.allApns ≠ none) :
    onGprsAttached phone t =
      let r := setupList (some .gprsAttached) (phone.waiting t) phone t
      ⟨r.value.map (fun _ => ()),
        r.state.prefer (if phone.forgets t then none else t.preferredApn),
        deletion (phone.forgets t) ++ r.events⟩ := by
  simp only [Phone.startsSetup, Bool.and_eq_true, Bool.not_eq_true', decide_eq_true_eq] at hstart
  obtain ⟨⟨hradio, hidle⟩, hready⟩ := hstart
  have hconnected : t.state ≠ .connected := by simp [hidle]
  have hfailed : t.state ≠ .failed := by simp [hidle]
  rw [onGprsAttached_tries hconnected hfailed, trySetupData_idle hradio hready hidle,
    setupFirst_eq hlist]

theorem onGprsAttached_else {phone : Phone} {t : Tracker} (hstart : phone.startsSetup t = false)
    (hfailed : t.state ≠ .failed) : onGprsAttached phone t = attachElse phone t := by
  rw [attachElse, Traced.environment_bind, Traced.current_bind]
  by_cases hconnected : t.state = .connected
  · rw [if_pos hconnected, onGprsAttached, Traced.current_bind, if_pos hconnected]
  rw [if_neg hconnected, onGprsAttached_tries hconnected hfailed]
  by_cases hradio : phone.simulatedRadio = true
  · rw [if_pos hradio, trySetupData, Traced.environment_bind, Traced.current_bind, if_pos hradio]
    rfl
  · rw [if_neg hradio]
    simp only [Bool.not_eq_true] at hradio
    by_cases hscan : t.state = .scanning ∧ phone.isReady t = true
    · rw [if_pos hscan, trySetupData_scanning hradio hscan.2 hscan.1, Traced.bind_pure_comp]
    · rw [if_neg hscan, trySetupData_waits hradio]
      · rfl
      · rintro ⟨hidle | hscanning, hready⟩
        · simp [Phone.startsSetup, hradio, hidle, hready] at hstart
        · exact hscan ⟨hscanning, hready⟩

/-! ### The flags -/

theorem listed_eq (phone : Phone) {t : Tracker} (h : t.defaultApnIsReady = false) :
    t.listed phone = { t with allApns := some phone.apns } := by
  rw [Tracker.listed, if_neg (by simp [h]), createAllApnList_eq]
  rfl

theorem onGprsAttached_frame (phone : Phone) (t : Tracker) :
    (onGprsAttached phone t).state.frame = t.frame :=
  (frames_onGprsAttached phone).keeps t.frame t rfl

/-- Neither flag may change. -/
theorem Undisturbed.flags {phone : Phone} {t : Tracker} (h : Undisturbed phone t)
    (hready : t.defaultApnIsReady = false) :
    phone.noCarriers = false ∧ t.canSetPreferApn = phone.preferApn.isSome := by
  have hforced : (handleMessage .gprsAttached phone t).state.frame = (phone.loaded t).frame := by
    rw [attached_forced phone hready]
    exact onGprsAttached_frame phone _
  have halone : (attachAlone phone t).state.frame = (t.listed phone).frame :=
    onGprsAttached_frame phone _
  rw [listed_eq phone hready] at halone
  have hloaded : (phone.loaded t).frame = (phone.rebuilt t).frame := by
    rw [Phone.loaded]
    split <;> rfl
  rw [hloaded] at hforced
  have hset : (handleMessage .gprsAttached phone t).state.canSetPreferApn =
      (attachAlone phone t).state.canSetPreferApn :=
    (congrArg Tracker.canSetPreferApn h.state).trans rfl
  have hflag : (handleMessage .gprsAttached phone t).state.defaultApnIsReady =
      (attachAlone phone t).state.defaultApnIsReady :=
    (congrArg Tracker.defaultApnIsReady h.state).trans rfl
  simp only [Tracker.frame, Prod.mk.injEq, Phone.rebuilt] at hforced halone
  obtain ⟨-, hforcedSet, hforcedFlag, -⟩ := hforced
  obtain ⟨-, haloneSet, haloneFlag, -⟩ := halone
  constructor
  · simpa [hready] using hforcedFlag.symm.trans (hflag.trans haloneFlag)
  · exact (hforcedSet.symm.trans (hset.trans haloneSet)).symm

/-- The clean-up in front takes the failure away that would reset the retry manager. -/
theorem attached_forced_failed {phone : Phone} {t : Tracker} (h : t.defaultApnIsReady = false)
    (hfailed : t.state = .failed) :
    .resetRetryCount ∉ (handleMessage .gprsAttached phone t).events := by
  have hloaded : phone.loaded t = (phone.rebuilt t).cleaned := if_pos hfailed
  have hidle : (phone.loaded t).state = .idle := by
    rw [hloaded]
    rfl
  rw [attached_forced phone h]
  simp only [List.mem_append, not_or]
  constructor
  · simp [Phone.loadEffects, Phone.rebuildEffects, Tracker.cleanEffects]
  · intro hmem
    have hsetup := onGprsAttached_setup (by simp [hidle]) (by simp [hidle]) _ hmem
    cases hsetup

theorem Undisturbed.not_failed {phone : Phone} {t : Tracker} (h : Undisturbed phone t)
    (hready : t.defaultApnIsReady = false) : t.state ≠ .failed := by
  intro hfailed
  have hlisted : (t.listed phone).state = .failed := by rw [listed_eq phone hready, hfailed]
  have hreset : .resetRetryCount ∈ asked (attachAlone phone t).events :=
    List.mem_filter.mpr ⟨onGprsAttached_failed hlisted, rfl⟩
  have hforced := h.events.mem_iff.mpr (List.mem_append_right _ hreset)
  exact attached_forced_failed hready hfailed (List.mem_of_mem_filter hforced)

/-! ### The preferred access point -/

/-- The build deletes a stored choice of another operator. -/
def Phone.deletes (phone : Phone) (t : Tracker) : Bool :=
  (phone.choice t.requestedApnType).any (fun apn => apn.numeric ≠ phone.operator)

def Phone.isOwn (phone : Phone) (apn : ApnSetting) : Bool :=
  decide (some apn.numeric = phone.simOperatorNumeric)

/-- Two preferred access points are as good as each other: they are the same, or neither is of
the SIM's operator. None is as good as the only access point there is. -/
def Phone.AsGood (phone : Phone) : Option ApnSetting → Option ApnSetting → Prop
  | none, none => True
  | none, some apn | some apn, none => phone.isOwn apn = true ∧ phone.apns = [apn]
  | some apn, some other => apn = other ∨ phone.isOwn apn = false ∧ phone.isOwn other = false

/-- The stored choice takes the place of the preferred access point unnoticed. It matters to a
tracker that is about to build its list for the default type; elsewhere none may be deleted. -/
def SamePreference (phone : Phone) (t : Tracker) : Prop :=
  if phone.startsSetup t ∧ t.requestedApnType = apnTypeDefault ∧ t.canSetPreferApn then
    phone.AsGood (phone.choice t.requestedApnType) t.preferredApn
  else phone.deletes t = false

theorem Phone.operator_of_isOwn {phone : Phone} {apn : ApnSetting} (h : phone.isOwn apn = true) :
    apn.numeric = phone.operator := by
  rw [Phone.operator, ← of_decide_eq_true h, Option.getD_some]

/-- A tracker that looks at the preferred access point uses one of the SIM's operator. -/
theorem waiting_looks {phone : Phone} {t : Tracker} (htype : t.requestedApnType = apnTypeDefault)
    (hset : t.canSetPreferApn = true) :
    phone.waiting t =
      (t.preferredApn.filter phone.isOwn).elim (t.allApns.getD []) (fun apn => [apn]) := by
  rw [Phone.waiting, if_neg (by rw [htype]; decide), Phone.usable, if_pos ⟨htype, hset⟩]
  rfl

theorem forgets_looks {phone : Phone} {t : Tracker} (htype : t.requestedApnType = apnTypeDefault)
    (hset : t.canSetPreferApn = true) :
    phone.forgets t = t.preferredApn.any (fun apn => !phone.isOwn apn) := by
  simp [Phone.forgets, htype, hset, Phone.isOwn]

theorem asGood_iff (phone : Phone) (choice preferred : Option ApnSetting) :
    phone.AsGood choice preferred ↔
      ((choice.filter (fun apn => apn.numeric = phone.operator)).filter phone.isOwn).elim
          phone.apns (fun apn => [apn]) =
        (preferred.filter phone.isOwn).elim phone.apns (fun apn => [apn]) ∧
      (choice.any (fun apn => apn.numeric ≠ phone.operator)).toNat +
          ((choice.filter (fun apn => apn.numeric = phone.operator)).any
            (fun apn => !phone.isOwn apn)).toNat =
        (preferred.any (fun apn => !phone.isOwn apn)).toNat := by
  have hchoice (apn : ApnSetting) :
      (((some apn).filter (fun apn => apn.numeric = phone.operator)).filter phone.isOwn) =
          (some apn).filter phone.isOwn ∧
        ((some apn).any (fun apn => apn.numeric ≠ phone.operator)).toNat +
          (((some apn).filter (fun apn => apn.numeric = phone.operator)).any
            (fun apn => !phone.isOwn apn)).toNat = (!phone.isOwn apn).toNat := by
    cases hown : phone.isOwn apn with
    | true => simp [Option.filter, Phone.operator_of_isOwn hown, hown]
    | false =>
      by_cases hoperator : apn.numeric = phone.operator <;> simp [Option.filter, hoperator, hown]
  cases choice with
  | none =>
    cases preferred with
    | none => simp [Phone.AsGood]
    | some apn => cases hown : phone.isOwn apn <;> simp [Phone.AsGood, Option.filter, hown]
  | some apn =>
    rw [(hchoice apn).1, (hchoice apn).2]
    cases preferred with
    | none => cases hown : phone.isOwn apn <;> simp [Phone.AsGood, Option.filter, hown, eq_comm]
    | some other =>
      cases hown : phone.isOwn apn <;> cases hother : phone.isOwn other <;>
        simp [Phone.AsGood, Option.filter, hown, hother]
      · rintro rfl
        simp [hown] at hother
      · rintro rfl
        simp [hown] at hother

theorem samePreference_iff {phone : Phone} {t : Tracker}
    (hset : t.canSetPreferApn = phone.preferApn.isSome) (hstart : phone.startsSetup t = true) :
    SamePreference phone t ↔
      phone.waiting (phone.rebuilt t) = phone.waiting { t with allApns := some phone.apns } ∧
        (phone.deletes t).toNat + (phone.forgets (phone.rebuilt t)).toNat =
          (phone.forgets { t with allApns := some phone.apns }).toNat := by
  by_cases hlooks : t.requestedApnType = apnTypeDefault ∧ t.canSetPreferApn = true
  · obtain ⟨htype, hcan⟩ := hlooks
    rw [SamePreference, if_pos ⟨hstart, htype, hcan⟩, asGood_iff,
      waiting_looks (t := phone.rebuilt t) htype (hset.symm.trans hcan),
      forgets_looks (t := phone.rebuilt t) htype (hset.symm.trans hcan),
      waiting_looks (t := { t with allApns := some phone.apns }) htype hcan,
      forgets_looks (t := { t with allApns := some phone.apns }) htype hcan]
    rfl
  · have hblind : ¬ (t.requestedApnType = apnTypeDefault ∧ phone.preferApn.isSome = true) := by
      rwa [← hset]
    have hneither : ¬ (phone.startsSetup t ∧ t.requestedApnType = apnTypeDefault ∧
        t.canSetPreferApn) := fun h => hlooks h.2
    rw [SamePreference, if_neg hneither]
    simp [Phone.waiting, Phone.usable, Phone.forgets, Phone.rebuilt, hlooks, hblind]

theorem count_deletion (b : Bool) : (deletion b).count .deletePreferApn = b.toNat := by
  cases b <;> rfl

theorem deletions_perm_iff {a b c : Bool} {queued es : List Effect} :
    (deletion a ++ queued ++ (deletion b ++ es)).Perm (queued ++ (deletion c ++ es)) ↔
      a.toNat + b.toNat = c.toNat := by
  constructor
  · intro h
    have hcount := h.count_eq .deletePreferApn
    simp only [List.count_append, count_deletion] at hcount
    omega
  · intro h
    have hswap : (deletion a ++ queued ++ (deletion b ++ es)).Perm
        (queued ++ (deletion a ++ deletion b ++ es)) := by
      rw [List.append_assoc, List.append_assoc]
      exact List.perm_append_comm_assoc _ _ _
    have hsame : deletion a ++ deletion b = deletion c := by
      cases a <;> cases b <;> cases c <;> first | rfl | cases h
    rwa [hsame] at hswap

/-- What the outside notices of a build without a clean-up. -/
theorem asked_loadEffects {phone : Phone} {t : Tracker} (hready : t.defaultApnIsReady = false)
    (hfailed : t.state ≠ .failed) :
    asked (phone.loadEffects t) = deletion (phone.deletes t) ++ t.queuedSetup := by
  rw [Phone.loadEffects, if_neg hfailed, Phone.rebuildEffects, Tracker.queuedSetup, hready,
    Phone.deletes, deletion]
  split <;> rfl

theorem asked_deletion (b : Bool) : asked (deletion b) = deletion b := by
  cases b <;> rfl

section Kept
variable {phone : Phone} {t : Tracker}

/-- With the flags kept, a build stores the list and the preferred access point only. -/
theorem rebuilt_eq_prefer (hready : t.defaultApnIsReady = false) (hrows : phone.noCarriers = false)
    (hset : t.canSetPreferApn = phone.preferApn.isSome) :
    phone.rebuilt t = (t.listed phone).prefer (phone.rebuilt t).preferredApn := by
  rw [listed_eq phone hready, Phone.rebuilt, hrows, Bool.or_false, ← hset]
  rfl

theorem blind_rebuilt {α : Type} {m : Handler α} (hm : ∀ preferred, Blind phone preferred m)
    (hready : t.defaultApnIsReady = false) (hrows : phone.noCarriers = false)
    (hset : t.canSetPreferApn = phone.preferApn.isSome) :
    m phone (phone.rebuilt t) =
      let r := m phone (t.listed phone)
      ⟨r.value, r.state.prefer (phone.rebuilt t).preferredApn, r.events⟩ := by
  rw [rebuilt_eq_prefer hready hrows hset]
  exact hm _ (t.listed phone)

theorem attached_unfailed (phone : Phone) (hready : t.defaultApnIsReady = false) (hfailed : t.state ≠ .failed) :
    handleMessage .gprsAttached phone t =
      let r := onGprsAttached phone (phone.rebuilt t)
      ⟨r.value, r.state, phone.loadEffects t ++ r.events⟩ := by
  rw [attached_forced phone hready, Phone.loaded, if_neg hfailed]

/-- An idle tracker builds its list from the rebuilt one. -/
theorem undisturbed_starts_iff (hready : t.defaultApnIsReady = false) (hfailed : t.state ≠ .failed)
    (hrows : phone.noCarriers = false) (hset : t.canSetPreferApn = phone.preferApn.isSome)
    (hstart : phone.startsSetup t = true) :
    Undisturbed phone t ↔
      phone.waiting (phone.rebuilt t) = phone.waiting (t.listed phone) ∧
        (phone.deletes t).toNat + (phone.forgets (phone.rebuilt t)).toNat =
          (phone.forgets (t.listed phone)).toNat := by
  have hlisted := listed_eq phone hready
  have hforced : onGprsAttached phone (phone.rebuilt t) = _ :=
    onGprsAttached_starts hstart (Option.some_ne_none _)
  have halone : onGprsAttached phone (t.listed phone) = _ :=
    onGprsAttached_starts (by rw [hlisted]; exact hstart)
      (by rw [hlisted]; exact Option.some_ne_none _)
  have hblind := blind_rebuilt (fun _ => blind_setupList (some .gprsAttached)
    (phone.waiting (phone.rebuilt t))) hready hrows hset
  rw [hblind] at hforced
  have hmessage := attached_unfailed phone hready hfailed
  simp only [hforced] at hmessage
  constructor
  · intro h
    have hwaiting := congrArg Tracker.waitingApns h.state
    simp only [hmessage, attachAlone, halone, Tracker.prefer, setupList_waiting,
      Option.some.injEq] at hwaiting
    refine ⟨hwaiting, ?_⟩
    have hperm := h.events
    simp only [hmessage, attachAlone, halone, hwaiting, asked_append, asked_loadEffects hready hfailed,
      asked_deletion] at hperm
    exact deletions_perm_iff.mp hperm
  · rintro ⟨hwaiting, hdeleted⟩
    refine ⟨?_, ?_, ?_⟩
    · simp only [hmessage, attachAlone, halone, hwaiting]
    · simp only [hmessage, attachAlone, halone, hwaiting]
      rfl
    · simp only [hmessage, attachAlone, halone, hwaiting, asked_append,
        asked_loadEffects hready hfailed, asked_deletion]
      exact deletions_perm_iff.mpr hdeleted

/-- Any other tracker does not look at the preferred access point. -/
theorem undisturbed_else_iff (hready : t.defaultApnIsReady = false) (hfailed : t.state ≠ .failed)
    (hrows : phone.noCarriers = false) (hset : t.canSetPreferApn = phone.preferApn.isSome)
    (hstart : phone.startsSetup t = false) :
    Undisturbed phone t ↔ phone.deletes t = false := by
  have hlisted := listed_eq phone hready
  have hforced : onGprsAttached phone (phone.rebuilt t) = _ := onGprsAttached_else hstart hfailed
  have halone : onGprsAttached phone (t.listed phone) = _ :=
    onGprsAttached_else (by rw [hlisted]; exact hstart) (by rw [hlisted]; exact hfailed)
  have hblind := blind_rebuilt (fun _ => blind_attachElse) hready hrows hset
  rw [hblind] at hforced
  have hmessage := attached_unfailed phone hready hfailed
  simp only [hforced] at hmessage
  have hdeletions := @deletions_perm_iff (phone.deletes t) false false t.queuedSetup
    (asked (attachElse phone (t.listed phone)).events)
  have hperm : (asked (handleMessage .gprsAttached phone t).events).Perm
      (t.queuedSetup ++ asked (attachAlone phone t).events) ↔ phone.deletes t = false := by
    simp only [hmessage, attachAlone, halone, asked_append, asked_loadEffects hready hfailed]
    refine Iff.trans hdeletions ?_
    cases phone.deletes t <;> decide
  constructor
  · exact fun h => hperm.mp h.events
  · intro hdeleted
    refine ⟨?_, ?_, hperm.mpr hdeleted⟩
    · simp only [hmessage, attachAlone, halone]
    · simp only [hmessage, attachAlone, halone]
      rfl

theorem undisturbed_ready (hready : t.defaultApnIsReady = true) : Undisturbed phone t := by
  have halone : attachAlone phone t = onGprsAttached phone t := by
    simp [attachAlone, Tracker.listed, hready]
  have hsame := (attached_ready phone hready).trans halone.symm
  refine ⟨congrArg Result.value hsame, ?_, ?_⟩
  · rw [hsame]
  · rw [hsame, Tracker.queuedSetup, if_pos hready, List.nil_append]

end Kept

theorem attach_undisturbed_iff (phone : Phone) (t : Tracker) :
    Undisturbed phone t ↔ t.defaultApnIsReady = true ∨
      (t.state ≠ .failed ∧ phone.noCarriers = false ∧
        t.canSetPreferApn = phone.preferApn.isSome ∧ SamePreference phone t) := by
  cases hready : t.defaultApnIsReady with
  | true => exact iff_of_true (undisturbed_ready hready) (.inl rfl)
  | false =>
    have hsame (hfailed : t.state ≠ .failed) (hrows : phone.noCarriers = false)
        (hset : t.canSetPreferApn = phone.preferApn.isSome) :
        Undisturbed phone t ↔ SamePreference phone t := by
      cases hstart : phone.startsSetup t with
      | true =>
        rw [samePreference_iff hset hstart, ← listed_eq phone hready]
        exact undisturbed_starts_iff hready hfailed hrows hset hstart
      | false =>
        rw [SamePreference, if_neg (by simp [hstart])]
        exact undisturbed_else_iff hready hfailed hrows hset hstart
    simp only [Bool.false_eq_true, false_or]
    constructor
    · intro h
      obtain ⟨hrows, hset⟩ := h.flags hready
      have hfailed := h.not_failed hready
      exact ⟨hfailed, hrows, hset, (hsame hfailed hrows hset).mp h⟩
    · rintro ⟨hfailed, hrows, hset, hpreference⟩
      exact (hsame hfailed hrows hset).mpr hpreference

/-- Attaching after a failure without a list does not reset the retry manager. -/
theorem attach_undisturbed_failed :
    let row : CarrierRow := ⟨1, "310004", none, none, none, none, none, none, none, none, none, 0,
      none, none, none⟩
    let phone := Phone.simless "310004" (some [row]) none
    let t := { Tracker.created with state := .failed }
    ¬ Undisturbed phone t ∧ .resetRetryCount ∉ (handleMessage .gprsAttached phone t).events ∧
      .resetRetryCount ∈ (attachAlone phone t).events := by
  intro row phone t
  have hreset : .resetRetryCount ∈ (attachAlone phone t).events := by decide +kernel
  have hnone : .resetRetryCount ∉ (handleMessage .gprsAttached phone t).events := by
    decide +kernel
  refine ⟨fun h => ?_, hnone, hreset⟩
  exact h.not_failed rfl rfl

end Fw100.Telephony
