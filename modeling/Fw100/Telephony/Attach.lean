import Fw100.Library.Machine
import Fw100.Telephony.ApnChoice

/-!
# Attaching

The handler of EVENT_GPRS_ATTACHED builds the list of access points as long as a flag is not
set that says that there is one. The flag is set by one of the two ways to get a list, and the
handler of EVENT_RECORDS_LOADED, which does the building, also cleans up after a failure.
-/
namespace Fw100.Telephony
open Library
open Traced (emit environment current update fault)

/-! ### The handlers in full -/

def Tracker.cleaned (t : Tracker) : Tracker :=
  { t with state := .idle, reconnectIntent := false, connReset := true, netStatPollEnabled := false,
           activeApn := none }

def Tracker.cleanEffects (t : Tracker) (reason : Option Reason) : List Effect :=
  (if t.reconnectIntent then [.cancelAlarm] else []) ++
    [.resetSynchronously, .stopPoll, .notifyDataConnection reason]

theorem cleanUpConnection_eq (reason : Option Reason) (phone : Phone) (t : Tracker) :
    cleanUpConnection reason phone t = ⟨.ok (), t.cleaned, t.cleanEffects reason⟩ := by
  cases halarm : t.reconnectIntent with
  | true =>
    simp [cleanUpConnection, bind, current, halarm, emit, update, setState, stopNetStatPoll,
      gotoIdleAndNotifyDataConnection, Tracker.cleaned, Tracker.cleanEffects]
  | false =>
    simp [cleanUpConnection, bind, current, halarm, emit, update, setState, stopNetStatPoll,
      gotoIdleAndNotifyDataConnection, Tracker.cleaned, Tracker.cleanEffects]

def Phone.loaded (phone : Phone) (t : Tracker) : Tracker :=
  if t.state = .failed then (phone.rebuilt t).cleaned else phone.rebuilt t

def Phone.loadEffects (phone : Phone) (t : Tracker) : List Effect :=
  phone.rebuildEffects t.requestedApnType ++
    (if t.state = .failed then t.cleanEffects none else []) ++
    [.sendTrySetup (some .simLoaded) false]

theorem onRecordsLoaded_eq (phone : Phone) (t : Tracker) :
    onRecordsLoaded phone t = ⟨.ok (), phone.loaded t, phone.loadEffects t⟩ := by
  have hstate : (phone.rebuilt t).state = t.state := rfl
  rw [onRecordsLoaded, Traced.bind_eq (createAllApnList_eq phone t)]
  by_cases hfailed : t.state = .failed
  · have hclean : (do
        let t ← current
        if t.state = .failed then cleanUpConnection none else pure ()
        emit (.sendTrySetup (some .simLoaded) false) : Handler Unit) phone (phone.rebuilt t) =
        ⟨.ok (), (phone.rebuilt t).cleaned,
          t.cleanEffects none ++ [.sendTrySetup (some .simLoaded) false]⟩ := by
      rw [Traced.current_bind, hstate, if_pos hfailed, Traced.bind_eq (cleanUpConnection_eq none phone _)]
      rfl
    simp only [hclean, Phone.loaded, Phone.loadEffects, if_pos hfailed, List.append_assoc]
  · have hquiet : (do
        let t ← current
        if t.state = .failed then cleanUpConnection none else pure ()
        emit (.sendTrySetup (some .simLoaded) false) : Handler Unit) phone (phone.rebuilt t) =
        ⟨.ok (), phone.rebuilt t, [.sendTrySetup (some .simLoaded) false]⟩ := by
      rw [Traced.current_bind, hstate, if_neg hfailed]
      rfl
    simp only [hquiet, Phone.loaded, Phone.loadEffects, if_neg hfailed, List.append_nil]

/-! ### What a setup can do -/

/-- The fields that neither a setup nor a clean-up changes. -/
def Tracker.frame (t : Tracker) : Option (List ApnSetting) × Bool × Bool × Bool × String × Bool :=
  (t.allApns, t.canSetPreferApn, t.defaultApnIsReady, t.noAutoAttach, t.requestedApnType,
    t.isPsRestricted)

/-- The handler asks for nothing but `P` and leaves those fields alone. -/
structure Frames (phone : Phone) (P : Effect → Bool) {α : Type} (m : Handler α) : Prop where
  emits : Traced.Emits phone (fun e => P e = true) m
  keeps : ∀ c, Traced.Preserves phone (fun t => t.frame = c) m

namespace Frames
variable {phone : Phone} {P : Effect → Bool} {α β : Type}

theorem pure {a : α} : Frames phone P (Pure.pure a) := ⟨.pure, fun _ => .pure⟩

theorem bind {m : Handler α} {f : α → Handler β} (hm : Frames phone P m)
    (hf : ∀ a, Frames phone P (f a)) : Frames phone P (m >>= f) :=
  ⟨.bind hm.emits (fun a => (hf a).emits), fun c => .bind (hm.keeps c) (fun a => (hf a).keeps c)⟩

theorem emit {e : Effect} (h : P e = true) : Frames phone P (Traced.emit e) :=
  ⟨.emit h, fun _ => .emit⟩

theorem fault {f : Fault} : Frames phone P (Traced.fault f : Handler α) := ⟨.fault, fun _ => .fault⟩

theorem environment : Frames phone P (Traced.environment : Handler Phone) :=
  ⟨.environment, fun _ => .environment⟩

theorem current : Frames phone P (Traced.current : Handler Tracker) :=
  ⟨.current, fun _ => .current⟩

theorem update {f : Tracker → Tracker} (h : ∀ t, (f t).frame = t.frame) :
    Frames phone P (Traced.update f : Handler Unit) :=
  ⟨.update, fun _ => .update (fun t ht => (h t).trans ht)⟩

theorem ite {p : Prop} [Decidable p] {m m' : Handler α} (h : Frames phone P m)
    (h' : Frames phone P m') : Frames phone P (if p then m else m') := by
  split
  · exact h
  · exact h'

theorem mono {Q : Effect → Bool} {m : Handler α} (h : Frames phone P m)
    (hPQ : ∀ e, P e = true → Q e = true) : Frames phone Q m :=
  ⟨h.emits.mono hPQ, h.keeps⟩

end Frames

/-- What `trySetupData` asks for. -/
def Effect.isSetup : Effect → Bool
  | .notifyDataConnection _ | .connect _ _ | .deletePreferApn | .insertPreferApn _ => true
  | _ => false

abbrev SetsUp (phone : Phone) {α : Type} (m : Handler α) : Prop := Frames phone Effect.isSetup m

section SetsUp
variable {phone : Phone}

theorem setsUp_setPreferredApn (pos : ℤ) : SetsUp phone (setPreferredApn pos) :=
  .bind .current (fun _ =>
    .ite (.bind (.emit rfl) (fun _ => .ite (.emit rfl) .pure)) .pure)

theorem setsUp_buildFromAll : SetsUp phone buildFromAll := by
  refine .bind .environment (fun _ => .bind .current (fun t => ?_))
  cases t.allApns with
  | none => exact .pure
  | some apns => exact .pure

theorem setsUp_buildWaitingApns : SetsUp phone buildWaitingApns := by
  refine .bind .environment (fun _ => .bind .current (fun t =>
    .ite .pure (.ite ?_ setsUp_buildFromAll)))
  cases t.preferredApn with
  | none => exact setsUp_buildFromAll
  | some preferred =>
    exact .ite .pure (.bind (setsUp_setPreferredApn _) (fun _ =>
      .bind (.update (fun _ => rfl)) (fun _ => setsUp_buildFromAll)))

theorem setsUp_connect (apn : ApnSetting) (reason : Option Reason) :
    SetsUp phone (connectApn apn reason) :=
  .bind (.update (fun _ => rfl)) (fun _ => .bind (.emit rfl) (fun _ =>
    .bind (.update (fun _ => rfl)) (fun _ => .bind (.emit rfl) (fun _ => .pure))))

theorem setsUp_setupData (reason : Option Reason) : SetsUp phone (setupData reason) := by
  refine .bind (.bind .current (fun _ => .pure)) (fun apn => ?_)
  cases apn with
  | none => exact .pure
  | some apn =>
    have hfree : SetsUp phone findFreePdp :=
      .bind .environment (fun _ => .bind .current (fun _ => .pure))
    exact .bind hfree (fun _ => .ite (setsUp_connect apn reason) .pure)

theorem setsUp_setupWaiting (reason : Option Reason) : SetsUp phone (setupWaiting reason) :=
  .bind .current (fun _ => .ite .fault (setsUp_setupData reason))

theorem setsUp_setupFirst (reason : Option Reason) : SetsUp phone (setupFirst reason) :=
  .bind .current (fun _ => .bind setsUp_buildWaitingApns (fun _ => .bind (.update (fun _ => rfl)) (fun _ =>
    .ite (.bind (.update (fun _ => rfl)) (fun _ => .pure)) (.ite .fault (setsUp_setupWaiting reason)))))

theorem setsUp_trySetupData (reason : Option Reason) : SetsUp phone (trySetupData reason) := by
  refine .bind .environment (fun _ => .bind .current (fun _ => .ite ?_ ?_))
  · exact .bind (.update (fun _ => rfl)) (fun _ => .bind (.emit rfl) (fun _ => .pure))
  · exact .ite (.ite (setsUp_setupFirst reason) (setsUp_setupWaiting reason)) .pure

end SetsUp

/-! ### Attaching with and without building -/

theorem attached_ready (phone : Phone) {t : Tracker} (h : t.defaultApnIsReady = true) :
    handleMessage .gprsAttached phone t = onGprsAttached phone t := by
  have hready : ¬ t.defaultApnIsReady = false := by simp [h]
  rw [handleMessage, Traced.current_bind, if_neg hready]

theorem attached_forced (phone : Phone) {t : Tracker} (h : t.defaultApnIsReady = false) :
    handleMessage .gprsAttached phone t =
      ⟨(onGprsAttached phone (phone.loaded t)).value, (onGprsAttached phone (phone.loaded t)).state,
        phone.loadEffects t ++ (onGprsAttached phone (phone.loaded t)).events⟩ := by
  rw [handleMessage, Traced.current_bind, if_pos h, Traced.bind_eq (onRecordsLoaded_eq phone t)]

/-- From a tracker without a connection and without a failure. -/
theorem onGprsAttached_setup {phone : Phone} {t : Tracker} (hconnected : t.state ≠ .connected)
    (hfailed : t.state ≠ .failed) :
    ∀ e ∈ (onGprsAttached phone t).events, e.isSetup = true := by
  rw [onGprsAttached, Traced.current_bind, if_neg hconnected, if_neg hfailed]
  exact (Frames.bind (setsUp_trySetupData _) (fun _ => Frames.pure)).emits t

/-- From a failed one the retry manager is reset. -/
theorem onGprsAttached_failed {phone : Phone} {t : Tracker} (h : t.state = .failed) :
    .resetRetryCount ∈ (onGprsAttached phone t).events := by
  have hconnected : t.state ≠ .connected := by simp [h]
  rw [onGprsAttached, Traced.current_bind, if_neg hconnected, if_pos h,
    Traced.bind_eq (cleanUpConnection_eq _ phone t)]
  simp only [Traced.emit_bind, List.mem_append, List.mem_cons, true_or, or_true]

/-! ### The forced build -/

/-- The messages that can build the list, each with what the phone is like then. -/
inductive Arrival where
  | recordsLoaded (phone : Phone)
  | gprsAttached (phone : Phone)

def Arrival.phone : Arrival → Phone
  | .recordsLoaded phone => phone
  | .gprsAttached phone => phone

def Arrival.message : Arrival → Message
  | .recordsLoaded _ => .recordsLoaded
  | .gprsAttached _ => .gprsAttached

def Arrival.isLoaded : Arrival → Bool
  | .recordsLoaded _ => true
  | .gprsAttached _ => false

def Effect.isQuery : Effect → Bool
  | .queryCarriers _ => true
  | _ => false

/-- One message; the output tells whether EVENT_GPRS_ATTACHED asked for the carriers. -/
def arrive (t : Tracker) (e : Arrival) : Tracker × Bool :=
  let r := receive e.message e.phone t
  (r.state, !e.isLoaded && r.events.any Effect.isQuery)

/-- The list is built at most once by EVENT_GPRS_ATTACHED, and not after EVENT_RECORDS_LOADED. -/
structure BuiltOnce (t : Tracker) (arrivals : List Arrival) : Prop where
  once : (run arrive t arrivals).2.count true ≤ 1
  notAfterLoaded : ∀ before e after, arrivals = before ++ e :: after →
    before.any Arrival.isLoaded = true → (arrive (run arrive t before).1 e).2 = false

theorem frames_onGprsAttached (phone : Phone) :
    Frames phone (fun e => !e.isQuery) onGprsAttached := by
  have hsetup : Frames phone (fun e => !e.isQuery) (trySetupData (some .gprsAttached)) := by
    apply (setsUp_trySetupData _).mono
    intro e he
    cases e <;> first | rfl | cases he
  have hpoll : Frames phone (fun e => !e.isQuery) startNetStatPoll :=
    .bind .current (fun _ => .ite (.bind (.update (fun _ => rfl)) (fun _ => .emit rfl)) .pure)
  have hidle : Frames phone (fun e => !e.isQuery)
      (gotoIdleAndNotifyDataConnection (some .gprsAttached)) :=
    .bind (.update (fun _ => rfl)) (fun _ => .bind (.emit rfl) (fun _ => .update (fun _ => rfl)))
  have hreset : Frames phone (fun e => !e.isQuery) (do
      setState .disconnecting
      emit .resetSynchronously
      update (fun t => { t with connReset := true })
      stopNetStatPoll
      gotoIdleAndNotifyDataConnection (some .gprsAttached)) :=
    .bind (.update (fun _ => rfl)) (fun _ => .bind (.emit rfl) (fun _ =>
      .bind (.update (fun _ => rfl)) (fun _ => .bind (.bind (.update (fun _ => rfl)) (fun _ =>
        .emit rfl)) (fun _ => hidle))))
  have hclean : Frames phone (fun e => !e.isQuery) (cleanUpConnection (some .gprsAttached)) :=
    .bind .current (fun _ => .ite (.bind (.emit rfl) (fun _ =>
      .bind (.update (fun _ => rfl)) (fun _ => hreset))) hreset)
  refine .bind .current (fun t => .ite (.bind hpoll (fun _ => .emit rfl)) ?_)
  refine .ite ?_ (.bind hsetup (fun _ => .pure))
  exact .bind hclean (fun _ => .bind (.emit rfl) (fun _ => .bind hsetup (fun _ => .pure)))

theorem onGprsAttached_flag (phone : Phone) (t : Tracker) :
    (onGprsAttached phone t).state.defaultApnIsReady = t.defaultApnIsReady :=
  congrArg (fun frame => frame.2.2.1) ((frames_onGprsAttached phone).keeps t.frame t rfl)

theorem onGprsAttached_query (phone : Phone) (t : Tracker) :
    (onGprsAttached phone t).events.any Effect.isQuery = false := by
  rw [List.any_eq_false]
  intro e he
  simpa using (frames_onGprsAttached phone).emits t e he

theorem loaded_flag (phone : Phone) (t : Tracker) :
    (phone.loaded t).defaultApnIsReady = (t.defaultApnIsReady || phone.noCarriers) := by
  rw [Phone.loaded]
  split_ifs <;> rfl

theorem loadEffects_query (phone : Phone) (t : Tracker) :
    (phone.loadEffects t).any Effect.isQuery = true := by
  simp [Phone.loadEffects, Phone.rebuildEffects, Effect.isQuery]

/-- The flag behind a message, and whether the message built the list by force. -/
theorem arrive_eq (t : Tracker) (e : Arrival) :
    (arrive t e).1.defaultApnIsReady = (t.defaultApnIsReady || e.phone.noCarriers) ∧
      (arrive t e).2 = (!e.isLoaded && !t.defaultApnIsReady) := by
  have hwoken : t.woken.defaultApnIsReady = t.defaultApnIsReady := rfl
  rw [← hwoken]
  simp only [arrive, receive_eq]
  cases e with
  | recordsLoaded phone =>
    have hloaded : handleMessage .recordsLoaded phone t.woken = _ := onRecordsLoaded_eq phone t.woken
    simp only [Arrival.message, Arrival.phone, hloaded, loaded_flag, Arrival.isLoaded]
    simp
  | gprsAttached phone =>
    simp only [Arrival.message, Arrival.phone, Arrival.isLoaded]
    cases hready : t.woken.defaultApnIsReady with
    | true =>
      rw [attached_ready phone hready, onGprsAttached_flag, onGprsAttached_query, hready]
      simp
    | false =>
      rw [attached_forced phone hready]
      simp [onGprsAttached_flag, loaded_flag, loadEffects_query, hready]

theorem run_arrive_flag (t : Tracker) (before : List Arrival) :
    (run arrive t before).1.defaultApnIsReady =
      (t.defaultApnIsReady || before.any (fun e => e.phone.noCarriers)) := by
  induction before generalizing t with
  | nil => simp
  | cons e before ih => simp [ih, (arrive_eq t e).1, Bool.or_assoc]

/-- What a message does behind others. -/
theorem arrive_behind {t : Tracker} (h : t.defaultApnIsReady = false) (before : List Arrival)
    (e : Arrival) :
    (arrive (run arrive t before).1 e).2 =
      (!e.isLoaded && !before.any (fun e => e.phone.noCarriers)) := by
  rw [(arrive_eq _ e).2, run_arrive_flag, h, Bool.false_or]

/-- A second forced build is avoided only by a message that found nothing. -/
theorem BuiltOnce.exists_noCarriers {t : Tracker} (h : t.defaultApnIsReady = false)
    {before after : List Arrival} {phone : Phone}
    (hbuilt : BuiltOnce t (before ++ .gprsAttached phone :: after)) (hne : before ≠ []) :
    ∃ e ∈ before, e.phone.noCarriers = true := by
  by_contra hnone
  have hready : before.any (fun e => e.phone.noCarriers) = false := by simpa using hnone
  have hforced := arrive_behind h before (.gprsAttached phone)
  rw [hready] at hforced
  obtain ⟨first, before, rfl⟩ := List.exists_cons_of_ne_nil hne
  cases first with
  | recordsLoaded phone' =>
    have hlater := hbuilt.notAfterLoaded _ _ _ rfl (by simp [Arrival.isLoaded])
    rw [hforced] at hlater
    cases hlater
  | gprsAttached phone' =>
    have hfirst := arrive_behind h [] (.gprsAttached phone')
    have hcount := hbuilt.once
    rw [run_append, List.count_append, run_cons, run_cons] at hcount
    simp only [run_nil] at hfirst
    simp only [run_cons] at hforced
    simp only [hfirst, hforced, Arrival.isLoaded] at hcount
    simp at hcount
    omega

/-- If only the first message builds the list by force, all is well. -/
theorem builtOnce_of_quiet {t : Tracker} {arrivals : List Arrival}
    (hquiet : ∀ before e after, arrivals = before ++ e :: after → before ≠ [] →
      (arrive (run arrive t before).1 e).2 = false) : BuiltOnce t arrivals := by
  refine ⟨?_, ?_⟩
  · cases arrivals with
    | nil => simp
    | cons first rest =>
      have halong : Along arrive (fun t e => (arrive t e).2 = false) (arrive t first).1 rest := by
        rw [along_iff_forall]
        rintro before e after rfl
        exact hquiet (first :: before) e after rfl (List.cons_ne_nil _ _)
      have hrest : ∀ o ∈ (run arrive (arrive t first).1 rest).2, o = false :=
        (along_output_iff (Q := fun o => o = false)).mp halong
      have hnone : (run arrive (arrive t first).1 rest).2.count true = 0 :=
        List.count_eq_zero.mpr (fun hmem => by simpa using hrest true hmem)
      rw [run_cons, List.count_cons, hnone]
      split <;> omega
  · rintro before e after heq hloaded
    apply hquiet before e after heq
    rintro rfl
    cases hloaded

theorem forced_build_once_iff {t : Tracker} (h : t.defaultApnIsReady = false)
    (arrivals : List Arrival) :
    BuiltOnce t arrivals ↔
      ∀ before phone after, arrivals = before ++ .gprsAttached phone :: after → before ≠ [] →
        ∃ e ∈ before, e.phone.noCarriers = true := by
  constructor
  · rintro hbuilt before phone after rfl hne
    exact hbuilt.exists_noCarriers h hne
  · intro hempty
    apply builtOnce_of_quiet
    intro before e after heq hne
    rw [arrive_behind h]
    cases e with
    | recordsLoaded phone => rfl
    | gprsAttached phone =>
      obtain ⟨e, he, hnone⟩ := hempty before phone after heq hne
      have hready : before.any (fun e => e.phone.noCarriers) = true :=
        List.any_eq_true.mpr ⟨e, he, hnone⟩
      simp [hready]

/-- Two attaches with rows in the database, and one behind EVENT_RECORDS_LOADED. -/
theorem forced_build_once_rows :
    let row : CarrierRow := ⟨1, "310004", none, none, none, none, none, none, none, none, none, 0,
      none, none, none⟩
    let phone := Phone.simless "310004" (some [row]) none
    ¬ BuiltOnce .created [.gprsAttached phone, .gprsAttached phone] ∧
      ¬ BuiltOnce .created [.recordsLoaded phone, .gprsAttached phone] := by
  intro row phone
  refine ⟨fun h => ?_, fun h => ?_⟩
  · exact absurd h.once (by decide +kernel)
  · have hforced := h.notAfterLoaded [.recordsLoaded phone] (.gprsAttached phone) [] rfl rfl
    exact absurd hforced (by decide +kernel)

/-- With an empty database the first attach is the only one that builds the list. -/
theorem forced_build_once_empty :
    let phone := Phone.simless "310004" none none
    BuiltOnce .created [.gprsAttached phone, .gprsAttached phone, .recordsLoaded phone] := by
  intro phone
  refine (forced_build_once_iff (t := .created) rfl _).mpr ?_
  rintro before phone' after heq hne
  obtain ⟨first, before, rfl⟩ := List.exists_cons_of_ne_nil hne
  obtain ⟨rfl, -⟩ := List.cons_eq_cons.mp heq
  exact ⟨.gprsAttached phone, .head _, rfl⟩

end Fw100.Telephony
