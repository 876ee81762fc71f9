import Fw100.Request.Carrier
import Fw100.Request.Commands
import Fw100.Request.Fields
import Fw100.Request.Settings

/-!
# Setting the preferred network and reading it back

The modes and the values of `^PREFMODE` are translated by two tables that agree. The answer of
the modem has to pass the prefix that the reading request waits for, `PREFMODE:` without the
caret of the command.
-/
namespace Fw100.Request
open Library Text Channel Session

variable {env : Environment}

/-- The two tables are inverse to each other. -/
theorem preferredMode_of_value {mode value : ℤ} (h : preferredValue mode = some value) :
    preferredMode value = mode ∧ (value = 2 ∨ value = 4 ∨ value = 8) := by
  unfold preferredValue at h
  split at h
  · next hmode =>
    obtain rfl := Option.some.inj h
    exact ⟨hmode.symm, .inl rfl⟩
  · split at h
    · next hmode =>
      obtain rfl := Option.some.inj h
      exact ⟨hmode.symm, .inr (.inl rfl)⟩
    · split at h
      · next hmode =>
        obtain rfl := Option.some.inj h
        exact ⟨hmode.symm, .inr (.inr rfl)⟩
      · cases h

def Unrelated (responsePrefix line : CString) : Prop :=
  isFinalResponse line = false ∧ strStartsWith line responsePrefix = false

/-- What a query makes of a data line behind unrelated ones. -/
theorem replyLine_behind_unrelated (command responsePrefix : CString) {lines : List CString}
    {data : CString} (hlines : ∀ l ∈ lines, Unrelated responsePrefix l)
    (hdata : isFinalResponse data = false)
    (hfinal : (lastFinal (lines ++ [data, ascii "OK"])).isSome) :
    replyLine command responsePrefix (.answered (lines ++ [data, ascii "OK"]) hfinal) =
      if strStartsWith data responsePrefix then some data else none := by
  have hsuccess : isFinalResponseSuccess (ascii "OK") = true := by decide
  have hplain : ∀ l ∈ lines ++ [data], isFinalResponse l = false := by
    simp only [List.mem_append, List.mem_singleton]
    rintro l (hl | rfl)
    · exact (hlines l hl).1
    · exact hdata
  have hnonFinal : nonFinal (lines ++ [data, ascii "OK"]) = lines ++ [data] := by
    rw [List.append_cons, nonFinal_concat_of_final (by decide)]
    exact nonFinal_of_forall hplain
  have hearlier : lines.find? (fun l => strStartsWith l responsePrefix) = none := by
    rw [List.find?_eq_none]
    intro l hl
    simp [(hlines l hl).2]
  have hfound : (Call.singleline command responsePrefix true).intermediates (lines ++ [data]) =
      if strStartsWith data responsePrefix then [data] else [] := by
    change ((lines ++ [data]).find? (fun l => strStartsWith l responsePrefix)).toList = _
    rw [List.find?_append, hearlier, Option.none_or, List.find?_singleton]
    split <;> rfl
  simp only [replyLine, Call.assemble, lastFinal_ok, hnonFinal, Option.any_some, hsuccess, if_true,
    hfound]
  split <;> rfl

/-! ### The modem -/

/-- The value that an `AT^PREFMODE` command stores. -/
def prefmodeValue (text : CString) : Option CString := stripCommand (ascii "AT^PREFMODE=") text

/-- The value that the modem has stored after these events. -/
def storedPreference (events : List Event) : Option CString :=
  ((commands events).filterMap prefmodeValue).getLast?

/-- The command with number `n` is accepted; the following query is answered with the stored value
behind `responsePrefix`, after some other lines. -/
structure StoresPreference (responsePrefix : CString) (env : Environment) (n : ℕ)
    (sent : List Event) (inserted : List CString) : Prop where
  stores : accepted (env.replies n) = true
  answers : ∀ v, storedPreference sent = some v →
    env.replies (n + 1) = .answered (inserted ++ [responsePrefix ++ v, ascii "OK"])
      (by rw [lastFinal_ok, Option.isSome_some])

/-- The one answer of the reading request is a success with this mode. -/
def ReadsMode (env : Environment) (s : RequestState) (t : Token) (mode : ℤ) : Prop :=
  Traced.Ends env s (requestGetPreferredNetworkType t) (fun _ _ es =>
    es.filterMap Event.answer = [(t, .success, .int mode)])

section Exchange
variable {s : RequestState} {t : Token} {mode : ℤ}

/-- A mode that is reported as set has been sent to the modem. -/
theorem sent_of_set (h : completions (requestSetPreferredNetworkType (some mode) t env s).events =
    [(t, .success)]) :
    ∃ value, preferredValue mode = some value ∧
      (requestSetPreferredNetworkType (some mode) t env s).state.sent = s.sent + 1 ∧
      storedPreference (requestSetPreferredNetworkType (some mode) t env s).events = some (decimal value) := by
  rw [requestSetPreferredNetworkType, deref_bind] at h ⊢
  cases hvalue : preferredValue mode with
  | none =>
    rw [hvalue] at h
    have hfailed : completions [.complete t .genericFailure .null] = [(t, .success)] := h
    simp [completions, Event.completion] at hfailed
  | some value =>
    dsimp only
    rw [Traced.bind_eq (atSendCommandNull_eq env _ s)]
    refine ⟨value, rfl, ?_⟩
    split
    · exact ⟨rfl, rfl⟩
    · exact ⟨rfl, rfl⟩

/-- The value that the reading request finds in the line of its query. -/
def prefmodeField (line : CString) : Option (ℤ × Cursor) := (tokStart line).bind tokInt

theorem readsMode_iff :
    ReadsMode env s t mode ↔
      ((replyLine (ascii "AT^PREFMODE?") (ascii "PREFMODE:") (env.replies s.sent)).bind
        prefmodeField).map (fun x => preferredMode x.1) = some mode := by
  let reported (answers : List (Token × RilErrno × ResponseData)) : Prop :=
    answers = [(t, .success, .int mode)]
  rw [ReadsMode, requestGetPreferredNetworkType,
    ends_query_bind_seen ignoresQueries_answer testsZero_isNegative (Q := fun _ _ => reported)]
  dsimp only
  have hfield : prefmodeField = fun line => (tokStart line).bind tokInt := rfl
  rw [hfield]
  cases (replyLine (ascii "AT^PREFMODE?") (ascii "PREFMODE:") (env.replies s.sent)).bind
      (fun line => (tokStart line).bind tokInt) with
  | none =>
    dsimp only
    rw [ends_completeThenFree_answer (Q := reported)]
    simp [reported]
  | some found =>
    dsimp only
    rw [ends_completeThenFree_answer (Q := reported)]
    simp [reported]

end Exchange

/-- A modem that answers with the caret of its command: the mode that was set is never read
back. -/
theorem preference_never_read_back (env : Environment) (s : RequestState) (t t' : Token) (mode : ℤ)
    (inserted : List CString) (hunrelated : ∀ l ∈ inserted, Unrelated (ascii "PREFMODE:") l)
    (hset : completions (requestSetPreferredNetworkType (some mode) t env s).events = [(t, .success)])
    (hmodem : StoresPreference (ascii "^PREFMODE:") env s.sent
      (requestSetPreferredNetworkType (some mode) t env s).events inserted) :
    ¬ ReadsMode env (requestSetPreferredNetworkType (some mode) t env s).state t' mode := by
  obtain ⟨value, -, hsent, hstored⟩ := sent_of_set hset
  rw [readsMode_iff, hsent, hmodem.answers _ hstored,
    replyLine_behind_unrelated _ _ hunrelated rfl]
  simp [strStartsWith, ascii]

theorem preference_lost_hybrid :
    let env : Environment := { Environment.terse with
      replies := fun n =>
        if n = 0 then .answered [ascii "OK"] (by decide)
        else .answered [ascii "^PREFMODE:8", ascii "OK"] (by decide) }
    let s : RequestState := ⟨initSessionContext none 0, 0⟩
    let set := requestSetPreferredNetworkType (some networkModeHybrid) 7 env s
    completions set.events = [(7, .success)] ∧
      StoresPreference (ascii "^PREFMODE:") env s.sent set.events [] ∧
      ¬ ReadsMode env set.state 8 networkModeHybrid := by
  intro env s set
  refine ⟨by decide, ⟨by decide, fun v hv => ?_⟩, ?_⟩
  · have hstored : storedPreference set.events = some (ascii "8") := by decide
    obtain rfl : ascii "8" = v := Option.some.inj (hstored.symm.trans hv)
    rfl
  · rintro ⟨_, -, hanswer⟩
    exact absurd hanswer (by decide)

theorem preference_never_read_back_evdo :
    let env : Environment := { Environment.terse with
      replies := fun n =>
        if n = 0 then .answered [ascii "OK"] (by decide)
        else .answered [ascii "+CSQ:13,99", ascii "^PREFMODE:4", ascii "OK"] (by decide) }
    let s : RequestState := ⟨initSessionContext none 0, 0⟩
    ¬ ReadsMode env (requestSetPreferredNetworkType (some networkModeEvdoNoCdma) 7 env s).state 8
      networkModeEvdoNoCdma := by
  intro env s
  have hstored : storedPreference (requestSetPreferredNetworkType (some networkModeEvdoNoCdma) 7 env s).events =
      some (ascii "4") := by decide
  refine preference_never_read_back env s 7 8 networkModeEvdoNoCdma [ascii "+CSQ:13,99"] ?_ (by decide)
    ⟨by decide, fun v hv => ?_⟩
  · intro l hl
    obtain rfl := List.mem_singleton.mp hl
    exact ⟨by decide, by decide⟩
  · obtain rfl : ascii "4" = v := Option.some.inj (hstored.symm.trans hv)
    rfl

theorem preference_read_back_without_caret (env : Environment) (s : RequestState) (t t' : Token)
    (mode : ℤ) (inserted : List CString)
    (hunrelated : ∀ l ∈ inserted, Unrelated (ascii "PREFMODE:") l)
    (hset : completions (requestSetPreferredNetworkType (some mode) t env s).events = [(t, .success)])
    (hmodem : StoresPreference (ascii "PREFMODE:") env s.sent
      (requestSetPreferredNetworkType (some mode) t env s).events inserted) :
    ReadsMode env (requestSetPreferredNetworkType (some mode) t env s).state t' mode := by
  obtain ⟨value, hvalue, hsent, hstored⟩ := sent_of_set hset
  obtain ⟨hmode, hcases⟩ := preferredMode_of_value hvalue
  rw [readsMode_iff, hsent, hmodem.answers _ hstored,
    replyLine_behind_unrelated _ _ hunrelated rfl]
  rcases hcases with rfl | rfl | rfl
  · exact congrArg some hmode
  · exact congrArg some hmode
  · exact congrArg some hmode

end Fw100.Request
