import Fw100.Gps.Engine

/-!
# What a step of the threads can do

Every step of the engine's machine is one of a few moves. The invariants are read off the moves,
and the functions of the source are not opened again.
-/
namespace Fw100.Gps
open Library

/-- The flag that the commands in the socket leave, from the flag `started` of the engine. -/
def Cmd.apply (started : Bool) : Cmd → Bool
  | .quit => started
  | .start => true
  | .stop => false

inductive GpsState.Move (s : GpsState) : HalEvent → GpsState → List HalOutput → Prop where
  | still {e : HalEvent} : s.Move e s []
  | answer {e : HalEvent} (freq : ℤ) (outs : List HalOutput) (h : ∀ o ∈ outs, ∃ rc, o = .returned rc) :
      s.Move e { s with fixFreq := freq } outs
  | noDevice {e : HalEvent} (hinit : s.init = .quit) (hcaller : s.caller = .idle) :
      s.Move e { s with init := .init, control := [], fd := -1, fixFreq := -1, firstFix := false }
        [.returned (-1)]
  | noThread {e : HalEvent} (callbacks : Callbacks) (hinit : s.init = .quit)
      (hcaller : s.caller = .idle) :
      s.Move e { gpsStateZero s with caller := .copying callbacks } []
  | create {e : HalEvent} (callbacks : Callbacks) (fd : ℕ) (hinit : s.init = .quit)
      (hcaller : s.caller = .idle) :
      s.Move e { s with init := .init, control := [], fd := fd, fixFreq := -1, firstFix := false,
                        engine := .beginning, caller := .copying callbacks } [.created]
  | again {e : HalEvent} (callbacks : Callbacks) (hinit : s.init ≠ .quit) (hfd : 0 ≤ s.fd)
      (hcaller : s.caller = .idle) : s.Move e { s with caller := .copying callbacks } []
  | send {e : HalEvent} (cmd : Cmd) (hcmd : cmd ≠ .quit) (hinit : s.init ≠ .quit)
      (hcaller : s.caller = .idle) (hengine : s.engine ≠ .absent) :
      s.Move e { s with control := s.control ++ [cmd] } [.sent cmd, .returned 0]
  | cleanup (hinit : s.init ≠ .quit) (hcaller : s.caller = .idle) (hengine : s.engine ≠ .absent) :
      s.Move (.call .gpsCleanup) { s with control := s.control ++ [.quit], caller := .joining }
        [.sent .quit]
  | cleanupAlone (hinit : s.init ≠ .quit) (hcaller : s.caller = .idle)
      (hengine : s.engine = .absent) :
      s.Move (.call .gpsCleanup) { s with caller := .joining } []
  | copied {e : HalEvent} (callbacks : Callbacks) (hcaller : s.caller = .copying callbacks) :
      s.Move e { s with callbacks := callbacks, caller := .idle } [.returned 0]
  | released {e : HalEvent} (hcaller : s.caller = .joining)
      (hengine : s.engine = .absent ∨ s.engine = .finished) :
      s.Move e (gpsStateZero s) [.released]
  | engineOn {e : HalEvent} (hengine : s.engine = .beginning) :
      s.Move e { s with engine := .polling false, hasLatLong := false, otherFlags := false,
                        svStatusChanged := false } [.status .engineOn s.callbacks.status]
  | quits {e : HalEvent} (started : Bool) (rest : List Cmd) (hengine : s.engine = .polling started)
      (hcontrol : s.control = .quit :: rest) :
      s.Move e { s with control := rest, engine := .leaving } []
  | ignores {e : HalEvent} (started : Bool) (cmd : Cmd) (rest : List Cmd)
      (hengine : s.engine = .polling started) (hcontrol : s.control = cmd :: rest)
      (hcmd : cmd.apply started = started) (hquit : cmd ≠ .quit) :
      s.Move e { s with control := rest } []
  | begins {e : HalEvent} (rest : List Cmd) (hengine : s.engine = .polling false)
      (hcontrol : s.control = .start :: rest) :
      s.Move e { s with control := rest, init := .start, timers := s.timers ++ [.running],
                        engine := .polling true } [.status .sessionBegin s.callbacks.status]
  | beginFails (rest : List Cmd) (hengine : s.engine = .polling false)
      (hcontrol : s.control = .start :: rest) :
      s.Move (.engine (.command false)) { s with control := rest, init := .init, engine := .leaving }
        [.status .sessionBegin s.callbacks.status]
  | stops {e : HalEvent} (rest : List Cmd) (hengine : s.engine = .polling true)
      (hcontrol : s.control = .stop :: rest) :
      s.Move e { s with control := rest, init := .init, engine := .joining } []
  | error (started : Bool) (hengine : s.engine = .polling started) :
      s.Move (.engine .pollError) { s with engine := .leaving } []
  | stores {e : HalEvent} (latLong other sv : Bool) (first : Bool) (started : Bool)
      (hengine : s.engine = .polling started) (hfirst : s.firstFix = true → first = true) :
      s.Move e { s with hasLatLong := latLong, otherFlags := other, svStatusChanged := sv,
                        firstFix := first } []
  | firstFix {e : HalEvent} (sv : Bool) (started : Bool) (hengine : s.engine = .polling started)
      (hinit : s.init = .init) (hfirst : s.firstFix = false) :
      s.Move e { s with hasLatLong := false, otherFlags := false, svStatusChanged := sv,
                        firstFix := true } [.location false]
  | ends {e : HalEvent} (hengine : s.engine = .joining)
      (htimer : s.timers.getLast? = some .finished) :
      s.Move e { s with engine := .polling false } [.status .sessionEnd s.callbacks.status]
  | engineOff {e : HalEvent} (hengine : s.engine = .leaving) :
      s.Move e { s with engine := .finished } [.status .engineOff s.callbacks.status]
  | reports (i : ℕ) (htimer : s.timers[i]? = some .running) :
      s.Move (.timer i) { (timerReport s).1 with timers := s.timers.set i .reported }
        (timerReport s).2
  | sleeps (i : ℕ) (htimer : s.timers[i]? = some .reported) :
      s.Move (.timer i)
        { s with timers := s.timers.set i (.sleeping (s.fixFreq % 2 ^ 32).toNat) } []
  | wakes (i seconds : ℕ) (htimer : s.timers[i]? = some (.sleeping seconds)) :
      s.Move (.timer i)
        { s with timers := s.timers.set i (if s.init = .start then .running else .finished) } []

namespace GpsState
variable (s : GpsState)

theorem move_returned (e : HalEvent) (rc : ℤ) : s.Move e s [.returned rc] :=
  .answer s.fixFreq _ (fun _ ho => ⟨rc, List.mem_singleton.mp ho⟩)

theorem move_call (c : InterfaceCall) (hcaller : s.caller = .idle) :
    s.Move (.call c) (interfaceCall s c).1 (interfaceCall s c).2 := by
  cases c with
  | gpsInit outcome callbacks =>
    simp only [interfaceCall, freerunnerGpsInit]
    by_cases hinit : s.init = .quit
    · rw [if_pos hinit]
      cases outcome with
      | noDevice => exact .noDevice hinit hcaller
      | noThread => exact .noThread callbacks hinit hcaller
      | running fd =>
        exact .create callbacks fd hinit hcaller
    · rw [if_neg hinit]
      split_ifs with hfd
      · exact s.move_returned _ (-1)
      · exact .again callbacks hinit (not_lt.mp hfd) hcaller
  | gpsStart =>
    simp only [interfaceCall, freerunnerGpsSend, gpsStateSend]
    split_ifs with hinit hengine
    · exact s.move_returned _ (-1)
    · exact s.move_returned _ 0
    · exact .send .start (by decide) hinit hcaller hengine
  | gpsStop =>
    simp only [interfaceCall, freerunnerGpsSend, gpsStateSend]
    split_ifs with hinit hengine
    · exact s.move_returned _ (-1)
    · exact s.move_returned _ 0
    · exact .send .stop (by decide) hinit hcaller hengine
  | gpsCleanup =>
    simp only [interfaceCall, freerunnerGpsCleanup, gpsStateSend]
    split_ifs with hinit hengine
    · exact .still
    · exact .cleanupAlone hinit hcaller hengine
    · exact .cleanup hinit hcaller hengine
  | gpsSetFixFrequency freq =>
    simp only [interfaceCall, freerunnerGpsSetFixFrequency]
    split_ifs
    · exact .still
    · exact .answer _ [] (by simp)
    · exact .answer _ [] (by simp)
  | gpsSetPositionMode standalone freq =>
    simp only [interfaceCall, freerunnerGpsSetPositionMode]
    split_ifs
    · exact s.move_returned _ (-1)
    · exact s.move_returned _ (-1)
    · exact .answer freq _ (fun _ ho => ⟨0, List.mem_singleton.mp ho⟩)

theorem move_caller : s.Move .caller (callerStep s).1 (callerStep s).2 := by
  simp only [callerStep]
  split
  · exact .still
  · next callbacks hcaller => exact .copied callbacks hcaller
  · next hcaller =>
    split_ifs with hengine
    · exact .released hcaller hengine
    · exact .still

theorem move_sentence (p : Parsed) {started : Bool} (hengine : s.engine = .polling started) :
    s.Move (.engine (.sentence p)) (nmeaSentence s p).1 (nmeaSentence s p).2 := by
  simp only [nmeaSentence]
  split_ifs with hfirst hlocation
  · exact .firstFix _ started hengine hfirst.2.1 hfirst.1
  · exact .stores _ _ _ _ started hengine (fun _ => rfl)
  · exact .stores _ _ _ _ started hengine id

theorem move_command (timerCreated started : Bool) (cmd : Cmd) (rest : List Cmd)
    (hengine : s.engine = .polling started) (hcontrol : s.control = cmd :: rest) :
    s.Move (.engine (.command timerCreated))
      (handleCommand { s with control := rest } started timerCreated cmd).1
      (handleCommand { s with control := rest } started timerCreated cmd).2 := by
  cases cmd with
  | quit => exact .quits started rest hengine hcontrol
  | start =>
    cases started with
    | true => exact .ignores true .start rest hengine hcontrol rfl (by decide)
    | false =>
      cases timerCreated with
      | true => exact .begins rest hengine hcontrol
      | false => exact .beginFails rest hengine hcontrol
  | stop =>
    cases started with
    | true => exact .stops rest hengine hcontrol
    | false => exact .ignores false .stop rest hengine hcontrol rfl (by decide)

theorem move_engine (e : EngineStep) : s.Move (.engine e) (engineStep s e).1 (engineStep s e).2 := by
  cases e with
  | engineOn =>
    simp only [engineStep]
    split_ifs with hengine
    · exact .engineOn hengine
    · exact .still
  | command timerCreated =>
    simp only [engineStep]
    split
    · next started cmd rest hengine hcontrol =>
      exact s.move_command timerCreated started cmd rest hengine hcontrol
    · exact .still
  | pollError =>
    simp only [engineStep]
    split
    · next started hengine => exact .error started hengine
    · exact .still
  | sentence p =>
    simp only [engineStep]
    split
    · next started hengine => exact s.move_sentence p hengine
    · exact .still
  | timerJoined =>
    simp only [engineStep]
    split_ifs with hboth
    · exact .ends hboth.1 hboth.2
    · exact .still
  | engineOff =>
    simp only [engineStep]
    split_ifs with hengine
    · exact .engineOff hengine
    · exact .still

theorem move_timer (i : ℕ) : s.Move (.timer i) (timerStep s i).1 (timerStep s i).2 := by
  simp only [timerStep]
  split
  · next htimer => exact .reports i htimer
  · next htimer => exact .sleeps i htimer
  · next seconds htimer => exact .wakes i seconds htimer
  · exact .still

/-- Every step is one of the moves. -/
theorem move (e : HalEvent) : s.Move e (halStep s e).1 (halStep s e).2 := by
  cases e with
  | call c =>
    simp only [halStep]
    split_ifs with hcaller
    · exact s.move_call c hcaller
    · exact .still
  | caller => exact s.move_caller
  | engine e => exact s.move_engine e
  | timer i => exact s.move_timer i

end GpsState

end Fw100.Gps
