import Fw100.Library.Observer
import Mathlib.Tactic

/-!
# The engine of the GPS library

The functions of the interface write commands into a socket that the engine thread polls
together with the GPS device. A session has a timer thread, which reports what the parser has
stored. The threads take steps in any order; the calls of the interface come one at a time.
-/
namespace Fw100.Gps
open Library

inductive Cmd where
  | quit
  | start
  | stop
deriving DecidableEq, Repr

inductive InitState where
  | quit
  | init
  | start
deriving DecidableEq, Repr

inductive GpsStatus where
  | engineOn
  | sessionBegin
  | sessionEnd
  | engineOff
deriving DecidableEq, Repr

structure Callbacks where
  location : Bool
  status : Bool
  svStatus : Bool
deriving DecidableEq, Repr

inductive EngineThread where
  | absent
  /-- In front of the callback with `GPS_STATUS_ENGINE_ON`. -/
  | beginning
  | polling (started : Bool)
  /-- In the `pthread_join` of `CMD_STOP`. -/
  | joining
  /-- At `Exit`. -/
  | leaving
  | finished
deriving DecidableEq, Repr

inductive TimerThread where
  | running
  | reported
  | sleeping (seconds : ℕ)
  | finished
deriving DecidableEq, Repr

inductive Caller where
  | idle
  /-- In front of the copy of the callbacks in `freerunner_gps_init`. -/
  | copying (callbacks : Callbacks)
  /-- In the `pthread_join` of `gps_state_done`. -/
  | joining
deriving DecidableEq, Repr

/-- `GpsState` and its threads. The last of the timer threads is `tmr_thread`. -/
structure GpsState where
  init : InitState
  fd : ℤ
  callbacks : Callbacks
  /-- The commands in the socket. -/
  control : List Cmd
  fixFreq : ℤ
  firstFix : Bool
  /-- `GPS_LOCATION_HAS_LAT_LONG` in the flags of the fix, and any other flag. -/
  hasLatLong : Bool
  otherFlags : Bool
  svStatusChanged : Bool
  engine : EngineThread
  timers : List TimerThread
  caller : Caller
deriving DecidableEq, Repr

def noCallbacks : Callbacks := ⟨false, false, false⟩

def GpsState.zero : GpsState :=
  { init := .quit, fd := 0, callbacks := noCallbacks, control := [], fixFreq := 0,
    firstFix := false, hasLatLong := false, otherFlags := false, svStatusChanged := false,
    engine := .absent, timers := [], caller := .idle }

inductive HalOutput where
  | returned (rc : ℤ)
  /-- The engine thread was created. -/
  | created
  | sent (cmd : Cmd)
  /-- The engine comes to a status callback, and it is set. -/
  | status (s : GpsStatus) (reported : Bool)
  /-- The location callback, by a timer thread or by the parser. -/
  | location (timer : Bool)
  | svStatus
  /-- `gps_state_done` returns. -/
  | released
deriving DecidableEq, Repr

/-! ### The interface -/

inductive InitOutcome where
  /-- The semaphore, the property, the device name or `open` failed. -/
  | noDevice
  /-- `socketpair` or `pthread_create` failed, which leads to `gps_state_done`. -/
  | noThread
  | running (fd : ℕ)
deriving DecidableEq, Repr

/-- What the end of `gps_state_done` leaves. The timer threads are not waited for. -/
def gpsStateZero (s : GpsState) : GpsState := { GpsState.zero with timers := s.timers }

def gpsStateInit (s : GpsState) : InitOutcome → GpsState × List HalOutput
  | .noDevice => ({ s with init := .init, control := [], fd := -1, fixFreq := -1,
                           firstFix := false }, [])
  | .noThread => (gpsStateZero s, [])
  | .running fd => ({ s with init := .init, control := [], fd := fd, fixFreq := -1,
                             firstFix := false, engine := .beginning }, [.created])

/-- `freerunner_gps_init` up to the copy of the callbacks. -/
def freerunnerGpsInit (s : GpsState) (outcome : InitOutcome) (callbacks : Callbacks) :
    GpsState × List HalOutput :=
  let done := if s.init = .quit then gpsStateInit s outcome else (s, [])
  if done.1.fd < 0 then (done.1, done.2 ++ [.returned (-1)])
  else ({ done.1 with caller := .copying callbacks }, done.2)

/-- `gps_state_start`, `gps_state_stop` and the first step of `gps_state_done`. Without an engine
there is no socket. -/
def gpsStateSend (s : GpsState) (cmd : Cmd) : GpsState × List HalOutput :=
  if s.engine = .absent then (s, []) else ({ s with control := s.control ++ [cmd] }, [.sent cmd])

def freerunnerGpsSend (s : GpsState) (cmd : Cmd) : GpsState × List HalOutput :=
  if s.init = .quit then (s, [.returned (-1)])
  else
    let sent := gpsStateSend s cmd
    (sent.1, sent.2 ++ [.returned 0])

def freerunnerGpsCleanup (s : GpsState) : GpsState × List HalOutput :=
  if s.init = .quit then (s, [])
  else
    let sent := gpsStateSend s .quit
    ({ sent.1 with caller := .joining }, sent.2)

def freerunnerGpsSetFixFrequency (s : GpsState) (freq : ℤ) : GpsState × List HalOutput :=
  if s.init = .quit then (s, []) else ({ s with fixFreq := if freq ≤ 0 then 1 else freq }, [])

def freerunnerGpsSetPositionMode (s : GpsState) (standalone : Bool) (freq : ℤ) :
    GpsState × List HalOutput :=
  if standalone = false then (s, [.returned (-1)])
  else if s.init = .quit ∨ freq < 0 then (s, [.returned (-1)])
  else ({ s with fixFreq := freq }, [.returned 0])

inductive InterfaceCall where
  | gpsInit (outcome : InitOutcome) (callbacks : Callbacks)
  | gpsStart
  | gpsStop
  | gpsCleanup
  | gpsSetFixFrequency (freq : ℤ)
  | gpsSetPositionMode (standalone : Bool) (freq : ℤ)
deriving DecidableEq, Repr

def interfaceCall (s : GpsState) : InterfaceCall → GpsState × List HalOutput
  | .gpsInit outcome callbacks => freerunnerGpsInit s outcome callbacks
  | .gpsStart => freerunnerGpsSend s .start
  | .gpsStop => freerunnerGpsSend s .stop
  | .gpsCleanup => freerunnerGpsCleanup s
  | .gpsSetFixFrequency freq => freerunnerGpsSetFixFrequency s freq
  | .gpsSetPositionMode standalone freq => freerunnerGpsSetPositionMode s standalone freq

def callerStep (s : GpsState) : GpsState × List HalOutput :=
  match s.caller with
  | .idle => (s, [])
  | .copying callbacks => ({ s with callbacks := callbacks, caller := .idle }, [.returned 0])
  | .joining =>
    if s.engine = .absent ∨ s.engine = .finished then (gpsStateZero s, [.released]) else (s, [])

/-! ### The engine thread -/

structure Parsed where
  hasLatLong : Bool
  otherFlags : Bool
  svStatusChanged : Option Bool
deriving DecidableEq, Repr

/-- The end of `nmea_reader_parse`: the first fix is reported outside a session. -/
def nmeaSentence (s : GpsState) (p : Parsed) : GpsState × List HalOutput :=
  let s := { s with hasLatLong := s.hasLatLong || p.hasLatLong,
                    otherFlags := s.otherFlags || p.otherFlags,
                    svStatusChanged := p.svStatusChanged.getD s.svStatusChanged }
  if s.firstFix = false ∧ s.init = .init ∧ s.hasLatLong = true then
    if s.callbacks.location then
      ({ s with hasLatLong := false, otherFlags := false, firstFix := true }, [.location false])
    else ({ s with firstFix := true }, [])
  else (s, [])

/-- One command. The flag `timerCreated` is the success of `pthread_create`. -/
def handleCommand (s : GpsState) (started timerCreated : Bool) : Cmd → GpsState × List HalOutput
  | .quit => ({ s with engine := .leaving }, [])
  | .start =>
    if started then (s, [])
    else
      let begun : List HalOutput := [.status .sessionBegin s.callbacks.status]
      if timerCreated then
        ({ s with init := .start, timers := s.timers ++ [.running], engine := .polling true },
          begun)
      else ({ s with init := .init, engine := .leaving }, begun)
  | .stop =>
    if started then ({ s with init := .init, engine := .joining }, []) else (s, [])

inductive EngineStep where
  | engineOn
  | command (timerCreated : Bool)
  /-- `EPOLLERR` or `EPOLLHUP`. -/
  | pollError
  | sentence (p : Parsed)
  | timerJoined
  | engineOff
deriving DecidableEq, Repr

def engineStep (s : GpsState) : EngineStep → GpsState × List HalOutput
  | .engineOn =>
    if s.engine = .beginning then
      ({ s with engine := .polling false, hasLatLong := false, otherFlags := false,
                svStatusChanged := false }, [.status .engineOn s.callbacks.status])
    else (s, [])
  | .command timerCreated =>
    match s.engine, s.control with
    | .polling started, cmd :: rest => handleCommand { s with control := rest } started timerCreated cmd
    | _, _ => (s, [])
  | .pollError =>
    match s.engine with
    | .polling _ => ({ s with engine := .leaving }, [])
    | _ => (s, [])
  | .sentence p =>
    match s.engine with
    | .polling _ => nmeaSentence s p
    | _ => (s, [])
  | .timerJoined =>
    if s.engine = .joining ∧ s.timers.getLast? = some .finished then
      ({ s with engine := .polling false }, [.status .sessionEnd s.callbacks.status])
    else (s, [])
  | .engineOff =>
    if s.engine = .leaving then
      ({ s with engine := .finished }, [.status .engineOff s.callbacks.status])
    else (s, [])

/-! ### The timer threads -/

/-- The part of the loop of `gps_timer_thread` under the lock. -/
def timerReport (s : GpsState) : GpsState × List HalOutput :=
  let fixed := (s.hasLatLong || s.otherFlags) && s.callbacks.location
  let changed := s.svStatusChanged && s.callbacks.svStatus
  ({ s with hasLatLong := s.hasLatLong && !fixed,
            otherFlags := s.otherFlags && !fixed,
            firstFix := s.firstFix || fixed,
            fixFreq := if (s.hasLatLong || s.otherFlags) && s.fixFreq == 0 then -1 else s.fixFreq,
            svStatusChanged := s.svStatusChanged && !changed },
    (if fixed then [.location true] else []) ++ (if changed then [.svStatus] else []))

/-- One step of timer thread `i`. A sleep ends at any time; its length is an `unsigned`. -/
def timerStep (s : GpsState) (i : ℕ) : GpsState × List HalOutput :=
  match s.timers[i]? with
  | some .running =>
    let done := timerReport s
    ({ done.1 with timers := s.timers.set i .reported }, done.2)
  | some .reported =>
    ({ s with timers := s.timers.set i (.sleeping (s.fixFreq % 2 ^ 32).toNat) }, [])
  | some (.sleeping _) =>
    ({ s with timers := s.timers.set i (if s.init = .start then .running else .finished) }, [])
  | _ => (s, [])

inductive HalEvent where
  | call (c : InterfaceCall)
  | caller
  | engine (e : EngineStep)
  | timer (i : ℕ)
deriving DecidableEq, Repr

/-- One step of one of the threads. A call is made only when the last one has returned. -/
def halStep (s : GpsState) : HalEvent → GpsState × List HalOutput
  | .call c => if s.caller = .idle then interfaceCall s c else (s, [])
  | .caller => callerStep s
  | .engine e => engineStep s e
  | .timer i => timerStep s i

end Fw100.Gps
