import Fw100.Channel.System
import Fw100.Library.Observer

/-!
# The main loop and the reader threads

`mainLoop` hands a port to `at_open`, which starts a reader thread, and opens the next port when
the reader has closed the channel. Every access to the shared fields is a step of its own, and the
critical sections of the threads that send commands may come between any two of them. No command
outside of the handshake has a limit of time, so that `onATTimeout` is never called and only a
reader closes the channel.

The ports are those that are handed to `at_open`. What comes before that is left out: attempts to
open a port that fail, and the reads of `sync_modem` on a port that is open.
-/
namespace Fw100.Session
open Library Text Channel

/-- The next access of `mainLoop`; from `storeFd` to `createReader` it is in `at_open`. -/
inductive MainPosition where
  | openPort
  | storeOpen (fd : ℕ)
  | storeFd (fd : ℕ)
  | storeReaderClosed
  | clearCommand
  | createReader
  | work
  | testClosed
deriving DecidableEq, Repr

/-- The next access of a reader thread, which leaves its loop for `onReaderClosed`. There
`storeReaderClosed` comes before `onATReaderClosed` and `markClosed` is the one in `at_close`. -/
inductive ReaderPosition where
  | readerLoop
  | testReaderClosed
  | storeReaderClosed
  | testFd
  | closeFd
  | forgetFd
  | markClosed
  | storeClosed
  | behind
deriving DecidableEq, Repr

/-- The shared fields, the threads and the descriptors. The thread of `mainLoop` is `none`. -/
structure Lifecycle (τ : Type*) where
  system : System (Option τ)
  /-- `s_fd`, if it is one. -/
  fd : ℕ
  /-- `s_closed` -/
  closed : Bool
  main : MainPosition
  /-- The reader thread of each session, from its creation on. -/
  reader : ℕ → Option ReaderPosition
  /-- The descriptors in use, with the session that they were opened for. -/
  files : ℕ → Option ℕ
  /-- How many sessions have got a port. -/
  opened : ℕ

inductive LifeEvent (τ : Type*) where
  /-- A port is open. -/
  | port (fd : ℕ)
  | main
  | createReader (ok : Bool)
  | read (reader : ℕ) (ok : Bool)
  | line (reader : ℕ) (l : CString)
  | leave (reader : ℕ)
  | command (e : Event (Option τ))

/-- What happens to the ports. A descriptor that is not in use refers to no session. -/
inductive LifeOutput where
  | opened (session : ℕ)
  | read (reader : ℕ) (session : Option ℕ)
  | closed (reader : ℕ) (session : Option ℕ)
deriving DecidableEq, Repr

namespace Lifecycle
variable {τ : Type*}

def loaded : Lifecycle τ where
  system := ⟨.loaded, fun _ => none, 0, false⟩
  fd := 0
  closed := false
  main := .openPort
  reader _ := none
  files _ := none
  opened := 0

def onChannel (s : Lifecycle τ) (f : AtChannel → AtChannel) : Lifecycle τ :=
  { s with system := { s.system with channel := f s.system.channel } }

def current (s : Lifecycle τ) : Option ℕ :=
  if s.system.channel.fdOpen then s.files s.fd else none

def moveReader (s : Lifecycle τ) (k : ℕ) (position : ReaderPosition) : Lifecycle τ :=
  { s with reader := Function.update s.reader k (some position) }

def takePort (s : Lifecycle τ) (fd : ℕ) : Lifecycle τ × List LifeOutput :=
  if s.main = .openPort ∧ s.files fd = none then
    ({ s with
        main := .storeOpen fd, files := Function.update s.files fd (some s.opened),
        opened := s.opened + 1 }, [.opened s.opened])
  else (s, [])

/-- The accesses of `mainLoop` that depend on nothing else. It waits for its own commands. -/
def mainStep (s : Lifecycle τ) : Lifecycle τ :=
  match s.main with
  | .storeOpen fd => { s with closed := false, main := .storeFd fd }
  | .storeFd fd =>
    { s.onChannel (fun ch => { ch with fdOpen := true }) with fd := fd, main := .storeReaderClosed }
  | .storeReaderClosed =>
    { s.onChannel (fun ch => { ch with readerClosed := false }) with main := .clearCommand }
  | .clearCommand => { s.onChannel AtChannel.clearPendingCommand with main := .createReader }
  | .work => if (s.system.waiting none).isSome then s else { s with main := .testClosed }
  | .testClosed => { s with main := if s.closed then .openPort else .work }
  | .openPort | .createReader => s

/-- `pthread_create` reports a failure by a positive number, and `at_open` tests for a negative
one. -/
def createReader (s : Lifecycle τ) (ok : Bool) : Lifecycle τ :=
  if s.main = .createReader then
    { (if ok then s.moveReader (s.opened - 1) .readerLoop else s) with main := .work }
  else s

/-- A call of `read` in `readline`, which may be the last one. -/
def readStep (s : Lifecycle τ) (k : ℕ) (ok : Bool) : Lifecycle τ × List LifeOutput :=
  if s.reader k = some .readerLoop then
    (if ok = true ∧ s.current.isSome then s else s.moveReader k .testReaderClosed,
      [.read k s.current])
  else (s, [])

/-- The accesses of a reader that has left its loop. -/
def leaveStep (s : Lifecycle τ) (k : ℕ) : Lifecycle τ × List LifeOutput :=
  match s.reader k with
  | some .testReaderClosed =>
    (s.moveReader k (if s.system.channel.readerClosed then .behind else .storeReaderClosed), [])
  | some .storeReaderClosed => ((s.onChannel AtChannel.onReaderClosed).moveReader k .testFd, [])
  | some .testFd =>
    (s.moveReader k (if s.system.channel.fdOpen then .closeFd else .forgetFd), [])
  | some .closeFd =>
    ({ s.moveReader k .forgetFd with
        files := if s.system.channel.fdOpen then Function.update s.files s.fd none else s.files },
      [.closed k s.current])
  | some .forgetFd =>
    ((s.onChannel (fun ch => { ch with fdOpen := false })).moveReader k .markClosed, [])
  | some .markClosed => ((s.onChannel AtChannel.onReaderClosed).moveReader k .storeClosed, [])
  | some .storeClosed => ({ s.moveReader k .behind with closed := true }, [])
  | some .readerLoop | some .behind | none => (s, [])

/-- The thread of a critical section, if it is one of those that send commands. The functions
that the driver uses for it set no limit of time. -/
def sender : Event τ → Option τ
  | .sendCommand t call _ => if call.timed then none else some t
  | .handshake t _ | .wake t _ | .timeout t _ => some t
  | .line _ | .readerClosed => none

/-- `mainLoop` sends its commands between its looks at `s_closed`. -/
def sends (s : Lifecycle τ) (e : Event (Option τ)) : Bool :=
  match sender e with
  | none => false
  | some none => s.main = .work
  | some (some _) => true

variable [DecidableEq τ]

/-- A line from `readline` is processed, or is for the handler with the one that follows it. -/
def lineStep (s : Lifecycle τ) (k : ℕ) (l : CString) : Lifecycle τ :=
  if s.reader k = some .readerLoop ∧ isSMSUnsolicited l = false then
    { s with system := (System.step s.system (.line l)).1 }
  else s

def commandStep (s : Lifecycle τ) (e : Event (Option τ)) : Lifecycle τ :=
  if s.sends e then { s with system := (System.step s.system e).1 } else s

/-- Nothing happens any more when the process has crashed. -/
def step (s : Lifecycle τ) (e : LifeEvent τ) : Lifecycle τ × List LifeOutput :=
  if s.system.crashed then (s, [])
  else
    match e with
    | .port fd => s.takePort fd
    | .main => (s.mainStep, [])
    | .createReader ok => (s.createReader ok, [])
    | .read k ok => s.readStep k ok
    | .line k l => (s.lineStep k l, [])
    | .leave k => s.leaveStep k
    | .command e => (s.commandStep e, [])

end Lifecycle

end Fw100.Session
