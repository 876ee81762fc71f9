import Fw100.Text.Tokenizer

/-!
# The session context

The fields of `fw100SessionCtx_t` that the modelled functions read or write. A
`char` array of the source is the list of its cells, whose number is fixed.
-/
namespace Fw100.Session
open Text

inductive RadioState where
  | off
  | unavailable
  | simNotReady
  | simLockedOrAbsent
  | simReady
deriving DecidableEq, Repr

/-- A `char` array of `n` cells. -/
abbrev CharArray (n : ℕ) := { cells : List UInt8 // cells.length = n }

namespace CharArray

def zero (n : ℕ) : CharArray n := ⟨List.replicate n 0, List.length_replicate⟩

/-- `strncpy` over the whole array, which leaves no NUL behind a source that fills it. -/
def copy (n : ℕ) (src : CString) : CharArray n :=
  ⟨strncpy n src, by simp only [strncpy, List.length_append, List.length_take,
    List.length_replicate]; omega⟩

/-- `strToUpper` on the whole string. The NULs behind it stay what they are. -/
def toUpper {n : ℕ} (array : CharArray n) : CharArray n :=
  ⟨array.1.map Text.toUpper, (List.length_map _).trans array.2⟩

def text {n : ℕ} (array : CharArray n) : CString := cstr array.1

end CharArray

structure SessionCtx where
  sState : RadioState
  closed : Bool
  networkSelectMode : ℤ
  screenState : ℤ
  dataDevname : Option CString
  inDataCall : Bool
  dataCallIsAutomatic : ℤ
  dataCallLocalIP : CharArray 64
  dataCallGateway : CharArray 64
  gpsFifoEnable : Bool
  gpsTtyEnable : Bool
  meid : CharArray 32
  mdn : CharArray 32
  carrier : CharArray 16
  otaMsgCnt : ℤ
  otaMsg : CharArray 64
  moduleAutoActivate : ℤ
  moduleIsActivated : ℤ
  moduleActivateRetry : ℤ
deriving DecidableEq, Repr

def maxAutoActivateRetry : ℤ := 6

/-- `initSessionContext` for the given data port, with the preference for automatic
data calls that `rilReadControl` found. -/
def initSessionContext (dataDevname : Option CString) (dataCallIsAutomatic : ℤ) : SessionCtx where
  sState := .off
  closed := false
  networkSelectMode := 1
  screenState := 0
  dataDevname := dataDevname
  inDataCall := false
  dataCallIsAutomatic := dataCallIsAutomatic
  dataCallLocalIP := .zero 64
  dataCallGateway := .zero 64
  gpsFifoEnable := false
  gpsTtyEnable := true
  meid := .zero 32
  mdn := .zero 32
  carrier := .zero 16
  otaMsgCnt := 0
  otaMsg := .zero 64
  moduleAutoActivate := 1
  moduleIsActivated := 0
  moduleActivateRetry := maxAutoActivateRetry

def yesCount (buf : CString) : ℤ :=
  (if strstr buf (ascii "Yes") then 1 else 0) + (if strstr buf (ascii "yes") then 1 else 0)

/-- What one string that `fgets` reads from the control file changes. -/
def readPreference (ctx : SessionCtx) (buf : CString) : SessionCtx :=
  let ctx := if strstr buf (ascii "DataCallIsAutomatic") then
    { ctx with dataCallIsAutomatic := yesCount buf } else ctx
  if strstr buf (ascii "AutoActivate") then { ctx with moduleAutoActivate := yesCount buf } else ctx

/-- `rilReadControl`, with which `initSessionContext` ends. There may be no file. -/
def rilReadControl (ctx : SessionCtx) (file : Option (List CString)) : SessionCtx :=
  (file.getD []).foldl readPreference ctx

theorem exists_readPreference (ctx : SessionCtx) (buf : CString) :
    ∃ automatic activate, readPreference ctx buf =
      { ctx with dataCallIsAutomatic := automatic, moduleAutoActivate := activate } := by
  unfold readPreference
  split <;> split <;> exact ⟨_, _, rfl⟩

/-- Only the two preferences change. -/
theorem exists_rilReadControl (ctx : SessionCtx) (file : Option (List CString)) :
    ∃ automatic activate, rilReadControl ctx file =
      { ctx with dataCallIsAutomatic := automatic, moduleAutoActivate := activate } := by
  unfold rilReadControl
  induction file.getD [] generalizing ctx with
  | nil => exact ⟨ctx.dataCallIsAutomatic, ctx.moduleAutoActivate, rfl⟩
  | cons buf bufs ih =>
    rcases exists_readPreference ctx buf with ⟨_, _, hbuf⟩
    rcases ih (readPreference ctx buf) with ⟨automatic, activate, hrest⟩
    exact ⟨automatic, activate, by rw [List.foldl_cons, hrest, hbuf]⟩

inductive Notification where
  | nitzTimeReceived (s : CString)
  | networkStateChanged
  | newSms (pdu : CString)
  | newSmsStatusReport (pdu : CString)
  | radioStateChanged
  | signalStrength (values : List ℤ)
deriving DecidableEq, Repr

/-- The lines of the status file that `rilWriteStatus` writes. -/
def rilWriteStatus (ctx : SessionCtx) : List CString :=
  [ascii "MEID=" ++ ctx.meid.text, ascii "MDN=" ++ ctx.mdn.text,
    ascii "Carrier=" ++ ctx.carrier.text,
    ascii "ModuleIsActivated=" ++
      (if ctx.moduleIsActivated = 0 then ascii "No"
      else if ctx.moduleIsActivated = 1 then ascii "Yes" else ascii "Fail"),
    ascii "DataCallIsAutomatic=" ++ (if ctx.dataCallIsAutomatic ≠ 0 then ascii "Yes" else ascii "No")]
  ++
    if ctx.inDataCall then
      [ascii "InDataCall=Yes", ascii "LocalIP=" ++ ctx.dataCallLocalIP.text]
    else [ascii "InDataCall=No"]

end Fw100.Session
