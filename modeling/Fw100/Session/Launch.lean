import Fw100.Request.Device

/-!
# The start of the driver

`RIL_Init` reads its options into the zeroed context with `getopt`, checks them, lets
`initSessionContext` assign the defaults and starts `mainLoop`.
-/
namespace Fw100.Session
open Text Request

/-- What a call of `getopt` with `"p:d:a:s:"` returns, with `optarg`. -/
inductive Opt where
  | p (optarg : CString)
  | d (optarg : CString)
  | a (optarg : CString)
  | s (optarg : CString)
  | invalid
deriving DecidableEq, Repr

def optionLetter (c : UInt8) : Option (CString → Opt) :=
  if c = 112 then some .p
  else if c = 100 then some .d
  else if c = 97 then some .a
  else if c = 115 then some .s
  else none

/-- The results of the successive calls of `getopt`, up to -1 or the first `?`. An argument
that is no option ends the options, as `--` does. -/
def getopts : List CString → List Opt
  | (b :: c :: place) :: args =>
    if b ≠ 45 ∨ c = 45 ∧ place = [] then []
    else
      match optionLetter c, place, args with
      | none, _, _ => [.invalid]
      | some _, [], [] => [.invalid]
      | some opt, [], optarg :: args => opt optarg :: getopts args
      | some opt, place, args => opt place :: getopts args
  | _ => []

def Opt.args : Opt → List CString
  | .p optarg => [ascii "-p", optarg]
  | .d optarg => [ascii "-d", optarg]
  | .a optarg => [ascii "-a", optarg]
  | .s optarg => [ascii "-s", optarg]
  | .invalid => [ascii "-?"]

theorem getopts_args (opts : List Opt) (hvalid : .invalid ∉ opts) :
    getopts (opts.flatMap Opt.args) = opts := by
  induction opts with
  | nil => rfl
  | cons opt opts ih =>
    have hrest := ih (fun h => hvalid (.tail _ h))
    cases opt with
    | p optarg => simp [Opt.args, ascii, getopts, optionLetter, hrest]
    | d optarg => simp [Opt.args, ascii, getopts, optionLetter, hrest]
    | a optarg => simp [Opt.args, ascii, getopts, optionLetter, hrest]
    | s optarg => simp [Opt.args, ascii, getopts, optionLetter, hrest]
    | invalid => exact absurd (.head _) hvalid

example : getopts [ascii "-p", ascii "7", ascii "-d/dev/ttyUSB0", ascii "x", ascii "-a"] =
    [.p (ascii "7"), .d (ascii "/dev/ttyUSB0")] := by decide +kernel

/-- The fields of the session context that say what `mainLoop` opens. -/
structure PortCtx where
  port : ℤ
  atctrlPath : Option CString
  dataPath : Option CString
  deviceSocket : Bool
deriving DecidableEq, Repr

def PortCtx.cleared : PortCtx := ⟨0, none, none, false⟩

def readOption (ports : PortCtx) : Opt → Option PortCtx
  | .p optarg => if atoi optarg = 0 then none else some { ports with port := atoi optarg }
  | .a optarg => some { ports with atctrlPath := some optarg }
  | .d optarg => some { ports with dataPath := some optarg }
  | .s optarg => some { ports with atctrlPath := some optarg, deviceSocket := true }
  | .invalid => none

/-- The scan of `trim_path` down from the given index. The first byte is not looked at. -/
def trimLoop (filepath : CString) : ℕ → CString
  | 0 => filepath
  | k + 1 =>
    if filepath.getD (k + 1) 0 = 47 then filepath.drop (k + 2)
    else if filepath.getD (k + 1) 0 = 92 then filepath.drop (k + 2)
    else trimLoop filepath k

/-- `trim_path`. Undefined for `NULL`, and for the empty string, in front of which it reads. -/
def trimPath : Option CString → Option CString
  | none => none
  | some [] => none
  | some (b :: filepath) => some (trimLoop (b :: filepath) (filepath.length + 1))

/-- `initSessionContext` on the context that the options were stored in. -/
def initContext (file : Option (List CString)) (ports : PortCtx) :
    Option (PortCtx × SessionCtx) := do
  let devname ← trimPath ports.dataPath
  pure ({ ports with port := -1 }, rilReadControl (initSessionContext (some devname) 0) file)

inductive Launch where
  | null
  /-- The behaviour is undefined. -/
  | undefined
  | mainLoop (ports : PortCtx) (ctx : SessionCtx)
deriving DecidableEq, Repr

/-- `RIL_Init` with the lines of the control file, if there is one. -/
def rilInit (file : Option (List CString)) (argv : List CString) : Launch :=
  match (getopts argv.tail).foldlM readOption .cleared with
  | none => .null
  | some ports =>
    if ports.port < 0 ∧ ports.atctrlPath = none then .null
    else
      match initContext file ports with
      | none => .undefined
      | some (ports, ctx) => .mainLoop ports ctx

/-- What `mainLoop` tries to open. -/
inductive AtPort where
  | loopback (port : ℤ)
  | qemud
  | socket (path : CString)
  | device (path : CString)
deriving DecidableEq, Repr

def atPort (ports : PortCtx) : Option AtPort :=
  if 0 < ports.port then some (.loopback ports.port)
  else if ports.deviceSocket then
    ports.atctrlPath.map (fun path => if path = ascii "/dev/socket/qemud" then .qemud else .socket path)
  else ports.atctrlPath.map .device

/-! ### What was asked for -/

def Opt.port : Opt → Option ℤ
  | .p optarg => some (atoi optarg)
  | _ => none

/-- The path of an AT port and whether it is a socket. -/
def Opt.control : Opt → Option (CString × Bool)
  | .a optarg => some (optarg, false)
  | .s optarg => some (optarg, true)
  | _ => none

def Opt.data : Opt → Option CString
  | .d optarg => some optarg
  | _ => none

def Opt.isSocket : Opt → Bool
  | .s _ => true
  | _ => false

/-- Invalid, or `-p 0`. -/
def Opt.rejected : Opt → Bool
  | .p optarg => atoi optarg = 0
  | .invalid => true
  | _ => false

/-- The last of the options that say something. -/
def last {α : Type} (field : Opt → Option α) (opts : List Opt) : Option α :=
  (opts.filterMap field).getLast?

/-- The options leave the driver without a port, or one of them is refused. -/
def Refused (opts : List Opt) : Prop :=
  (∃ opt ∈ opts, opt.rejected = true) ∨ last Opt.port opts = none ∧ last Opt.control opts = none

/-- Refused options make `RIL_Init` return `NULL`; any others start `mainLoop` with a
context that says what they say. -/
structure LaunchedAsAsked (opts : List Opt) (launch : Launch) : Prop where
  refused : Refused opts → launch = .null
  started : ¬ Refused opts → ∃ ports ctx, launch = .mainLoop ports ctx ∧
    ports.port = (last Opt.port opts).getD (-1) ∧
    ports.atctrlPath = (last Opt.control opts).map Prod.fst ∧
    ports.deviceSocket = ((last Opt.control opts).map Prod.snd).getD false ∧
    ctx.dataDevname.isSome = true

/-- No port number other than -1 is asked for, a device node for the AT port does not come
behind a socket, and the data port is named. -/
structure Survives (opts : List Opt) : Prop where
  port : (last Opt.port opts).getD (-1) = -1
  control : ∃ path socket, last Opt.control opts = some (path, socket) ∧
    (socket = true ∨ opts.any Opt.isSocket = false)
  data : ∃ path, path ≠ [] ∧ last Opt.data opts = some path

/-! ### The option loop -/

@[simp] theorem last_append {α : Type} (field : Opt → Option α) (opts : List Opt) (opt : Opt) :
    last field (opts ++ [opt]) = (field opt).or (last field opts) := by
  cases h : field opt <;> simp [last, h]

/-- What the options leave in the context, if none of them is rejected. -/
def PortCtx.given (opts : List Opt) : PortCtx where
  port := (last Opt.port opts).getD 0
  atctrlPath := (last Opt.control opts).map Prod.fst
  dataPath := last Opt.data opts
  deviceSocket := opts.any Opt.isSocket

theorem given_append (opts : List Opt) (opt : Opt) :
    readOption (.given opts) opt =
      if opt.rejected = true then none else some (.given (opts ++ [opt])) := by
  cases opt with
  | p optarg =>
    by_cases hzero : atoi optarg = 0
    · simp [readOption, Opt.rejected, hzero]
    · simp [readOption, Opt.rejected, hzero, PortCtx.given, Opt.port, Opt.control, Opt.data,
        Opt.isSocket]
  | d optarg =>
    simp [readOption, Opt.rejected, PortCtx.given, Opt.port, Opt.control, Opt.data, Opt.isSocket]
  | a optarg =>
    simp [readOption, Opt.rejected, PortCtx.given, Opt.port, Opt.control, Opt.data, Opt.isSocket]
  | s optarg =>
    simp [readOption, Opt.rejected, PortCtx.given, Opt.port, Opt.control, Opt.data, Opt.isSocket]
  | invalid => rfl

theorem readOptions_eq (opts : List Opt) :
    opts.foldlM readOption .cleared =
      if opts.any Opt.rejected = true then none else some (.given opts) := by
  induction opts using List.reverseRecOn with
  | nil => rfl
  | append_singleton opts opt ih =>
    rw [List.foldlM_append, ih, List.any_append]
    by_cases hearlier : opts.any Opt.rejected = true
    · simp [hearlier]
    · simp [hearlier, given_append]

/-! ### The stages behind it -/

theorem trimPath_isSome_iff (path : Option CString) :
    (trimPath path).isSome = true ↔ ∃ filepath, filepath ≠ [] ∧ path = some filepath := by
  cases path with
  | none => simp [trimPath]
  | some filepath => cases filepath <;> simp [trimPath]

theorem trimLoop_hit {filepath : CString} {k : ℕ}
    (h : filepath.getD (k + 1) 0 = 47 ∨ filepath.getD (k + 1) 0 = 92) :
    trimLoop filepath (k + 1) = filepath.drop (k + 2) := by
  rw [trimLoop]
  split_ifs
  · rfl
  · rfl
  · simp_all

theorem trimLoop_eq {dir name : CString} {separator : UInt8} (hdir : dir ≠ [])
    (hseparator : separator = 47 ∨ separator = 92) (hname : ∀ b ∈ name, b ≠ 47 ∧ b ≠ 92) (k : ℕ) :
    trimLoop (dir ++ separator :: name) (dir.length + k) = name := by
  induction k with
  | zero =>
    have hhit : separator = (dir ++ separator :: name).getD dir.length 0 := by simp
    have hrest : (dir ++ separator :: name).drop (dir.length + 1) = name := by simp
    obtain ⟨n, hn⟩ := Nat.exists_eq_add_one_of_ne_zero (mt List.length_eq_zero_iff.mp hdir)
    rw [hn] at hhit hrest
    have hsep : (dir ++ separator :: name).getD (n + 1) 0 = 47 ∨
        (dir ++ separator :: name).getD (n + 1) 0 = 92 := by rwa [← hhit]
    rw [Nat.add_zero, hn, trimLoop_hit hsep, hrest]
  | succ k ih =>
    have hget : (dir ++ separator :: name).getD (dir.length + k + 1) 0 = name.getD k 0 := by
      simp [List.getElem?_append, Nat.add_assoc]
    have hmiss : name.getD k 0 ≠ 47 ∧ name.getD k 0 ≠ 92 := by
      rcases lt_or_ge k name.length with hk | hk
      · simpa [hk] using hname _ (List.getElem_mem hk)
      · simp [List.getElem?_eq_none hk]
    rw [← Nat.add_assoc, trimLoop, hget, if_neg hmiss.1, if_neg hmiss.2, ih]

/-- The node name is what follows the last separator. -/
theorem trimPath_eq {dir name : CString} {separator : UInt8} (hdir : dir ≠ [])
    (hseparator : separator = 47 ∨ separator = 92) (hname : ∀ b ∈ name, b ≠ 47 ∧ b ≠ 92) :
    trimPath (some (dir ++ separator :: name)) = some name := by
  obtain ⟨b, dir, rfl⟩ := List.exists_cons_of_ne_nil hdir
  have hloop := trimLoop_eq hdir hseparator hname (name.length + 1)
  simpa [trimPath, Nat.add_assoc, Nat.add_comm, Nat.add_left_comm] using hloop

/-- `initSessionContext` forgets the port number and needs the path of the data port. -/
theorem initContext_eq_none {file : Option (List CString)} {ports : PortCtx}
    (h : ¬ ∃ filepath, filepath ≠ [] ∧ ports.dataPath = some filepath) :
    initContext file ports = none := by
  rw [← trimPath_isSome_iff, Option.not_isSome_iff_eq_none] at h
  simp [initContext, h]

theorem initContext_eq_some (file : Option (List CString)) {ports : PortCtx} {filepath : CString}
    (hpath : filepath ≠ []) (h : ports.dataPath = some filepath) :
    ∃ ctx, initContext file ports = some ({ ports with port := -1 }, ctx) ∧
      ctx.dataDevname.isSome = true := by
  obtain ⟨devname, hdevname⟩ := Option.isSome_iff_exists.mp
    ((trimPath_isSome_iff _).mpr ⟨filepath, hpath, h⟩)
  obtain ⟨automatic, activate, hcontrol⟩ :=
    exists_rilReadControl (initSessionContext (some devname) 0) file
  refine ⟨rilReadControl (initSessionContext (some devname) 0) file, ?_, ?_⟩
  · simp [initContext, hdevname]
  · rw [hcontrol]
    rfl

theorem initContext_port {file : Option (List CString)} {ports : PortCtx}
    {context : PortCtx × SessionCtx} (h : initContext file ports = some context) :
    context.1.port = -1 := by
  obtain ⟨devname, -, hcontext⟩ := Option.bind_eq_some_iff.mp h
  rw [← Option.some.inj hcontext]

section Exits
variable (file : Option (List CString)) {argv : List CString}

/-- The test for missing options, which a context without a port number passes. -/
def Starts (opts : List Opt) : Prop :=
  0 ≤ (PortCtx.given opts).port ∨ (PortCtx.given opts).atctrlPath ≠ none

theorem rilInit_rejected (h : (getopts argv.tail).any Opt.rejected = true) :
    rilInit file argv = .null := by
  simp [rilInit, readOptions_eq, h]

theorem rilInit_null (h : (getopts argv.tail).any Opt.rejected = false)
    (hstarts : ¬ Starts (getopts argv.tail)) : rilInit file argv = .null := by
  simp only [Starts, not_or, not_le, not_ne_iff] at hstarts
  simp [rilInit, readOptions_eq, h, hstarts]

theorem rilInit_started (h : (getopts argv.tail).any Opt.rejected = false)
    (hstarts : Starts (getopts argv.tail)) :
    rilInit file argv = (initContext file (.given (getopts argv.tail))).elim .undefined
      (fun context => .mainLoop context.1 context.2) := by
  have htest : ¬ ((PortCtx.given (getopts argv.tail)).port < 0 ∧
      (PortCtx.given (getopts argv.tail)).atctrlPath = none) := by
    rintro ⟨hneg, hnone⟩
    rcases hstarts with hpos | hsome
    · omega
    · exact hsome hnone
  simp only [rilInit, readOptions_eq, h, htest, Bool.false_eq_true, if_false]
  cases initContext file (.given (getopts argv.tail)) <;> rfl

theorem rilInit_undefined (h : (getopts argv.tail).any Opt.rejected = false)
    (hstarts : Starts (getopts argv.tail))
    (hdata : ¬ ∃ path, path ≠ [] ∧ last Opt.data (getopts argv.tail) = some path) :
    rilInit file argv = .undefined := by
  have hnone : initContext file (.given (getopts argv.tail)) = none := initContext_eq_none hdata
  rw [rilInit_started file h hstarts, hnone]
  rfl

theorem rilInit_mainLoop (h : (getopts argv.tail).any Opt.rejected = false)
    (hstarts : Starts (getopts argv.tail)) {path : CString} (hpath : path ≠ [])
    (hdata : last Opt.data (getopts argv.tail) = some path) :
    ∃ ctx, rilInit file argv = .mainLoop { PortCtx.given (getopts argv.tail) with port := -1 } ctx ∧
      ctx.dataDevname.isSome = true := by
  have hgiven : (PortCtx.given (getopts argv.tail)).dataPath = some path := hdata
  obtain ⟨ctx, hctx, hdevname⟩ := initContext_eq_some file hpath hgiven
  refine ⟨ctx, ?_, hdevname⟩
  rw [rilInit_started file h hstarts, hctx]
  rfl

end Exits

theorem isSocket_of_last {opts : List Opt} {path : CString}
    (h : last Opt.control opts = some (path, true)) : opts.any Opt.isSocket = true := by
  obtain ⟨opt, hopt, hcontrol⟩ := List.mem_filterMap.mp (List.mem_of_getLast? h)
  refine List.any_eq_true.mpr ⟨opt, hopt, ?_⟩
  cases opt <;> simp_all [Opt.control, Opt.isSocket]

theorem not_refused_of_control {opts : List Opt} (h : opts.any Opt.rejected = false)
    (hcontrol : last Opt.control opts ≠ none) : ¬ Refused opts := by
  rintro (⟨opt, hopt, hrejected⟩ | ⟨-, hnone⟩)
  · exact absurd (List.any_eq_true.mpr ⟨opt, hopt, hrejected⟩) (by simp [h])
  · exact hcontrol hnone

section Survival
variable (file : Option (List CString)) {argv : List CString}

/-- Options without a port are let through, because the context was zeroed. -/
theorem not_refused_of_asked (h : (getopts argv.tail).any Opt.rejected = false)
    (hasked : LaunchedAsAsked (getopts argv.tail) (rilInit file argv)) :
    ¬ Refused (getopts argv.tail) := by
  intro hrefused
  have hnull := hasked.refused hrefused
  rcases hrefused with ⟨opt, hopt, hrejected⟩ | ⟨hport, -⟩
  · exact absurd (List.any_eq_true.mpr ⟨opt, hopt, hrejected⟩) (by simp [h])
  · have hstarts : Starts (getopts argv.tail) := .inl (by simp [PortCtx.given, hport])
    rw [rilInit_started file h hstarts] at hnull
    cases hcontext : initContext file (.given (getopts argv.tail)) <;> simp [hcontext] at hnull

theorem survives_of_asked (h : (getopts argv.tail).any Opt.rejected = false)
    (hasked : LaunchedAsAsked (getopts argv.tail) (rilInit file argv)) :
    Survives (getopts argv.tail) := by
  have hrefused := not_refused_of_asked file h hasked
  obtain ⟨ports, ctx, hlaunch, hport, hpath, hsocket, -⟩ := hasked.started hrefused
  have hstarts : Starts (getopts argv.tail) := by
    by_contra hnot
    rw [rilInit_null file h hnot] at hlaunch
    cases hlaunch
  have hdata : ∃ path, path ≠ [] ∧ last Opt.data (getopts argv.tail) = some path := by
    by_contra hnot
    rw [rilInit_undefined file h hstarts hnot] at hlaunch
    cases hlaunch
  obtain ⟨data, hne, hlast⟩ := hdata
  obtain ⟨ctx', hmain, -⟩ := rilInit_mainLoop file h hstarts hne hlast
  rw [hmain] at hlaunch
  obtain ⟨rfl, -⟩ := Launch.mainLoop.inj hlaunch
  refine ⟨hport.symm, ?_, data, hne, hlast⟩
  cases hcontrol : last Opt.control (getopts argv.tail) with
  | none =>
    have hnumber : last Opt.port (getopts argv.tail) = some (-1) := by
      cases hsome : last Opt.port (getopts argv.tail) with
      | none => exact absurd (.inr ⟨hsome, hcontrol⟩) hrefused
      | some n => simpa [hsome, eq_comm] using hport
    exact absurd hstarts (by simp [Starts, PortCtx.given, hnumber, hcontrol])
  | some control =>
    refine ⟨control.1, control.2, rfl, ?_⟩
    have hany : (getopts argv.tail).any Opt.isSocket = control.2 := by
      simpa [PortCtx.given, hcontrol] using hsocket
    rw [hany]
    exact Bool.eq_false_or_eq_true _

theorem asked_of_survives (h : (getopts argv.tail).any Opt.rejected = false)
    (hsurvives : Survives (getopts argv.tail)) :
    LaunchedAsAsked (getopts argv.tail) (rilInit file argv) := by
  obtain ⟨path, socket, hcontrol, hsocket⟩ := hsurvives.control
  obtain ⟨data, hne, hlast⟩ := hsurvives.data
  have hstarts : Starts (getopts argv.tail) := .inr (by simp [PortCtx.given, hcontrol])
  obtain ⟨ctx, hmain, hdevname⟩ := rilInit_mainLoop file h hstarts hne hlast
  have hrefused : ¬ Refused (getopts argv.tail) :=
    not_refused_of_control h (by simp [hcontrol])
  have hany : (getopts argv.tail).any Opt.isSocket = socket := by
    cases socket with
    | true => exact isSocket_of_last hcontrol
    | false => simpa using hsocket
  constructor
  · intro hrefuse
    exact absurd hrefuse hrefused
  · intro _
    exact ⟨_, ctx, hmain, hsurvives.port.symm, rfl, by simp [PortCtx.given, hany, hcontrol],
      hdevname⟩

end Survival

/-- Which options survive the three stages. -/
theorem options_survive_launch_iff (file : Option (List CString)) (argv : List CString) :
    LaunchedAsAsked (getopts argv.tail) (rilInit file argv) ↔
      (getopts argv.tail).any Opt.rejected = true ∨ Survives (getopts argv.tail) := by
  cases h : (getopts argv.tail).any Opt.rejected with
  | true =>
    obtain ⟨opt, hopt, hrejected⟩ := List.any_eq_true.mp h
    have hrefused : Refused (getopts argv.tail) := .inl ⟨opt, hopt, hrejected⟩
    have hnull := rilInit_rejected file h
    simp only [true_or, iff_true]
    exact ⟨fun _ => hnull, fun hnot => absurd hrefused hnot⟩
  | false =>
    simp only [Bool.false_eq_true, false_or]
    exact ⟨survives_of_asked file h, asked_of_survives file h⟩

/-- The loopback port that was asked for is forgotten, and nothing is opened. -/
theorem options_survive_launch_loopback :
    let argv := [ascii "rild", ascii "-p", ascii "5555", ascii "-d", ascii "/dev/ttyUSB0"]
    let ports : PortCtx := ⟨-1, none, some (ascii "/dev/ttyUSB0"), false⟩
    rilInit none argv = .mainLoop ports (initSessionContext (some (ascii "ttyUSB0")) 0) ∧
      atPort ports = none ∧ ¬ LaunchedAsAsked (getopts argv.tail) (rilInit none argv) := by
  intro argv ports
  have hlaunch : rilInit none argv =
      .mainLoop ports (initSessionContext (some (ascii "ttyUSB0")) 0) := by decide +kernel
  have hopts : getopts argv.tail = [.p (ascii "5555"), .d (ascii "/dev/ttyUSB0")] := by
    decide +kernel
  have hport : last Opt.port (getopts argv.tail) = some 5555 := by
    rw [hopts]
    decide +kernel
  have hrefused : ¬ Refused (getopts argv.tail) := by
    rintro (⟨opt, hopt, hrejected⟩ | ⟨hnone, -⟩)
    · rw [hopts] at hopt
      have hall : ∀ opt ∈ [Opt.p (ascii "5555"), .d (ascii "/dev/ttyUSB0")], opt.rejected = false := by
        decide +kernel
      simp [hall opt hopt] at hrejected
    · simp [hport] at hnone
  refine ⟨hlaunch, by decide, ?_⟩
  intro hasked
  obtain ⟨ports', ctx, hlaunch', hkept, -⟩ := hasked.started hrefused
  rw [hlaunch] at hlaunch'
  obtain ⟨rfl, -⟩ := Launch.mainLoop.inj hlaunch'
  rw [hport] at hkept
  exact absurd hkept (by decide)

/-- No options make `mainLoop` open a loopback port. -/
theorem loopback_never_opened {file : Option (List CString)} {argv : List CString}
    {ports : PortCtx} {ctx : SessionCtx} (h : rilInit file argv = .mainLoop ports ctx) (port : ℤ) :
    atPort ports ≠ some (.loopback port) := by
  have hport : ports.port = -1 := by
    cases hrejected : (getopts argv.tail).any Opt.rejected with
    | true =>
      rw [rilInit_rejected file hrejected] at h
      cases h
    | false =>
      by_cases hstarts : Starts (getopts argv.tail)
      · rw [rilInit_started file hrejected hstarts] at h
        cases hcontext : initContext file (.given (getopts argv.tail)) with
        | none => simp [hcontext] at h
        | some context =>
          rw [hcontext] at h
          obtain ⟨rfl, -⟩ := Launch.mainLoop.inj h
          exact initContext_port hcontext
      · rw [rilInit_null file hrejected hstarts] at h
        cases h
  intro hloopback
  unfold atPort at hloopback
  rw [if_neg (by omega)] at hloopback
  split at hloopback
  · cases hpath : ports.atctrlPath <;> simp [hpath] at hloopback
    split at hloopback <;> simp at hloopback
  · cases hpath : ports.atctrlPath <;> simp [hpath] at hloopback

end Fw100.Session
