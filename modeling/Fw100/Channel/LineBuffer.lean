import Fw100.Library.Overwrite
import Fw100.Text.CString

/-!
# The input buffer of the AT channel and `readline`

`s_ATBuffer`, `s_ATBufferCur` and the loop of `readline` at the level of the
array cells. Stale cells are kept: a line handed out is a NUL written into the
array and a moved cursor, nothing is erased. The environment is the list of
results the successive `read` calls on the descriptor return.
-/
namespace Fw100.Channel
open Library Text

def maxAtResponse : ℕ := 8 * 1024

/-- `s_ATBuffer` with its cursor. `fill` is the value of `p_read`: the index of
the NUL that terminates the data received so far. -/
structure AtBuffer where
  cells : List UInt8
  cur : ℕ
  fill : ℕ
  cells_length : cells.length = maxAtResponse + 1

def AtBuffer.initial : AtBuffer where
  cells := List.replicate (maxAtResponse + 1) 0
  cur := 0
  fill := 0
  cells_length := List.length_replicate

namespace AtBuffer

def rest (b : AtBuffer) : List UInt8 := b.cells.drop b.cur

def here (b : AtBuffer) : UInt8 := b.rest.headD 0

def reset (b : AtBuffer) : AtBuffer where
  cells := b.cells.set 0 0
  cur := 0
  fill := 0
  cells_length := by simp [b.cells_length]

def skipNewlines (b : AtBuffer) : AtBuffer :=
  { b with cur := b.cur + (b.rest.takeWhile isNewline).length }

/-- The `memmove` of a partial line, with its terminator, to the array's start. -/
def compact (b : AtBuffer) : AtBuffer where
  cells := overwrite 0 (b.rest.take ((cstr b.rest).length + 1)) b.cells
  cur := 0
  fill := (cstr b.rest).length
  cells_length := by simp [b.cells_length]

def store (b : AtBuffer) (chunk : List UInt8) : AtBuffer where
  cells := overwrite b.fill (chunk ++ [0]) b.cells
  cur := b.cur
  fill := b.fill + chunk.length
  cells_length := by simp [b.cells_length]

/-- `*p_eol = '\0'; s_ATBufferCur = p_eol + 1` for the end of line `k` cells ahead. -/
def cut (b : AtBuffer) (k : ℕ) : AtBuffer where
  cells := b.cells.set (b.cur + k) 0
  cur := b.cur + k + 1
  fill := b.fill
  cells_length := by simp [b.cells_length]

@[simp] theorem skipNewlines_cells (b : AtBuffer) : b.skipNewlines.cells = b.cells := rfl
@[simp] theorem skipNewlines_fill (b : AtBuffer) : b.skipNewlines.fill = b.fill := rfl
@[simp] theorem skipNewlines_cur (b : AtBuffer) :
    b.skipNewlines.cur = b.cur + (b.rest.takeWhile isNewline).length := rfl
@[simp] theorem compact_cells (b : AtBuffer) :
    b.compact.cells = overwrite 0 (b.rest.take ((cstr b.rest).length + 1)) b.cells := rfl
@[simp] theorem compact_fill (b : AtBuffer) : b.compact.fill = (cstr b.rest).length := rfl
@[simp] theorem store_cells (b : AtBuffer) (chunk : List UInt8) :
    (b.store chunk).cells = overwrite b.fill (chunk ++ [0]) b.cells := rfl
@[simp] theorem store_fill (b : AtBuffer) (chunk : List UInt8) :
    (b.store chunk).fill = b.fill + chunk.length := rfl
@[simp] theorem cut_cells (b : AtBuffer) (k : ℕ) : (b.cut k).cells = b.cells.set (b.cur + k) 0 := rfl
@[simp] theorem cut_cur (b : AtBuffer) (k : ℕ) : (b.cut k).cur = b.cur + k + 1 := rfl
@[simp] theorem cut_fill (b : AtBuffer) (k : ℕ) : (b.cut k).fill = b.fill := rfl

end AtBuffer

/-- The test of the SMS prompt, which no carriage return terminates. -/
def atPrompt (cells : List UInt8) : Bool :=
  cells.getD 0 0 == 62 && cells.getD 1 0 == 32 && cells.getD 2 0 == 0

/-- `findNextEOL` on the cells from the cursor on, as an offset. -/
def findNextEOL (cells : List UInt8) : Option ℕ :=
  if atPrompt cells then some 2
  else
    let k := (cells.takeWhile (fun c => c != 0 && !isNewline c)).length
    if cells.getD k 0 == 0 then none else some k

namespace AtBuffer

/-- Skip newlines and look for a complete line. A line found is cut off with a
NUL over its end and the cursor moves behind that NUL. -/
def look (b : AtBuffer) : Option CString × AtBuffer :=
  let b := b.skipNewlines
  match findNextEOL b.rest with
  | none => (none, b)
  | some k => (some (cstr ((b.cut k).cells.drop b.cur)), b.cut k)

end AtBuffer

/-- What one `read` on the descriptor returns. No data is end of file. -/
inductive ReadResult where
  | data (bytes : List UInt8)
  | eintr
  | error
deriving DecidableEq, Repr

/-- `read(s_fd, p_read, n)`. It never delivers more than `n` bytes; what did not
fit stays for the next call. -/
def sysRead (n : ℕ) : List ReadResult → ReadResult × List ReadResult
  | [] => (.data [], [])
  | .data c :: rs =>
    if c.length ≤ n then (.data c, rs) else (.data (c.take n), .data (c.drop n) :: rs)
  | r :: rs => (r, rs)

def ReadResult.bytes : ReadResult → List UInt8
  | .data c => c
  | .eintr => []
  | .error => []

def streamBytes (rs : List ReadResult) : List UInt8 := rs.flatMap ReadResult.bytes

/-- A bound on the number of `read` calls that the environment can answer. -/
def readFuel (rs : List ReadResult) : ℕ := (rs.map (fun r => r.bytes.length + 1)).sum + 1

/-- The `while (p_eol == NULL)` loop: read more until a line is complete. The
interrupted calls of the inner loop are simply repeated. -/
def readLoop : ℕ → AtBuffer → List ReadResult → Option CString × AtBuffer × List ReadResult
  | 0, b, rs => (none, b, rs)
  | fuel + 1, b, rs =>
    let b := if b.fill = maxAtResponse then b.reset else b
    match sysRead (maxAtResponse - b.fill) rs with
    | (.eintr, rs) => readLoop fuel b rs
    | (.error, rs) => (none, b, rs)
    | (.data [], rs) => (none, b, rs)
    | (.data (a :: c), rs) =>
      match (b.store (a :: c)).look with
      | (some line, b) => (some line, b, rs)
      | (none, b) => readLoop fuel b rs

def readline (b : AtBuffer) (rs : List ReadResult) : Option CString × AtBuffer × List ReadResult :=
  if b.here == 0 then readLoop (readFuel rs) b.reset rs
  else
    match b.look with
    | (some line, b) => (some line, b, rs)
    | (none, b) => readLoop (readFuel rs) b.compact rs

def readlineCalls : ℕ → AtBuffer → List ReadResult →
    List (Option CString) × AtBuffer × List ReadResult
  | 0, b, rs => ([], b, rs)
  | n + 1, b, rs =>
    let (line, b, rs) := readline b rs
    let (lines, b, rs) := readlineCalls n b rs
    (line :: lines, b, rs)

end Fw100.Channel
