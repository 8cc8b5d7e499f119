import InvocationHost.Text.Blank
import InvocationHost.Text.Numeral
import InvocationHost.Backtrace.Frame

/-! # Reading a backtrace

A numbered line starts a frame, a line without a number names a function inlined into the frame
before it, and a line `at …` places the symbol above it. Blank lines and notes say nothing.
-/
namespace InvocationHost.Backtrace
open Text

/-- A place is `path:line:column` or `path:line`, read from the right; else it is a path alone. -/
def readLocation (place : List Char) : List Char × UInt32 :=
  match cutLast [':'] place with
  | none => (place, 0)
  | some (front, last) =>
    let inner := (cutLast [':'] front).bind fun p =>
      (readUInt32 p.2).toOption.map fun line => (p.1, line)
    let outer := (readUInt32 last).toOption.map fun line => (front, line)
    (inner.or outer).getD (place, 0)

/-- The symbol of a numbered line. -/
def numbered? (line : List Char) : Option (List Char) :=
  match cutFirst ": ".toList line with
  | some (index, symbol) => if !index.isEmpty && index.all Char.isDigit then some (trim symbol) else none
  | none => none

/-- Places a frame, unless it has a place already. -/
def place (f : RawFrame) (location : List Char) : RawFrame :=
  match f.file with
  | some _ => f
  | none =>
    let (file, line) := readLocation location
    { f with file := some (String.ofList file), line }

/-- Frames read so far, the latest first, after one more line. -/
def readLine (frames : List RawFrame) (line : List Char) : List RawFrame :=
  let line := trim line
  if line.isEmpty || startsWith "note:".toList line then frames
  else match after? "at ".toList line with
    | some location =>
      match frames with
      | [] => []
      | f :: rest => place f location :: rest
    | none =>
      match numbered? line with
      | some symbol => { symbol := String.ofList symbol } :: frames
      | none => if frames.isEmpty then [] else { symbol := String.ofList line } :: frames

def readFrames (rendered : String) : List RawFrame :=
  ((pieces (· = '\n') rendered.toList).foldl readLine []).reverse

end InvocationHost.Backtrace
