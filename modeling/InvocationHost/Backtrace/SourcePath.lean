import InvocationHost.Text.Cut

/-! # Source paths, shortened to the crate

A path is kept from the directory that holds its last `src`; a path without one is kept as its file
name. Both slashes separate components, and a repeated slash or a `.` adds none.
-/
namespace InvocationHost.SourcePath
open Text

def isSlash (c : Char) : Bool := c = '/' || c = '\\'

def components (path : List Char) : List (List Char) :=
  (pieces isSlash path).filter fun p => !(p.isEmpty || p == ['.'])

def src : List Char := "src".toList

/-- From one component before the last `src` on, or the last component alone. -/
def fromCrate (cs : List (List Char)) : List (List Char) :=
  match cs.reverse.dropWhile (· ≠ src) with
  | [] => cs.getLast?.toList
  | s :: before => before.head?.toList ++ s :: (cs.reverse.takeWhile (· ≠ src)).reverse

def join (cs : List (List Char)) : List Char := ['/'].intercalate cs

def minimal (path : String) : String := String.ofList (join (fromCrate (components path.toList)))

end InvocationHost.SourcePath
