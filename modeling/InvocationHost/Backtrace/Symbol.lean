import InvocationHost.Text.Cut

/-! # Symbols of stack frames

A symbol is the path of a function, or the form `<T as Trait>::method` of a method of an impl. `label`
is the form for reports: without the hash at the end and without the crate at the front.
-/
namespace InvocationHost.Symbol
open Text

def isHexDigit (c : Char) : Bool :=
  c.isDigit || ('a' ≤ c && c ≤ 'f') || ('A' ≤ c && c ≤ 'F')

def isHash (s : List Char) : Bool := s.length == 16 && s.all isHexDigit

def hashMark : List Char := "::h".toList

def withoutHash (symbol : List Char) : List Char :=
  match cutLast hashMark symbol with
  | some (front, hash) => if isHash hash then front else symbol
  | none => symbol

def isQualified (symbol : List Char) : Bool := symbol.head? == some '<'

def withoutCrate (symbol : List Char) : List Char :=
  if isQualified symbol then symbol
  else match cutFirst "::".toList symbol with
    | some (_, []) => symbol
    | some (_, rest) => rest
    | none => symbol

def label (symbol : String) : String :=
  String.ofList (withoutCrate (withoutHash symbol.toList))

def startsWithAny (marks : List String) (s : List Char) : Bool :=
  marks.any fun m => startsWith m.toList s

def dropOpening (s : List Char) : List Char := s.dropWhile (· = '<')

/-- The trait of a symbol `<T as Trait>::method`, as far as the first ` as ` shows it. -/
def trait? (symbol : List Char) : Option (List Char) :=
  if isQualified symbol then
    (cutFirst " as ".toList (dropOpening symbol)).map fun p => dropOpening p.2
  else none

/-- A symbol of one of the given path starts, or a method of an impl of a trait of one. -/
def belongsTo (starts : List String) (symbol : String) : Bool :=
  startsWithAny starts (dropOpening symbol.toList) ||
    (trait? symbol.toList).any (startsWithAny starts)

end InvocationHost.Symbol
