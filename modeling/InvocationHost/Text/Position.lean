import InvocationHost.Text.Utf8

/-! # Positions in a text

A position stands between two bytes of a text. It is told by its line, of which the first is one, and by
the number of bytes between it and the beginning of that line.
-/
namespace InvocationHost.Text

structure Position where
  line : Nat := 1
  column : Nat := 0
  deriving DecidableEq, Repr

namespace Position
variable (p : Position)

/-- Behind the first byte of a glyph. -/
def into (g : Glyph) : Position :=
  if g = .char '\n' then ⟨p.line + 1,0⟩ else ⟨p.line,p.column + 1⟩

/-- Behind all bytes of a glyph. -/
def past (g : Glyph) : Position :=
  if g = .char '\n' then ⟨p.line + 1,0⟩ else ⟨p.line,p.column + g.width⟩

def pastAll (gs : List Glyph) : Position := gs.foldl past p

/-- Behind so many bytes of what follows; they may end inside of a glyph. -/
def pastBytes (p : Position) : Nat → List Glyph → Position
  | 0, _ => p
  | _, [] => p
  | n + 1, g :: rest =>
    if n + 1 < g.width then ⟨p.line,p.column + (n + 1)⟩ else (p.past g).pastBytes (n + 1 - g.width) rest

/-- So many bytes before, on the same line. -/
def back (n : Nat) : Position := ⟨p.line,p.column - n⟩

end Position

/-- A part of a text. -/
structure Span where
  start : Position
  stop : Position
  deriving DecidableEq, Repr

/-- Behind the first byte of a part that does not begin with a line break. -/
def Span.head (s : Span) : Position := ⟨s.start.line,s.start.column + 1⟩

end InvocationHost.Text
