/-! # Characters of a byte sequence

`scan` cuts bytes into the characters that they encode in UTF-8. A byte that belongs to no character
stays as a stray, so that a reader meets it where it stands.
-/
namespace InvocationHost.Text

inductive Glyph
  | char (c : Char)
  | stray (b : UInt8)
  deriving DecidableEq, Repr

namespace Glyph

def char? : Glyph → Option Char
  | .char c => some c
  | .stray _ => none

/-- The number of bytes that encode the glyph. -/
def width : Glyph → Nat
  | .char c => c.utf8Size
  | .stray _ => 1

end Glyph

def glyphs (s : String) : List Glyph := s.toList.map Glyph.char

def isContinuation (b : UInt8) : Bool := 0x80 ≤ b && b ≤ 0xBF

def tailLength (lead : UInt8) : Nat :=
  if lead < 0x80 then 0 else if lead < 0xE0 then 1 else if lead < 0xF0 then 2 else 3

def tailBits (tail : List UInt8) : Nat := tail.foldl (fun n b => n * 64 + (b.toNat - 0x80)) 0

/-- The code point of a lead byte with its tail; only the shortest form of a code point counts. -/
def codePoint? (lead : UInt8) (tail : List UInt8) : Option Nat :=
  if tail.length != tailLength lead || !tail.all isContinuation then none
  else match tail.length with
    | 0 => some lead.toNat
    | 1 => if 0xC2 ≤ lead then some ((lead.toNat - 0xC0) * 64 + tailBits tail) else none
    | 2 =>
      let n := (lead.toNat - 0xE0) * 4096 + tailBits tail
      if 0x800 ≤ n && !(0xD800 ≤ n && n ≤ 0xDFFF) then some n else none
    | _ =>
      let n := (lead.toNat - 0xF0) * 262144 + tailBits tail
      if 0x10000 ≤ n && n ≤ 0x10FFFF then some n else none

/-- Skips the bytes that belong to the character before, then goes on with the next. -/
def scanFrom : Nat → List UInt8 → List Glyph
  | _, [] => []
  | n + 1, _ :: r => scanFrom n r
  | 0, b :: r =>
    match codePoint? b (r.take (tailLength b)) with
    | some n => .char (Char.ofNat n) :: scanFrom (tailLength b) r
    | none => .stray b :: scanFrom 0 r

def scan (bytes : List UInt8) : List Glyph := scanFrom 0 bytes

/-- The text of a byte sequence that is valid UTF-8 throughout. -/
def decodeUtf8? (bytes : List UInt8) : Option String :=
  ((scan bytes).mapM Glyph.char?).map String.ofList

end InvocationHost.Text
