import InvocationHost.Text.Cut

/-! # Request targets

The target of a request is what is left of a URL behind its host: a path without dot segments and
perhaps a query. Characters that may not stand there are written as their bytes in hexadecimal; the
fragment is not sent.
-/
namespace InvocationHost.Http
open Text

def percentByte (b : UInt8) : List Char :=
  ['%', (Nat.digitChar (b.toNat / 16)).toUpper, (Nat.digitChar (b.toNat % 16)).toUpper]

def percentChar (reserved : Char → Bool) (c : Char) : List Char :=
  if reserved c then (String.singleton c).toUTF8.toList.flatMap percentByte else [c]

def isInvisible (c : Char) : Bool := c.toNat < 0x20 || 0x7E < c.toNat

def isReservedInPath (c : Char) : Bool :=
  isInvisible c || [' ', '"', '#', '<', '>', '?', '\x60', '\x7b', '\x7d'].contains c

def isReservedInQuery (c : Char) : Bool :=
  isInvisible c || [' ', '"', '#', '<', '>', '\''].contains c

/-- The dots that a segment stands for, where each may be written as `%2e`. -/
def dots : List Char → Option Nat
  | [] => some 0
  | '.' :: r => (dots r).map (· + 1)
  | '%' :: '2' :: e :: r => if e = 'e' || e = 'E' then (dots r).map (· + 1) else none
  | _ => none

/-- The segments kept so far, the latest first, after one more. -/
def addSegment (kept : List (List Char)) (segment : List Char) (isLast : Bool) : List (List Char) :=
  match dots segment with
  | some 1 => if isLast then [] :: kept else kept
  | some 2 => if isLast then [] :: kept.tail else kept.tail
  | _ => segment.flatMap (percentChar isReservedInPath) :: kept

def resolve : List (List Char) → List (List Char) → List (List Char)
  | kept, [] => kept.reverse
  | kept, s :: rest => resolve (addSegment kept s rest.isEmpty) rest

def isSeparator (c : Char) : Bool := c = '/' || c = '\\'

def isIgnored (c : Char) : Bool := c = '\t' || c = '\n' || c = '\r'

/-- The target of the part of a URL that begins with the slash after the host. -/
def target (path : String) : String :=
  let sent := (path.toList.filter (!isIgnored ·)).takeWhile (· ≠ '#')
  let segments := (pieces isSeparator (sent.takeWhile (· ≠ '?'))).tail
  let query := sent.dropWhile (· ≠ '?')
  String.ofList <| (resolve [] segments).flatMap (fun s => '/' :: s) ++
    query.flatMap (percentChar isReservedInQuery)

end InvocationHost.Http
