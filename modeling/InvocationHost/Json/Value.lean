import InvocationHost.Json.Dictionary

/-! # Values

A value is any JSON document. The members of a decoded object are in the order of their keys; `render`
writes a value without blanks.
-/
namespace InvocationHost.Json

inductive Value
  | null
  | bool (b : Bool)
  | number (n : Number)
  | text (s : String)
  | list (items : List Value)
  | object (members : List (String × Value))
  deriving Repr

namespace Value

def integer (n : Int) : Value := .number (.integer n)

def hexPair (n : Nat) : List Char := [Nat.digitChar (n / 16), Nat.digitChar (n % 16)]

def escapeChar : Char → List Char
  | '"' => ['\\', '"']
  | '\\' => ['\\', '\\']
  | '\x08' => ['\\', 'b']
  | '\t' => ['\\', 't']
  | '\n' => ['\\', 'n']
  | '\x0c' => ['\\', 'f']
  | '\r' => ['\\', 'r']
  | c => if c.toNat < 0x20 then ['\\', 'u', '0', '0'] ++ hexPair c.toNat else [c]

def renderText (s : String) : List Char := '"' :: s.toList.flatMap escapeChar ++ ['"']

mutual
def chars : Value → List Char
  | .null => "null".toList
  | .bool b => (if b then "true" else "false").toList
  | .number n => n.render.toList
  | .text s => renderText s
  | .list items => '[' :: itemChars items ++ [']']
  | .object members => '\x7b' :: memberChars members ++ ['\x7d']

def itemChars : List Value → List Char
  | [] => []
  | [v] => chars v
  | v :: vs => chars v ++ ',' :: itemChars vs

def memberChars : List (String × Value) → List Char
  | [] => []
  | [(k, v)] => renderText k ++ ':' :: chars v
  | (k, v) :: ms => renderText k ++ ':' :: chars v ++ ',' :: memberChars ms
end

def render (v : Value) : String := String.ofList v.chars

mutual
/-- Reads any value. -/
def decode : Nat → Tree → Except Fault Value
  | _, .null _ => .ok .null
  | _, .bool _ b => .ok (.bool b)
  | _, .number _ n => n.map .number
  | _, .text _ s => s.map .text
  | depth, .list span items close => Decoder.deeper depth span fun inner => do
    let vs ← decodeItems inner items
    close.check
    return .list vs
  | depth, .object span members close => Decoder.deeper depth span fun inner => do
    let entries ← decodeMembers inner members
    close.check
    return .object (Dictionary.ofEntries entries)
  | _, .broken _ decoded _ => .error decoded

def decodeItems : Nat → List Tree → Except Fault (List Value)
  | _, [] => .ok []
  | depth, t :: ts => do
    let v ← decode depth t
    return v :: (← decodeItems depth ts)

def decodeMembers : Nat → List (MemberName × Tree) → Except Fault (List (String × Value))
  | _, [] => .ok []
  | depth, (name, t) :: ms => do
    let k ← name.text
    let v ← decode depth t
    return (k, v) :: (← decodeMembers depth ms)
end

def decoder : Decoder Value := decode

end Value
end InvocationHost.Json
