/-! # Values that a panic carries

A panic carries one value of any type. Its type is known by identity; only texts can be read. Two
types of one name are still two types.
-/
namespace InvocationHost.Panic

inductive ValueType
  | borrowedText
  | ownedText
  | other (identity : Nat) (name : String)
  deriving DecidableEq, Repr

def ValueType.name : ValueType → String
  | .borrowedText => "&str"
  | .ownedText => "alloc::string::String"
  | .other _ name => name

inductive Payload
  | borrowedText (text : String)
  | ownedText (text : String)
  | other (identity : Nat) (name : String)
  deriving DecidableEq, Repr

namespace Payload

def type : Payload → ValueType
  | .borrowedText _ => .borrowedText
  | .ownedText _ => .ownedText
  | .other identity name => .other identity name

def isText : Payload → Bool
  | .other .. => false
  | _ => true

/-- The text of the panic; a value that is no text shows only that there is one. -/
def message : Payload → String
  | .borrowedText text => text
  | .ownedText text => text
  | .other .. => "Box<dyn Any>"

end Payload
end InvocationHost.Panic
