import InvocationHost.Json.Value

/-! # Parts of a value by name

Reading a value whose members may be missing: a missing text is empty, a missing list has no items, a
missing number is zero and a missing flag is not set. Null counts as missing.
-/
namespace InvocationHost.Json.Value

def member? (v : Value) (key : String) : Option Value :=
  match v with
  | .object members =>
    match members.lookup key with
    | some .null => none
    | found => found
  | _ => none

/-- The member is there, be it null. -/
def hasMember (v : Value) (key : String) : Bool :=
  match v with
  | .object members => members.any (·.1 == key)
  | _ => false

def text? : Value → Option String
  | .text s => some s
  | _ => none

def integer? : Value → Option Int
  | .number (.integer n) => some n
  | _ => none

def textAt? (v : Value) (key : String) : Option String := (v.member? key).bind text?

def textAt (v : Value) (key : String) : String := (v.textAt? key).getD ""

def itemsAt (v : Value) (key : String) : List Value :=
  match v.member? key with
  | some (.list items) => items
  | _ => []

def membersAt (v : Value) (key : String) : List (String × Value) :=
  match v.member? key with
  | some (.object members) => members
  | _ => []

def naturalAt (v : Value) (key : String) : Nat :=
  (((v.member? key).bind integer?).map Int.toNat).getD 0

def flagAt (v : Value) (key : String) : Bool :=
  match v.member? key with
  | some (.bool b) => b
  | _ => false

end InvocationHost.Json.Value
