import InvocationHost.Json.Value

/-! # Values to be written

What a handler returns is richer than JSON: maps may have keys of any kind, numbers may have no value,
and a part may refuse to be written. `toValue?` is the JSON for it, or the reason there is none.
-/
namespace InvocationHost.Json

inductive Key
  | text (s : String)
  | integer (n : Int)
  | bool (b : Bool)
  | char (c : Char)
  /-- A key that JSON has no text for. -/
  | unwritable
  deriving DecidableEq, Repr

inductive Data
  | null
  | bool (b : Bool)
  | integer (n : Int)
  | double (x : Option Decimal.Binary64)
  | char (c : Char)
  | text (s : String)
  | bytes (bs : List UInt8)
  | list (items : List Data)
  | map (entries : List (Key × Data))
  | refused (reason : String)
  | value (v : Value)

def keyReason : String := "key must be a string"

def Key.text? : Key → Except String String
  | .text s => .ok s
  | .integer n => .ok (toString n)
  | .bool b => .ok (toString b)
  | .char c => .ok (String.singleton c)
  | .unwritable => .error keyReason

namespace Data

mutual
/-- Numbers that are not finite are written as null, characters as texts, bytes as lists. -/
def toValue? : Data → Except String Value
  | .null => .ok .null
  | .bool b => .ok (.bool b)
  | .integer n => .ok (.integer n)
  | .double (some x) => .ok (.number (.double x))
  | .double none => .ok .null
  | .char c => .ok (.text (String.singleton c))
  | .text s => .ok (.text s)
  | .bytes bs => .ok (.list (bs.map fun b => .integer b.toNat))
  | .list items => (itemValues? items).map .list
  | .map entries => (entryValues? entries).map .object
  | .refused reason => .error reason
  | .value v => .ok v

def itemValues? : List Data → Except String (List Value)
  | [] => .ok []
  | d :: ds => do
    let v ← toValue? d
    return v :: (← itemValues? ds)

def entryValues? : List (Key × Data) → Except String (List (String × Value))
  | [] => .ok []
  | (k, d) :: es => do
    let key ← k.text?
    let v ← toValue? d
    return (key, v) :: (← entryValues? es)
end

def toJson? (d : Data) : Except String String := d.toValue?.map Value.render

end Data
end InvocationHost.Json
