import InvocationHost.Json.Access
import InvocationHost.Panic.Program

/-! # Panics on demand

A value of JSON can ask for a panic: `kind` names the type of the payload, `text` is its text, and with
`resume` the panic unwinds without the hook. A `kind` that is not known stands for the empty tuple.
-/
namespace InvocationHost.Rehearsal
open Json Panic

namespace Explosion

/-- The types of payloads that are no texts, each under the name by which it is asked for. -/
def otherTypes : List (String × String) :=
  [("unit", "()"), ("u32", "u32"), ("i64", "i64"), ("fatal", "driver::handlers::Fatal"),
   ("order", "driver::handlers::OrderRejected"), ("generic", "driver::handlers::Generic<u8>"),
   ("box_str", "alloc::boxed::Box<str>"), ("vec_u8", "alloc::vec::Vec<u8>"), ("char", "char")]

def otherType? (kind : String) : Option (Nat × String) :=
  ((otherTypes.zipIdx).find? fun p => p.1.1 = kind).map fun p => (p.2, p.1.2)

def valueType? (kind : String) : Option ValueType :=
  if kind = "str" then some .borrowedText
  else if kind = "string" then some .ownedText
  else (otherType? kind).map fun p => .other p.1 p.2

def payload (kind text : String) : Payload :=
  if kind = "str" then .borrowedText text
  else if kind = "string" then .ownedText text
  else
    let (identity, name) := (otherType? kind).getD (0, "()")
    .other identity name

/-- What is said of an index that is not below the length. -/
def outOfBounds (length index : Nat) : String :=
  s!"index out of bounds: the len is {length} but the index is {index}"

/-- Where panics on demand happen; nothing is known of the frames there. -/
def site : Site := ⟨"","",0⟩

def formatted (text : String) : Eruption := ⟨.ownedText text,some site⟩

def eruption (v : Value) : Eruption :=
  let kind := v.textAt "kind"
  let payload :=
    if kind = "fmt" then .ownedText (v.textAt "text")
    else if kind = "index" then
      .ownedText (outOfBounds (v.naturalAt "len") (v.naturalAt "len" + v.naturalAt "over"))
    else payload kind (v.textAt "text")
  ⟨payload,if v.flagAt "resume" then none else some site⟩

end Explosion
end InvocationHost.Rehearsal
