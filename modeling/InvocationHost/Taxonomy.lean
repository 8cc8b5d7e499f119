import InvocationHost.TypeName
import InvocationHost.Panic.Payload

/-! # Tags of failures

A failure is reported under a tag. Errors are tagged by the name of their type, panics by the type of
their payload; a taxonomy overrides the default for single types, and of two overrides for one type
the later counts.
-/
namespace InvocationHost
open Panic (ValueType Payload)

namespace Tag

def handlerError : String := "Runtime.HandlerError"
def unmarshalError : String := "Runtime.UnmarshalError"
def marshalError : String := "Runtime.MarshalError"
def unknown : String := "Runtime.Unknown"
def panic : String := "Runtime.Panic"
def textPanic : String := "Runtime.Panic.String"

def named (name : String) : String := "Runtime." ++ name

def namedPanic (name : String) : String := panic ++ "." ++ name

theorem namedPanic_eq (name : String) : namedPanic name = "Runtime.Panic." ++ name :=
  congrArg (· ++ name) (by decide : panic ++ "." = "Runtime.Panic.")

/-- The tag of an error type that nobody has overridden. -/
def ofTypeName (name : String) : String :=
  if TypeName.isText name || TypeName.isWrapper name then handlerError
  else if (TypeName.short name).isEmpty then unknown
  else named (TypeName.short name)

def ofPayload (payload : Payload) : String := if payload.isText then textPanic else panic

end Tag

/-- Overrides, the latest first. -/
structure Taxonomy where
  errorTags : List (String × String) := []
  panicTags : List (ValueType × String) := []
  deriving Repr

namespace Taxonomy

def overrideError (t : Taxonomy) (name tag : String) : Taxonomy :=
  { t with errorTags := (name, tag) :: t.errorTags }

def overridePanic (t : Taxonomy) (type : ValueType) (tag : String) : Taxonomy :=
  { t with panicTags := (type, tag) :: t.panicTags }

/-- Panics with a payload of this type are named after it. -/
def registerPanic (t : Taxonomy) (type : ValueType) : Taxonomy :=
  t.overridePanic type (Tag.namedPanic (TypeName.short type.name))

def errorTag (t : Taxonomy) (name : String) : String :=
  (t.errorTags.lookup name).getD (Tag.ofTypeName name)

def panicTag (t : Taxonomy) (payload : Payload) : String :=
  (t.panicTags.lookup payload.type).getD (Tag.ofPayload payload)

end Taxonomy
end InvocationHost
