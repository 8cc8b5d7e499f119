import InvocationHost.Failure.Basic
import InvocationHost.Json.Record
import InvocationHost.Json.Value

/-! # Failures on the wire

The body of a failure report. A failure without a stack has no member for it, and a body without one
is read as a failure without a stack.
-/
namespace InvocationHost
open Json

namespace StackFrame

def toValue (f : StackFrame) : Value :=
  .object [("path", .text f.path), ("line", .integer f.line.toNat), ("label", .text f.label)]

structure Draft where
  path : Option String := none
  line : Option UInt32 := none
  label : Option String := none

def record : Record Draft StackFrame where
  name := "StackFrame"
  fields :=
    [.of "path" true Draft.path (fun x d => { d with path := some x }) Decoder.text,
     .of "line" true Draft.line (fun x d => { d with line := some x }) Decoder.uint32,
     .of "label" true Draft.label (fun x d => { d with label := some x }) Decoder.text]
  blank := {}
  complete := fun d => do
    return ⟨← require "path" d.path,← require "line" d.line,← require "label" d.label⟩

end StackFrame

namespace Failure

def toValue (f : Failure) : Value :=
  .object ([("errorType", .text f.tag), ("errorMessage", .text f.message)] ++
    if f.stack.isEmpty then [] else [("stackTrace", .list (f.stack.map StackFrame.toValue))])

def toJson (f : Failure) : String := f.toValue.render

structure Draft where
  tag : Option String := none
  message : Option String := none
  stack : Option (List StackFrame) := none

def record : Record Draft Failure where
  name := "ErrorRecord"
  fields :=
    [.of "errorType" true Draft.tag (fun x d => { d with tag := some x }) Decoder.text,
     .of "errorMessage" true Draft.message (fun x d => { d with message := some x }) Decoder.text,
     .of "stackTrace" false Draft.stack (fun x d => { d with stack := some x })
      (Decoder.list StackFrame.record.decoder)]
  blank := {}
  complete := fun d => do
    return ⟨← require "errorType" d.tag,← require "errorMessage" d.message,d.stack.getD []⟩

def decode (doc : Document) : Except Fault Failure := doc.decode record.decoder

end Failure
end InvocationHost
