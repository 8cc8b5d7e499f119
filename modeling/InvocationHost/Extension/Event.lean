import InvocationHost.Deadline
import InvocationHost.Json.Record
import InvocationHost.Json.Value

/-! # Lifecycle events on the wire

Extensions register for kinds of events and then receive events one at a time. A kind that is not
known is kept as it was written.
-/
namespace InvocationHost.Extension
open Json

inductive EventKind
  | invoke
  | shutdown
  | other (name : String)
  deriving DecidableEq, Repr

namespace EventKind

def name : EventKind → String
  | .invoke => "INVOKE"
  | .shutdown => "SHUTDOWN"
  | .other name => name

def ofName (s : String) : EventKind :=
  if s = "INVOKE" then .invoke else if s = "SHUTDOWN" then .shutdown else .other s

def toValue (k : EventKind) : Value := .text k.name

def decoder : Decoder EventKind := Decoder.map ofName Decoder.text

theorem name_ofName (s : String) : (ofName s).name = s := by
  unfold ofName
  split
  · next h => exact h.symm
  · split
    · next h => exact h.symm
    · rfl

end EventKind

/-- The body of a registration. -/
structure Registration where
  events : List EventKind
  deriving DecidableEq, Repr

namespace Registration

def toValue (r : Registration) : Value :=
  .object [("events", .list (r.events.map EventKind.toValue))]

def toJson (r : Registration) : String := r.toValue.render

def record : Record (Option (List EventKind)) Registration where
  name := "RegisterRequest"
  fields := [.of "events" true id (fun x _ => some x) (Decoder.list EventKind.decoder)]
  blank := none
  complete := fun d => do return ⟨← require "events" d⟩

def decode (doc : Document) : Except Fault Registration := doc.decode record.decoder

end Registration

structure Tracing where
  kind : String
  value : String
  deriving DecidableEq, Repr

namespace Tracing

structure Draft where
  kind : Option String := none
  value : Option String := none

def toValue (t : Tracing) : Value := .object [("type", .text t.kind), ("value", .text t.value)]

def record : Record Draft Tracing where
  name := "Tracing"
  fields :=
    [.of "type" false Draft.kind (fun x d => { d with kind := some x }) Decoder.text,
     .of "value" false Draft.value (fun x d => { d with value := some x }) Decoder.text]
  blank := {}
  complete := fun d => .ok ⟨d.kind.getD "",d.value.getD ""⟩

end Tracing

structure Event where
  kind : EventKind
  deadlineMs : Int64 := 0
  requestId : Option String := none
  functionArn : Option String := none
  shutdownReason : Option String := none
  tracing : Option Tracing := none
  deriving DecidableEq, Repr

namespace Event

/-- The deadline, if the event carries one. -/
def deadline? (e : Event) : Option Deadline :=
  if 0 < e.deadlineMs.toInt then some ⟨e.deadlineMs.toInt.toNat⟩ else none

def optionalMember (key : String) (v : Option Value) : List (String × Value) :=
  (v.map fun v => (key, v)).toList

def toValue (e : Event) : Value :=
  .object ([("eventType", e.kind.toValue), ("deadlineMs", .integer e.deadlineMs.toInt)] ++
    optionalMember "requestId" (e.requestId.map .text) ++
    optionalMember "invokedFunctionArn" (e.functionArn.map .text) ++
    optionalMember "shutdownReason" (e.shutdownReason.map .text) ++
    optionalMember "tracing" (e.tracing.map Tracing.toValue))

def toJson (e : Event) : String := e.toValue.render

structure Draft where
  kind : Option EventKind := none
  deadlineMs : Option Int64 := none
  requestId : Option (Option String) := none
  functionArn : Option (Option String) := none
  shutdownReason : Option (Option String) := none
  tracing : Option (Option Tracing) := none

def record : Record Draft Event where
  name := "ExtensionEvent"
  fields :=
    [.of "eventType" true Draft.kind (fun x d => { d with kind := some x }) EventKind.decoder,
     .of "deadlineMs" false Draft.deadlineMs (fun x d => { d with deadlineMs := some x })
      Decoder.int64,
     .of "requestId" false Draft.requestId (fun x d => { d with requestId := some x })
      (Decoder.optional Decoder.text),
     .of "invokedFunctionArn" false Draft.functionArn (fun x d => { d with functionArn := some x })
      (Decoder.optional Decoder.text),
     .of "shutdownReason" false Draft.shutdownReason (fun x d => { d with shutdownReason := some x })
      (Decoder.optional Decoder.text),
     .of "tracing" false Draft.tracing (fun x d => { d with tracing := some x })
      (Decoder.optional Tracing.record.decoder)]
  blank := {}
  complete := fun d => do
    return {
      kind := ← require "eventType" d.kind
      deadlineMs := d.deadlineMs.getD 0
      requestId := d.requestId.join
      functionArn := d.functionArn.join
      shutdownReason := d.shutdownReason.join
      tracing := d.tracing.join }

def decode (doc : Document) : Except Fault Event := doc.decode record.decoder

end Event
end InvocationHost.Extension
