/-! # Log events

A log event has a level, the target it is about, a message and fields. A field belongs to the event
even where it has no value; it is not shown then.
-/
namespace InvocationHost.Log

inductive Level
  | trace
  | debug
  | info
  | warn
  | error
  deriving DecidableEq, Repr

namespace Level

def name : Level → String
  | .trace => "TRACE"
  | .debug => "DEBUG"
  | .info => "INFO"
  | .warn => "WARN"
  | .error => "ERROR"

/-- The more severe a level, the smaller its rank. -/
def rank : Level → Nat
  | .error => 1
  | .warn => 2
  | .info => 3
  | .debug => 4
  | .trace => 5

end Level

/-- A field by its name, with its value where it has one. -/
abbrev Field := String × Option String

structure Event where
  level : Level
  target : String
  message : String
  fields : List Field := []
  deriving DecidableEq, Repr

namespace Event

def messageField : String := "message"

def hasField (e : Event) (name : String) : Bool :=
  name = messageField || e.fields.any (·.1 = name)

/-- The fields that are shown, the message apart. -/
def shown (e : Event) : List (String × String) :=
  e.fields.filterMap fun f => f.2.map fun value => (f.1, value)

end Event

end InvocationHost.Log
