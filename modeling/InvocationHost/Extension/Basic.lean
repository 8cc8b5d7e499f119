import InvocationHost.Extension.Event
import InvocationHost.Text.Quoted

/-! # Extensions

An extension lives inside the host. It may have a hook that runs once before it registers, a hook for
every invoke event, and a hook for the end; supplying the second subscribes to invoke events.
-/
namespace InvocationHost

/-- An extension, with what its init hook comes to; of the other hooks, whether it has them. -/
structure Extension where
  name : String
  init : Option (Except String Unit) := none
  onInvoke : Bool := false
  onTermination : Bool := false

namespace Extension

def events (e : Extension) : List EventKind := if e.onInvoke then [.invoke] else []

def render (e : Extension) : String :=
  let hooks := s!"init: {e.init.isSome}, invoke: {e.onInvoke}, sigterm: {e.onTermination}"
  "InternalExtension \x7b name: " ++ Text.quoted e.name ++ ", " ++ hooks ++ " \x7d"

/-- The time that all termination hooks have together, in milliseconds. -/
def shutdownBudget : Nat := 500

def logTarget : String := "ferrule_engine::extension"

end Extension
end InvocationHost
