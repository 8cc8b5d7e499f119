import InvocationHost.Backtrace.Frame
import InvocationHost.Taxonomy

/-! # Failures

A failure is what the host reports of an invocation that did not succeed: a tag, a message and, for a
panic, the handler's stack frames. That a failure comes from a panic is seen by its stack, which no
other failure has.
-/
namespace InvocationHost

structure Failure where
  tag : String
  message : String
  stack : List StackFrame := []
  deriving DecidableEq, Repr

namespace Failure

def ofHandler (message : String) : Failure := { tag := Tag.handlerError, message }

def ofInput (reason : String) : Failure :=
  { tag := Tag.unmarshalError, message := "failed to unmarshal input: " ++ reason }

def ofOutput (reason : String) : Failure :=
  { tag := Tag.marshalError, message := "failed to marshal output: " ++ reason }

def isPanic (f : Failure) : Bool := !f.stack.isEmpty

def render (f : Failure) : String := f.tag ++ ": " ++ f.message

/-- One frame a line. -/
def renderStack (f : Failure) : String := "\n".intercalate (f.stack.map StackFrame.render)

end Failure
end InvocationHost
