import InvocationHost.Http.Message
import InvocationHost.Invocation
import InvocationHost.Log.Event

/-! # What the host does

The activities by which the host can be observed, apart from the event loops of its extensions.
-/
namespace InvocationHost

inductive Activity
  | request (r : Http.Request)
  | call (ctx : Context)
  | log (e : Log.Event)
  | init (extension : String)
  | terminate (extension : String) (deadline : Deadline)
  | terminated (extension : String)
  deriving DecidableEq, Repr

end InvocationHost
