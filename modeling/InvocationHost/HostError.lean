import InvocationHost.Api.Transport
import InvocationHost.Failure.Basic
import InvocationHost.Invocation

/-! # What ends the host

Failures of single invocations are reported and never end the host, with one exception: after a panic
the process is not to be trusted with another invocation.
-/
namespace InvocationHost
open Api

inductive HostError
  | fetch (cause : TransportError)
  | report (cause : TransportError)
  | panicked (id : RequestId) (failure : Failure)
  | extensionInit (name reason : String)
  | extensionRegister (name : String) (cause : TransportError)
  | client (cause : TransportError)
  | signal (reason : String)
  | missingAddress
  deriving DecidableEq, Repr

namespace HostError

def message : HostError → String
  | .fetch cause => "failed to fetch next invocation: " ++ cause.message
  | .report cause => "failed to report invocation result: " ++ cause.message
  | .panicked id failure => s!"handler panicked while processing {id.text}: {failure.render}"
  | .extensionInit name reason => s!"extension {name} failed to initialize: {reason}"
  | .extensionRegister name cause => s!"extension {name} failed to register: {cause.message}"
  | .client cause => "failed to create control-plane client: " ++ cause.message
  | .signal reason => "failed to install termination signal handler: " ++ reason
  | .missingAddress => "AWS_LAMBDA_RUNTIME_API is not set"

def causes : HostError → List String
  | .fetch cause => cause.chain
  | .report cause => cause.chain
  | .extensionInit _ reason => [reason]
  | .extensionRegister _ cause => cause.chain
  | .client cause => cause.chain
  | .signal reason => [reason]
  | .panicked .. => []
  | .missingAddress => []

/-- The message of the error, then those of its causes. -/
def chain (e : HostError) : List String := e.message :: e.causes

/-- The host ends because a handler panicked; that has been logged and reported by then. -/
def isFatalPanic : HostError → Bool
  | .panicked .. => true
  | _ => false

end HostError
end InvocationHost
