import InvocationHost.HostError
import InvocationHost.Text.Blank

/-! # The environment of the host

The platform tells the host by environment variables where the control plane is and which function it
serves. A variable that is blank counts as not set.
-/
namespace InvocationHost

structure Environment where
  address : String
  functionName : Option String := none
  functionVersion : Option String := none
  deriving DecidableEq, Repr

namespace Environment

def addressVariable : String := "AWS_LAMBDA_RUNTIME_API"
def functionNameVariable : String := "AWS_LAMBDA_FUNCTION_NAME"
def functionVersionVariable : String := "AWS_LAMBDA_FUNCTION_VERSION"

def read (lookup : String → Option String) : Except HostError Environment :=
  let given (key : String) := (lookup key).filter (!Text.isAllBlank ·)
  match given addressVariable with
  | some address =>
    .ok ⟨address,given functionNameVariable,given functionVersionVariable⟩
  | none => .error .missingAddress

end Environment
end InvocationHost
