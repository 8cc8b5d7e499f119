import InvocationHost.Json.Data
import InvocationHost.Panic.Program

/-! # Handlers

A handler is a function from a decoded input to an output that can be written. The name of its error
type selects the tag under which its errors are reported. Any of its parts may panic. What an input is
decoded from and what an output is encoded as is up to the handler, and so is what it says of a payload
or an output that it cannot use.
-/
namespace InvocationHost
open Json Panic

structure Handler (ι ο ε : Type) where
  errorType : String
  /-- The input of a payload, or the reason it has none. -/
  decode : List UInt8 → Program (Except String ι)
  call : Context → ι → Program (Except ε ο)
  describe : ε → Program String
  /-- The output as JSON, or the reason it cannot be written. -/
  encode : ο → Program (Except String String)

/-- A handler with errors that are texts, for an input and an output of JSON that do not panic. -/
def Handler.ofFunction (errorType : String) (d : Decoder ι)
    (call : Context → ι → Program (Except String Data)) : Handler ι Data String where
  errorType := errorType
  decode := fun payload => .done (((Document.ofBytes payload).decode d).mapError Fault.message)
  call := call
  describe := .done
  encode := fun output => .done output.toJson?

end InvocationHost
