import InvocationHost.Http.Message
import InvocationHost.Http.Status
import InvocationHost.Json.Fault
import InvocationHost.Log.Event

/-! # Calls to the control plane

A call is a request together with a verdict on what the request meets. Nothing is tried twice: each
fault is the call's result, and the caller decides what it means.
-/
namespace InvocationHost.Api
open Http

inductive Operation
  | next
  | response
  | error
  | register
  | nextEvent
  deriving DecidableEq, Repr

def Operation.name : Operation → String
  | .next => "next"
  | .response => "response"
  | .error => "error"
  | .register => "register"
  | .nextEvent => "event/next"

inductive TransportError
  | request (operation : Operation) (detail : String)
  | unexpectedStatus (operation : Operation) (status : Nat)
  | missingHeader (operation : Operation) (header : String)
  | undecodable (operation : Operation) (fault : Json.Fault)
  /-- There is no client to send anything with. -/
  | noClient (detail : String)
  deriving DecidableEq, Repr

namespace TransportError

def message : TransportError → String
  | .request op detail => s!"{op.name} request failed: {detail}"
  | .unexpectedStatus op status =>
    s!"{op.name} returned unexpected status {renderStatus status}"
  | .missingHeader op header => s!"{op.name} response is missing the {header} header"
  | .undecodable op fault => s!"failed to decode {op.name} response: {fault.message}"
  | .noClient detail => "failed to build HTTP client: " ++ detail

def chain (e : TransportError) : List String :=
  match e with
  | .request _ detail => [e.message, detail]
  | .undecodable _ fault => [e.message, fault.message]
  | .noClient detail => [e.message, detail]
  | _ => [e.message]

end TransportError

/-- The result of a call and what was logged on the way to it. -/
structure Verdict (α : Type) where
  result : Except TransportError α
  log : List Log.Event := []

structure Call (α : Type) where
  operation : Operation
  /-- The request; none if its headers cannot be sent. -/
  request : Option Request
  judge : Reply → Verdict α

namespace Call

def unsendable : String := "builder error"

def brokenBody : String := "error decoding response body"

def settle (c : Call α) : Exchange → Verdict α
  | .unreachable detail => ⟨.error (.request c.operation detail),[]⟩
  | .dropped detail => ⟨.error (.request c.operation detail),[]⟩
  | .answered reply => c.judge reply

/-- The verdict on a call that cannot be sent. -/
def refused (c : Call α) : Verdict α := ⟨.error (.request c.operation unsendable),[]⟩

end Call

/-- Reads a body that nobody wants; if it breaks off, that is only logged. -/
def drain (op : Operation) (reply : Reply) : List Log.Event :=
  if reply.complete then []
  else [⟨.warn,"ferrule_client","failed to drain response body",
    [("operation", op.name), ("error", Call.brokenBody)]⟩]

def userAgent : String := "ferrule/0.1.0"

def agentHeader : String × String := ("user-agent", userAgent)

def jsonHeader : String × String := ("content-type", "application/json")

def baseUrl (address path : String) : String := s!"http://{address}{path}"

end InvocationHost.Api
