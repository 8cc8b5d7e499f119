import InvocationHost.Activity
import InvocationHost.Api.Invocations
import InvocationHost.Failure.Wire
import InvocationHost.Handler
import InvocationHost.HostError

/-! # One invocation from end to end

The pipeline builds the context, decodes the payload, calls the handler and encodes its output, all but
the first under containment; the first stage that fails decides the failure, and a panic at any stage
takes precedence. The result is reported, and what the report meets decides what becomes of the host.
-/
namespace InvocationHost
open Api Panic

structure Pipeline where
  taxonomy : Taxonomy := {}
  /-- Publish each invocation's trace token to the whole process. -/
  publishesToken : Bool := false
  functionName : Option String := none
  functionVersion : Option String := none
  deriving Repr

/-- An invocation that has been handled and is to be reported: its output or its failure. -/
structure Job where
  id : RequestId
  result : Except Failure String

inductive Outcome
  | succeeded
  | failed (failure : Failure)
  deriving DecidableEq, Repr

namespace Job

def report (job : Job) : Call Unit :=
  match job.result with
  | .ok body => Invocations.report .success job.id body
  | .error failure => Invocations.report .failure job.id failure.toJson

/-- The report is sent. -/
def send (job : Job) : List Activity := (job.report.request.map Activity.request).toList

/-- What a report that met this means for the host. -/
def conclude (job : Job) (met : Http.Exchange) : Except HostError Outcome × List Log.Event :=
  let verdict := job.report.settle met
  let result : Except HostError Outcome :=
    match verdict.result, job.result with
    | .error e, _ => .error (.report e)
    | .ok (), .ok _ => .ok .succeeded
    | .ok (), .error failure =>
      if failure.isPanic then .error (.panicked job.id failure) else .ok (.failed failure)
  (result, verdict.log)

end Job

namespace Pipeline

/-- Describes the handler's error or encodes its output. -/
def finish (p : Pipeline) (h : Handler ι ο ε) :
    Except ε ο → Execution (Except Failure String)
  | .error e => do
    let message ← (h.describe e).exec
    return .error { tag := p.taxonomy.errorTag h.errorType, message }
  | .ok output => do
    match ← (h.encode output).exec with
    | .error reason => return .error (.ofOutput reason)
    | .ok body => return .ok body

/-- Decodes, calls and encodes. -/
def attempt (p : Pipeline) (h : Handler ι ο ε) (ctx : Context) (payload : List UInt8) :
    Execution (Except Failure String) := do
  match ← (h.decode payload).exec with
  | .error reason => return .error (.ofInput reason)
  | .ok input =>
    Execution.enter ctx
    let r ← (h.call ctx input).exec
    p.finish h r

/-- Publishes the trace token of an invocation, if the pipeline does that. -/
def publish (p : Pipeline) (inv : Invocation) (s : Scene) : Scene :=
  if p.publishesToken then s.publish inv.metadata.traceId else s

/-- The result of an invocation, and the scene after it. -/
def execute (p : Pipeline) (h : Handler ι ο ε) (inv : Invocation) (s : Scene) :
    Except Failure String × Scene :=
  let s := p.publish inv s
  match Context.ofMetadata inv.id inv.metadata with
  | .error e => (.error (.ofHandler e.message), s)
  | .ok ctx =>
    match (p.attempt h ctx inv.payload).contained s with
    | (.ok result, s) => (result, s)
    | (.error captured, s) => (.error (captured.toFailure p.taxonomy), s)

def target : String := "ferrule_engine::pipeline"

def beginning (id : RequestId) : Log.Event :=
  ⟨.debug,target,"handling invocation",[("request_id", id.text)]⟩

def failureEvent (p : Pipeline) (id : RequestId) (f : Failure) : Log.Event :=
  ⟨.error,target,"invocation error",
    [("request_id", id.text), ("function_name", p.functionName),
     ("function_version", p.functionVersion), ("error_type", f.tag), ("error_message", f.message),
     ("stack", if f.isPanic then some f.renderStack else none)]⟩

/-- What is logged of a result before it is reported. -/
def failureLog (p : Pipeline) (id : RequestId) : Except Failure String → List Log.Event
  | .ok _ => []
  | .error f => [p.failureEvent id f]

/-- Handles an invocation, up to the report of the result. -/
def handle (p : Pipeline) (h : Handler ι ο ε) (inv : Invocation) (s : Scene) :
    Job × Scene × List Activity :=
  let (result, after) := p.execute h inv { s with calls := [] }
  (⟨inv.id,result⟩, after,
    .log (beginning inv.id) :: after.calls.map .call ++ (p.failureLog inv.id result).map .log)

/-- Handles an invocation and sends the report, which meets this. -/
def process (p : Pipeline) (h : Handler ι ο ε) (inv : Invocation) (s : Scene) (met : Http.Exchange) :
    Except HostError Outcome × Scene × List Activity :=
  let (job, after, activities) := p.handle h inv s
  let (result, logged) := job.conclude met
  (result, after, activities ++ job.send ++ logged.map .log)

end Pipeline
end InvocationHost
