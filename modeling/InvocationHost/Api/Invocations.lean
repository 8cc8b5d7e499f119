import InvocationHost.Api.Transport
import InvocationHost.Invocation

/-! # The invocation API

The host fetches one invocation at a time and reports the result under the invocation's identifier.
-/
namespace InvocationHost.Api
open Http

namespace Invocations

def basePath : String := "/2018-06-01/runtime/invocation/"

def requestIdHeader : String := "lambda-runtime-aws-request-id"
def deadlineHeader : String := "lambda-runtime-deadline-ms"
def traceIdHeader : String := "lambda-runtime-trace-id"
def identityHeader : String := "lambda-runtime-cognito-identity"
def clientContextHeader : String := "lambda-runtime-client-context"
def functionArnHeader : String := "lambda-runtime-invoked-function-arn"

def metadata (r : Reply) : Metadata where
  deadline := r.header? deadlineHeader
  traceId := r.header? traceIdHeader
  identity := r.header? identityHeader
  clientContext := r.header? clientContextHeader
  functionArn := r.header? functionArnHeader

/-- The identifier of the fetched invocation, which may not be empty. -/
def requestId? (r : Reply) : Option RequestId :=
  ((r.header? requestIdHeader).filter (!·.isEmpty)).map RequestId.mk

def judgeNext (r : Reply) : Verdict Invocation :=
  if r.status ≠ 200 then ⟨.error (.unexpectedStatus .next r.status),drain .next r⟩
  else match requestId? r with
    | none => ⟨.error (.missingHeader .next requestIdHeader),[]⟩
    | some id =>
      if r.complete then ⟨.ok ⟨id,r.body,metadata r⟩,[]⟩
      else ⟨.error (.request .next Call.brokenBody),[]⟩

def next : Call Invocation where
  operation := .next
  request := some { method := .get, url := basePath ++ "next", headers := [agentHeader] }
  judge := judgeNext

/-- The two ways an invocation ends. -/
inductive ReportKind
  | success
  | failure
  deriving DecidableEq, Repr

def ReportKind.operation : ReportKind → Operation
  | .success => .response
  | .failure => .error

/-- The identifier stands in the URL as it came. -/
def reportUrl (kind : ReportKind) (id : RequestId) : String :=
  basePath ++ id.text ++ "/" ++ kind.operation.name

def judgeReport (kind : ReportKind) (id : RequestId) (r : Reply) : Verdict Unit :=
  if r.status ≠ 202 then
    ⟨.error (.unexpectedStatus kind.operation r.status),drain kind.operation r⟩
  else ⟨.ok (),drain kind.operation r ++ [⟨.debug,"ferrule_client::runtime","result reported",
    [("request_id", id.text), ("operation", kind.operation.name)]⟩]⟩

def report (kind : ReportKind) (id : RequestId) (body : String) : Call Unit where
  operation := kind.operation
  request := some {
    method := .post, url := reportUrl kind id, headers := [agentHeader, jsonHeader], body }
  judge := judgeReport kind id

end Invocations
end InvocationHost.Api
