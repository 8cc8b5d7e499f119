import InvocationHost.Deadline
import InvocationHost.Identity

/-! # Invocations

An invocation is one unit of work: the identifier under which it is reported, the payload exactly as
it arrived, and the metadata that came with it. Metadata is kept as text and read on demand.
-/
namespace InvocationHost
open Json

/-- The identifier that the control plane gives to one invocation. -/
structure RequestId where
  text : String
  deriving DecidableEq, Repr

/-- The identifier that the control plane gives to one registered extension. -/
structure ExtensionId where
  text : String
  deriving DecidableEq, Repr

def RequestId.decoder : Decoder RequestId := Decoder.map RequestId.mk Decoder.text

def ExtensionId.decoder : Decoder ExtensionId := Decoder.map ExtensionId.mk Decoder.text

structure Metadata where
  deadline : Option String := none
  traceId : Option String := none
  identity : Option String := none
  clientContext : Option String := none
  functionArn : Option String := none
  deriving DecidableEq, Repr

structure Invocation where
  id : RequestId
  payload : List UInt8
  metadata : Metadata
  deriving DecidableEq, Repr

inductive MetadataError
  | deadline (e : DeadlineError)
  | identity (f : Fault)
  | clientContext (f : Fault)
  deriving DecidableEq, Repr

def MetadataError.message : MetadataError → String
  | .deadline e => e.message
  | .identity f => "failed to parse cognito identity: " ++ f.message
  | .clientContext f => "failed to parse client context: " ++ f.message

/-- Reads a part that may be absent; an empty text counts as absent. -/
def readOptional (d : Decoder α) (raw : Option String) : Except Fault (Option α) :=
  match raw.filter (!·.isEmpty) with
  | some s => ((Document.ofString s).decode d).map some
  | none => .ok none

namespace Metadata

def readDeadline (m : Metadata) : Except MetadataError Deadline :=
  match m.deadline with
  | some raw => (Deadline.parse raw).mapError .deadline
  | none => .error (.deadline .missing)

def readIdentity (m : Metadata) : Except MetadataError (Option CognitoIdentity) :=
  (readOptional CognitoIdentity.record.decoder m.identity).mapError .identity

def readClientContext (m : Metadata) : Except MetadataError (Option ClientContext) :=
  (readOptional ClientContext.record.decoder m.clientContext).mapError .clientContext

end Metadata

/-- What a handler is told about the invocation it handles. -/
structure Context where
  id : RequestId
  functionArn : String
  identity : Option CognitoIdentity
  clientContext : Option ClientContext
  traceId : Option String
  deadline : Deadline
  deriving DecidableEq, Repr

/-- The context of an invocation; the first part of the metadata that cannot be read is the error. -/
def Context.ofMetadata (id : RequestId) (m : Metadata) : Except MetadataError Context := do
  let deadline ← m.readDeadline
  let identity ← m.readIdentity
  let clientContext ← m.readClientContext
  return {
    id, identity, clientContext, deadline
    functionArn := m.functionArn.getD ""
    traceId := m.traceId.filter (!·.isEmpty) }

end InvocationHost
