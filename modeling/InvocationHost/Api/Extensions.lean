import InvocationHost.Api.Transport
import InvocationHost.Extension.Event
import InvocationHost.Invocation

/-! # The extension API

An extension registers by name, is given an identifier, and polls for events under it.
-/
namespace InvocationHost.Api
open Http Extension

namespace Extensions

def basePath : String := "/2020-01-01/extension/"

def nameHeader : String := "lambda-extension-name"
def identifierHeader : String := "lambda-extension-identifier"

/-- A request that carries a value of the caller's, if that is legal in a header. -/
def withHeader (name value : String) (r : Request) : Option Request :=
  if isLegalValue value then some { r with headers := r.headers ++ [(name, value)] } else none

def identifier? (r : Reply) : Option ExtensionId :=
  ((r.header? identifierHeader).filter (!·.isEmpty)).map ExtensionId.mk

def judgeRegister (name : String) (r : Reply) : Verdict ExtensionId :=
  if r.status ≠ 200 then ⟨.error (.unexpectedStatus .register r.status),drain .register r⟩
  else match identifier? r with
    | none => ⟨.error (.missingHeader .register identifierHeader),drain .register r⟩
    | some id => ⟨.ok id,drain .register r ++ [⟨.debug,"ferrule_client::extensions",
        "extension registered",[("extension", name)]⟩]⟩

def register (name : String) (events : List EventKind) : Call ExtensionId where
  operation := .register
  request := withHeader nameHeader name {
    method := .post, url := basePath ++ "register"
    headers := [agentHeader, jsonHeader], body := some (Registration.mk events).toJson }
  judge := judgeRegister name

def judgeEvent (r : Reply) : Verdict Event :=
  if r.status ≠ 200 then ⟨.error (.unexpectedStatus .nextEvent r.status),drain .nextEvent r⟩
  else if r.complete then
    ⟨(Event.decode (Json.Document.ofBytes r.body)).mapError (.undecodable .nextEvent),[]⟩
  else ⟨.error (.request .nextEvent Call.brokenBody),[]⟩

def nextEvent (id : ExtensionId) : Call Event where
  operation := .nextEvent
  request := withHeader identifierHeader id.text {
    method := .get, url := basePath ++ "event/next", headers := [agentHeader] }
  judge := judgeEvent

end Extensions
end InvocationHost.Api
