import InvocationHost.Json.Record
import InvocationHost.Json.Value

/-! # Who invokes

Callers may come with an identity from an identity pool and with a description of the application they
use. Both arrive as JSON, and every part that is left out is empty.
-/
namespace InvocationHost
open Json

structure CognitoIdentity where
  id : String := ""
  pool : String := ""
  deriving DecidableEq, Repr

structure ClientApplication where
  installation : String := ""
  title : String := ""
  versionCode : String := ""
  package : String := ""
  deriving DecidableEq, Repr

structure ClientContext where
  client : ClientApplication := {}
  env : Dictionary String := []
  custom : Dictionary String := []
  deriving DecidableEq, Repr

namespace CognitoIdentity

structure Draft where
  id : Option String := none
  pool : Option String := none

def record : Record Draft CognitoIdentity where
  name := "CognitoIdentity"
  fields :=
    [.of "cognito_identity_id" false Draft.id (fun x d => { d with id := some x }) Decoder.text,
     .of "cognito_identity_pool_id" false Draft.pool (fun x d => { d with pool := some x })
      Decoder.text]
  blank := {}
  complete := fun d => .ok ⟨d.id.getD "",d.pool.getD ""⟩

def toValue (c : CognitoIdentity) : Value :=
  .object [("cognito_identity_id", .text c.id), ("cognito_identity_pool_id", .text c.pool)]

end CognitoIdentity

namespace ClientApplication

structure Draft where
  installation : Option String := none
  title : Option String := none
  versionCode : Option String := none
  package : Option String := none

def record : Record Draft ClientApplication where
  name := "ClientApplication"
  fields :=
    [.of "installation_id" false Draft.installation (fun x d => { d with installation := some x })
      Decoder.text,
     .of "app_title" false Draft.title (fun x d => { d with title := some x }) Decoder.text,
     .of "app_version_code" false Draft.versionCode (fun x d => { d with versionCode := some x })
      Decoder.text,
     .of "app_package_name" false Draft.package (fun x d => { d with package := some x })
      Decoder.text]
  blank := {}
  complete := fun d =>
    .ok ⟨d.installation.getD "",d.title.getD "",d.versionCode.getD "",d.package.getD ""⟩

def toValue (a : ClientApplication) : Value :=
  .object [("app_package_name", .text a.package), ("app_title", .text a.title),
    ("app_version_code", .text a.versionCode), ("installation_id", .text a.installation)]

end ClientApplication

namespace ClientContext

structure Draft where
  client : Option ClientApplication := none
  env : Option (Dictionary String) := none
  custom : Option (Dictionary String) := none

def record : Record Draft ClientContext where
  name := "ClientContext"
  fields :=
    [.of "client" false Draft.client (fun x d => { d with client := some x })
      ClientApplication.record.decoder,
     .of "env" false Draft.env (fun x d => { d with env := some x }) (Decoder.dictionary Decoder.text),
     .of "custom" false Draft.custom (fun x d => { d with custom := some x })
      (Decoder.dictionary Decoder.text)]
  blank := {}
  complete := fun d => .ok ⟨d.client.getD {},d.env.getD [],d.custom.getD []⟩

def entries (d : Dictionary String) : Value := .object (d.map fun e => (e.1, .text e.2))

def toValue (c : ClientContext) : Value :=
  .object [("client", c.client.toValue), ("custom", entries c.custom), ("env", entries c.env)]

end ClientContext
end InvocationHost
