import InvocationHost.Activity
import InvocationHost.Api.Extensions
import InvocationHost.Extension.Basic
import InvocationHost.HostError

/-! # Starting extensions

Extensions start one after the other: the init hook, then the registration. The first failure ends the
start, and nothing after it is tried.
-/
namespace InvocationHost.Extension
open Api

abbrev Registered := ExtensionId × Extension

inductive Startup
  /-- The registration of one extension is on its way; others are registered or still to come. -/
  | registering (registered : List Registered) (current : Extension) (rest : List Extension)
  | ready (registered : List Registered)
  | failed (e : HostError)

namespace Startup

def registration (e : Extension) : Call ExtensionId := Extensions.register e.name e.events

def initActivity (e : Extension) : List Activity :=
  match e.init with
  | some _ => [.init e.name]
  | none => []

/-- Goes on with the extensions still to come, up to the next registration. -/
def next (registered : List Registered) : List Extension → Startup × List Activity
  | [] => (.ready registered, [])
  | e :: rest =>
    match e.init with
    | some (.error reason) => (.failed (.extensionInit e.name reason), initActivity e)
    | _ =>
      match (registration e).request with
      | some r => (.registering registered e rest, initActivity e ++ [.request r])
      | none =>
        (.failed (.extensionRegister e.name (.request .register Call.unsendable)), initActivity e)

def start (extensions : List Extension) : Startup × List Activity := next [] extensions

def registeredEvent (e : Extension) : Log.Event :=
  ⟨.info,logTarget,"extension registered",[("extension", e.name)]⟩

/-- The registration on its way has met this. -/
def answer (s : Startup) (met : Http.Exchange) : Startup × List Activity :=
  match s with
  | .registering registered e rest =>
    let verdict := (registration e).settle met
    let log := verdict.log.map Activity.log
    match verdict.result with
    | .ok id =>
      let (after, activities) := next (registered ++ [(id, e)]) rest
      (after, log ++ .log (registeredEvent e) :: activities)
    | .error cause => (.failed (.extensionRegister e.name cause), log)
  | s => (s, [])

end Startup

end InvocationHost.Extension
