import InvocationHost.Environment
import InvocationHost.Extension.Manager
import InvocationHost.Service

/-! # The host

A host starts its extensions and then runs the invocation loop next to them. The loop is told to stop
once the shutdown of the extensions is over, and looks at that before it looks at what a fetch has met.
A host without extensions does not listen for the end.
-/
namespace InvocationHost
open Extension (Manager ManagerEvent LaneActivity Startup)

/-- What a host is set up with besides its handler. -/
structure Options where
  publishesToken : Bool := false
  extensions : List Extension := []
  taxonomy : Taxonomy := {}

/-- The service that a host renders with these options in its environment. -/
def Options.service {ι ο ε : Type} (options : Options) (env : Environment) (handler : Handler ι ο ε) :
    Service ι ο ε where
  address := env.address
  pipeline := {
    taxonomy := options.taxonomy, publishesToken := options.publishesToken
    functionName := env.functionName, functionVersion := env.functionVersion }
  handler

/-- What a host is given before it starts, or why it is not. -/
structure Provision where
  /-- The signal to end. -/
  signal : Except String Unit := .ok ()
  client : Except Api.TransportError Unit := .ok ()
  extensionsClient : Except Api.TransportError Unit := .ok ()

/-- Asks for one thing after the other; without extensions only for a client. -/
def Provision.check (p : Provision) (extensions : List Extension) : Except HostError Unit := do
  unless extensions.isEmpty do p.signal.mapError .signal
  p.client.mapError .client
  unless extensions.isEmpty do p.extensionsClient.mapError .client

structure Running where
  service : ServiceState := {}
  /-- None without extensions. -/
  manager : Option Manager := none

inductive Host
  | starting (s : Startup)
  | running (r : Running)
  | failed (e : HostError)

inductive HostEvent
  /-- The registration on its way has met this. -/
  | registered (met : Http.Exchange)
  | service (e : ServiceEvent)
  | manager (e : ManagerEvent)
  deriving DecidableEq, Repr

namespace Running
variable {ι ο ε : Type}

def isOver (r : Running) : Bool := r.manager.any (·.shutdown.isOver)

/-- What the loop may do now: to stop if the shutdown is over, to take an invocation if it is not. -/
def permits (r : Running) : ServiceEvent → Bool
  | .told => r.isOver
  | .fetches => !r.isOver
  | .fetched _ => !r.isOver
  | _ => true

def stepService? (svc : Service ι ο ε) : Machine Running ServiceEvent LaneActivity := fun r e =>
  if r.permits e then do
    let (service, activities) ← svc.step? r.service e
    return ({ r with service }, activities.map .main)
  else none

def stepManager? : Machine Running ManagerEvent LaneActivity := fun r e => do
  let manager ← r.manager
  let (manager, activities) ← manager.step? e
  return ({ r with manager := some manager }, activities)

end Running

namespace Host
variable {ι ο ε : Type}

/-- The host at a point of its start; once all extensions have started it runs. -/
def ofStartup (svc : Service ι ο ε) : Startup → Host × List LaneActivity
  | .failed e => (.failed e, [])
  | .ready [] => (.running {}, [.main svc.started])
  | .ready registered =>
    let (manager, polls) := Manager.start registered
    (.running { manager := some manager }, polls ++ [.main svc.started])
  | s => (.starting s, [])

def advance (svc : Service ι ο ε) (p : Startup × List Activity) : Host × List LaneActivity :=
  let (host, activities) := ofStartup svc p.1
  (host, p.2.map .main ++ activities)

def start (svc : Service ι ο ε) (extensions : List Extension) : Host × List LaneActivity :=
  advance svc (Startup.start extensions)

/-- A host starts if it is given everything that it asks for. -/
def launch (p : Provision) (svc : Service ι ο ε) (extensions : List Extension) :
    Host × List LaneActivity :=
  match p.check extensions with
  | .ok () => start svc extensions
  | .error e => (.failed e, [])

def step? (svc : Service ι ο ε) : Machine Host HostEvent LaneActivity := fun h e =>
  match h, e with
  | .starting s, .registered met => some (advance svc (s.answer met))
  | .running r, .service e => (r.stepService? svc e).map fun p => (.running p.1, p.2)
  | .running r, .manager e => (r.stepManager? e).map fun p => (.running p.1, p.2)
  | _, _ => none

def result? : Host → Option (Except HostError Unit)
  | .starting _ => none
  | .running r => r.service.result?
  | .failed e => some (.error e)

/-- What is logged when the host ends. After a panic everything has been said by then. -/
def farewell : Except HostError Unit → List Log.Event
  | .ok () => []
  | .error e =>
    if e.isFatalPanic then [] else [Service.event .error "runtime stopped" [("error", e.message)]]

/-- What is logged if the host cannot begin. -/
def refusal (e : HostError) : Log.Event :=
  Service.event .error "invalid runtime environment" [("error", e.message)]

/-- Only an orderly end is a success. -/
def exitCode : Except HostError Unit → Nat
  | .ok () => 0
  | .error _ => 1

end Host
end InvocationHost
