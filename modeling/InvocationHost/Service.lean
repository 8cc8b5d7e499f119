import InvocationHost.Machine
import InvocationHost.Pipeline

/-! # The invocation loop

The host fetches an invocation, handles it, reports the result and fetches again, one at a time. It
stops with the first fetch or report that fails and after a panic; told to stop, it does so only
between two invocations.
-/
namespace InvocationHost
open Api Panic

/-- What the loop is for: where it listens, how invocations are handled, and by what. -/
structure Service (ι ο ε : Type) where
  address : String
  pipeline : Pipeline
  handler : Handler ι ο ε

inductive ServicePhase
  /-- Between two invocations. -/
  | idle
  | fetching
  | handling (inv : Invocation)
  | handled (job : Job)
  | reporting (job : Job)
  | stopped (result : Except HostError Unit)

inductive ServiceEvent
  | fetches
  | fetched (met : Http.Exchange)
  | handles
  | reports
  | reported (met : Http.Exchange)
  | told
  deriving DecidableEq, Repr

structure ServiceState where
  phase : ServicePhase := .idle
  scene : Scene := {}

namespace ServiceState

def result? (s : ServiceState) : Option (Except HostError Unit) :=
  match s.phase with
  | .stopped result => some result
  | _ => none

end ServiceState

namespace Service
variable {ι ο ε : Type}

def logTarget : String := "ferrule_engine::runtime"

def event (level : Log.Level) (message : String) (fields : List Log.Field := []) :
    Log.Event :=
  ⟨level,logTarget,message,fields⟩

def started (svc : Service ι ο ε) : Activity :=
  .log (event .info "runtime started" [("runtime_api", svc.address)])

def fetch : List Activity := (Invocations.next.request.map Activity.request).toList

/-- A fetch has met this. -/
def receive (s : ServiceState) (met : Http.Exchange) : ServiceState × List Activity :=
  let verdict := Invocations.next.settle met
  let logged := verdict.log.map Activity.log
  match verdict.result with
  | .ok inv => ({ s with phase := .handling inv }, logged)
  | .error cause => ({ s with phase := .stopped (.error (.fetch cause)) }, logged)

/-- The report of a job has met this. -/
def conclude (s : ServiceState) (job : Job) (met : Http.Exchange) : ServiceState × List Activity :=
  let (result, logged) := job.conclude met
  match result with
  | .ok _ => ({ s with phase := .idle }, logged.map .log)
  | .error e => ({ s with phase := .stopped (.error e) }, logged.map .log)

def stop (s : ServiceState) : ServiceState × List Activity :=
  ({ s with phase := .stopped (.ok ()) }, [.log (event .info "extensions shut down, stopping runtime")])

def step? (svc : Service ι ο ε) : Machine ServiceState ServiceEvent Activity := fun s e =>
  match s.phase, e with
  | .idle, .told => some (stop s)
  | .idle, .fetches => some ({ s with phase := .fetching }, fetch)
  | .fetching, .told => some (stop s)
  | .fetching, .fetched met => some (receive s met)
  | .handling inv, .handles =>
    let (job, scene, activities) := svc.pipeline.handle svc.handler inv s.scene
    some (⟨.handled job,scene⟩, activities)
  | .handled job, .reports => some ({ s with phase := .reporting job }, job.send)
  | .reporting job, .reported met => some (conclude s job met)
  | _, _ => none

end Service
end InvocationHost
