import InvocationHost.Environment
import InvocationHost.Rehearsal.Stage

/-! # What can be seen of a rehearsal

A performance is a whole host, an ensemble its extensions alone, a daemon a host that is a process of
its own.
-/
namespace InvocationHost.Rehearsal
open Extension

structure Performance where
  /-- None if the host is still at it. -/
  result : Option (Except HostError Unit)
  main : List Activity
  lanes : List (List LoopActivity)
  log : List Log.Event
  slot : Option String := none

namespace Performance

def main? : LaneActivity → Option Activity
  | .main a => some a
  | .loop .. => none

def lane? (i : Nat) : LaneActivity → Option LoopActivity
  | .main _ => none
  | .loop j a => if i = j then some a else none

def logged? : LaneActivity → Option Log.Event
  | .main (.log e) => some e
  | .loop _ (.log e) => some e
  | _ => none

def token? : Host → Option String
  | .running r => r.service.scene.token
  | _ => none

def ofStage {ι ο ε : Type} (s : Stage ι ο ε) (activities : List LaneActivity) : Performance where
  result := s.host.result?
  main := (activities.filterMap main?).filter s.plane.isSeen
  lanes := s.roles.zipIdx.map fun p =>
    (activities.filterMap (lane? p.2)).filter s.plane.isSeenInLane
  log := activities.filterMap logged?
  slot := token? s.host

/-- Plays a host from its start; nothing that it asks for is kept from it. -/
def ofService {ι ο ε : Type} (service : Service ι ο ε) (plane : Plane) (roles : List Role)
    (cue : Cue) : Performance :=
  let (host, now) := Host.launch {} service (roles.map Role.extension)
  let (stage, later) := Stage.playOut { service, host, plane, roles, cue }
  ofStage stage (now ++ later)

end Performance

/-- What can be seen of extensions that run without an invocation loop. -/
structure Ensemble where
  /-- The extensions before their shutdown, or why they did not start; none if they still start. -/
  started : Option (Except HostError Manager)
  main : List Activity
  lanes : List (List LoopActivity)
  finished : Bool := false

namespace Ensemble

def finished? : Host → Bool
  | .running r => r.manager.any (·.shutdown = .finished)
  | _ => false

/-- Termination is requested once no extension can go on. Here no extensions at all are extensions
that have all started. -/
def ofService {ι ο ε : Type} (service : Service ι ο ε) (plane : Plane) (roles : List Role) :
    Ensemble :=
  let (host, now) := Host.launch {} service (roles.map Role.extension)
  let (stage, settling) :=
    Stage.playOut { service, host, plane, roles, cue := .never, serves := false }
  let before := Performance.ofStage stage (now ++ settling)
  match stage.host with
  | .starting _ => ⟨none,before.main,before.lanes,false⟩
  | .failed e => ⟨some (.error e),before.main,before.lanes,false⟩
  | .running r =>
    let manager := r.manager.getD (Manager.start []).1
    let (stage, ending) := { stage with host := .running { manager := some manager } }.terminate
    let p := Performance.ofStage stage (now ++ settling ++ ending)
    ⟨some (.ok manager),p.main,p.lanes,finished? stage.host⟩

end Ensemble

structure Daemon where
  /-- None if the process is still running. -/
  exitCode : Option Nat
  main : List Activity := []
  log : List Log.Event

/-- Plays a process in an environment of variables. -/
def Daemon.ofEnvironment {ι ο ε : Type} (lookup : String → Option String)
    (service : Environment → Service ι ο ε) (plane : Plane) (roles : List Role) (cue : Cue) :
    Daemon :=
  match Environment.read lookup with
  | .error e => { exitCode := some (Host.exitCode (.error e)), log := [Host.refusal e] }
  | .ok env =>
    let p := Performance.ofService (service env) plane roles cue
    match p.result with
    | some result => ⟨some (Host.exitCode result),p.main,p.log ++ Host.farewell result⟩
    | none => ⟨none,p.main,p.log⟩

end InvocationHost.Rehearsal
