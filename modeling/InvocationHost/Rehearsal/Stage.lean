import InvocationHost.Host
import InvocationHost.Rehearsal.Plane

/-! # Rehearsing a host

A rehearsal plays a host against a plane, one event after the other. Whatever can go on by itself goes
on in a fixed order: first the extensions, each as far as it comes, then a shutdown that is under way,
then the invocation loop.
-/
namespace InvocationHost.Rehearsal
open Extension

inductive InvokeMode
  | returns
  /-- Panics if it is called for the invocation `boom`. -/
  | panicsOnBoom
  | awaitsRelease
  deriving DecidableEq, Repr

inductive TerminationMode
  | returns
  | yields
  /-- Releases the invoke hooks that wait. -/
  | releases
  | panics
  deriving DecidableEq, Repr

/-- An extension and what its hooks do. -/
structure Role where
  extension : Extension
  onInvoke : InvokeMode := .returns
  onTermination : TerminationMode := .returns

inductive Cue
  | never
  /-- When there is nothing more to fetch; the last fetch is held open for it. -/
  | afterFetches
  /-- Between the end of a handler and the report. -/
  | beforeReport
  deriving DecidableEq, Repr

structure Stage (ι ο ε : Type) where
  service : Service ι ο ε
  host : Host
  plane : Plane
  roles : List Role
  cue : Cue
  serves : Bool := true
  released : Bool := false

namespace Stage
variable {ι ο ε : Type}

def hookEvent? (s : Stage ι ο ε) (mode : InvokeMode) (e : Event) : Option LoopEvent :=
  match mode with
  | .returns => some .hookReturned
  | .panicsOnBoom => some (if e.requestId = some "boom" then .hookPanicked else .hookReturned)
  | .awaitsRelease => if s.released then some .hookReturned else none

def loopEvent? (s : Stage ι ο ε) (raised : Bool) (role : Role) (l : EventLoop) :
    Option (LoopEvent × Stage ι ο ε) :=
  match l.phase with
  | .polling =>
    if raised then some (.released, s)
    else (s.plane.poll? l.id).map fun r => (.received r.1, { s with plane := r.2 })
  | .hook e => (s.hookEvent? role.onInvoke e).map fun e => (e, s)
  | .ended _ => none

/-- The first extension that can go on, and how. -/
def laneChoice? (s : Stage ι ο ε) (m : Manager) : Option (ManagerEvent × Stage ι ο ε) :=
  (s.roles.zip m.loops).zipIdx.findSome? fun p =>
    (s.loopEvent? m.shutdown.isRaised p.1.1 p.1.2).map fun r => (.loop p.2 r.1, r.2)

/-- The mode of the termination hook after which so many are still to run. -/
def terminationMode (s : Stage ι ο ε) (left : Nat) : TerminationMode :=
  let modes := (s.roles.filter (·.extension.onTermination)).map Role.onTermination
  (modes[modes.length - left - 1]?).getD .returns

def shutdownChoice? (s : Stage ι ο ε) (m : Manager) : Option (ManagerEvent × Stage ι ο ε) :=
  match m.shutdown with
  | .raised _ => some (.shutdown (.timed 0), s)
  | .between .. => some (.shutdown .hookStarts, s)
  | .hook _ _ hooks =>
    match s.terminationMode hooks.length with
    | .panics => some (.shutdown .hookPanics, s)
    | .releases => some (.shutdown .hookReturns, { s with released := true })
    | _ => some (.shutdown .hookReturns, s)
  | .joining i => if (m.loops[i]?).all EventLoop.ended then some (.shutdown .joins, s) else none
  | _ => none

def isWaiting (r : Running) : Bool := r.manager.any fun m => !m.shutdown.isRaised

def requested : HostEvent := .manager (.shutdown .requested)

def serviceChoice? (s : Stage ι ο ε) (r : Running) : Option (HostEvent × Stage ι ο ε) :=
  match r.service.phase with
  | .idle => some (.service (if r.isOver then .told else .fetches), s)
  | .fetching =>
    if r.isOver then some (.service .told, s)
    else if s.cue = .afterFetches && s.plane.listens && s.plane.fetches.isEmpty then
      if isWaiting r then some (requested, s) else none
    else some (.service (.fetched s.plane.fetch.1), { s with plane := s.plane.fetch.2 })
  | .handling _ => some (.service .handles, s)
  | .handled _ =>
    if s.cue = .beforeReport && isWaiting r then some (requested, s)
    else some (.service .reports, s)
  | .reporting _ =>
    some (.service (.reported s.plane.report.1), { s with plane := s.plane.report.2 })
  | .stopped _ => none

def runningChoice? (s : Stage ι ο ε) (r : Running) : Option (HostEvent × Stage ι ο ε) :=
  let managed := r.manager.bind fun m => (s.laneChoice? m).or (s.shutdownChoice? m)
  (managed.map fun c => (.manager c.1, c.2)).or (if s.serves then s.serviceChoice? r else none)

def choice? (s : Stage ι ο ε) : Option (HostEvent × Stage ι ο ε) :=
  match s.host with
  | .starting _ =>
    some (.registered s.plane.register.1, { s with plane := s.plane.register.2 })
  | .running r => s.runningChoice? r
  | .failed _ => none

def perform? (s : Stage ι ο ε) (e : HostEvent) : Option (Stage ι ο ε × List LaneActivity) :=
  (Host.step? s.service s.host e).map fun r => ({ s with host := r.1 }, r.2)

def play : Nat → Stage ι ο ε → Stage ι ο ε × List LaneActivity
  | 0, s => (s, [])
  | n + 1, s =>
    match s.choice?.bind fun r => r.2.perform? r.1 with
    | some (s, now) =>
      let (s, later) := play n s
      (s, now ++ later)
    | none => (s, [])

/-- More events than the plane and the extensions have in store. -/
def length (s : Stage ι ο ε) : Nat := 8 * (s.plane.size + s.roles.length + 2)

def playOut (s : Stage ι ο ε) : Stage ι ο ε × List LaneActivity := s.play s.length

/-- Requests termination and plays on. -/
def terminate (s : Stage ι ο ε) : Stage ι ο ε × List LaneActivity :=
  match s.perform? requested with
  | some (s, now) =>
    let (s, later) := s.playOut
    (s, now ++ later)
  | none => (s, [])

end Stage
end InvocationHost.Rehearsal
