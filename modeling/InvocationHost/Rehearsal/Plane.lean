import InvocationHost.Activity
import InvocationHost.Extension.EventLoop

/-! # A control plane to rehearse against

The plane answers each kind of request from a list of its own. What comes after the end of a list
depends on the kind: there is nothing more to fetch, reports are accepted, and polls for events are
held open. A plane that nobody listens at is reached by no request.
-/
namespace InvocationHost.Rehearsal
open Http

structure Plane where
  listens : Bool
  fetches : List Exchange := []
  reports : List Exchange := []
  registrations : List Exchange := []
  /-- By the identifier under which events are polled for. -/
  events : List (String × List Exchange) := []

namespace Plane

def nobody : Exchange := .unreachable "tcp connect error"

def status (n : Nat) : Exchange := .answered ⟨n,[],[],true⟩

def fetch (p : Plane) : Exchange × Plane :=
  if !p.listens then (nobody, p)
  else match p.fetches with
    | [] => (status 404, p)
    | x :: xs => (x, { p with fetches := xs })

def report (p : Plane) : Exchange × Plane :=
  if !p.listens then (nobody, p)
  else match p.reports with
    | [] => (status 202, p)
    | x :: xs => (x, { p with reports := xs })

def register (p : Plane) : Exchange × Plane :=
  if !p.listens then (nobody, p)
  else match p.registrations with
    | [] => (status 200, p)
    | x :: xs => (x, { p with registrations := xs })

/-- The next answer under an identifier, and the lists without it. -/
def takeEvent (id : String) :
    List (String × List Exchange) → Option (Exchange × List (String × List Exchange))
  | [] => none
  | (key, xs) :: rest =>
    match xs, key == id with
    | x :: xs, true => some (x, (key, xs) :: rest)
    | _, _ => (takeEvent id rest).map fun r => (r.1, (key, xs) :: r.2)

/-- Answers a poll for events, unless it is held open. -/
def poll? (p : Plane) (id : ExtensionId) : Option (Exchange × Plane) :=
  if !p.listens then some (nobody, p)
  else (takeEvent (unpaddedText id.text) p.events).map fun r => (r.1, { p with events := r.2 })

/-- The number of answers still to be given. -/
def size (p : Plane) : Nat :=
  p.fetches.length + p.reports.length + p.registrations.length +
    p.events.foldl (fun n e => n + e.2.length) 0

/-- The activities that can be seen: a request only if it reaches the plane. -/
def isSeen (p : Plane) : Activity → Bool
  | .request _ => p.listens
  | _ => true

def isSeenInLane (p : Plane) : Extension.LoopActivity → Bool
  | .poll _ => p.listens
  | _ => true

end Plane
end InvocationHost.Rehearsal
