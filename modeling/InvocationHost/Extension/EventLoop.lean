import InvocationHost.Api.Extensions
import InvocationHost.Extension.Basic

/-! # Event loops

Each registered extension polls for events under its identifier, one at a time, and hands invoke
events to its hook. Between two events the loop ends if the host is done; it also ends with the first
poll that fails and with a hook that panics. A poll ends with what it meets: only the loop itself gives
one up, and then it no longer waits for it.
-/
namespace InvocationHost.Extension
open Api

inductive LoopEnd
  | done
  | pollFailed (cause : TransportError)
  | hookPanicked
  deriving DecidableEq, Repr

inductive LoopPhase
  | polling
  | hook (event : Event)
  | ended (how : LoopEnd)
  deriving DecidableEq, Repr

inductive LoopActivity
  | poll (id : ExtensionId)
  | hook (event : Event) (deadline : Option Deadline)
  | hookReturned
  | log (e : Log.Event)
  deriving DecidableEq, Repr

structure EventLoop where
  id : ExtensionId
  extension : Extension
  phase : LoopPhase := .polling

/-- What can happen to a loop. -/
inductive LoopEvent
  | received (met : Http.Exchange)
  | hookReturned
  | hookPanicked
  | released
  deriving DecidableEq, Repr

namespace EventLoop

def ended (l : EventLoop) : Bool :=
  match l.phase with
  | .ended _ => true
  | _ => false

def loopLog (l : EventLoop) (level : Log.Level) (message : String)
    (fields : List Log.Field := []) : LoopActivity :=
  .log ⟨level,logTarget,message,("extension", l.extension.name) :: fields⟩

/-- The next poll is sent. -/
def poll (l : EventLoop) : EventLoop × List LoopActivity :=
  ({ l with phase := .polling }, [.poll l.id])

def start (registered : ExtensionId × Extension) : EventLoop × List LoopActivity :=
  poll { id := registered.1, extension := registered.2 }

def finish (l : EventLoop) (how : LoopEnd) (log : List LoopActivity) : EventLoop × List LoopActivity :=
  ({ l with phase := .ended how }, log ++ [l.loopLog .debug "extension event loop stopped"])

def dispatch (l : EventLoop) (e : Event) : EventLoop × List LoopActivity :=
  match e.kind with
  | .invoke =>
    if l.extension.onInvoke then ({ l with phase := .hook e }, [.hook e e.deadline?]) else l.poll
  | .shutdown =>
    let log := l.loopLog .debug "shutdown event received" [("reason", e.shutdownReason)]
    (l.poll.1, log :: l.poll.2)
  | .other name =>
    let log := l.loopLog .warn "ignoring unknown extension event" [("event_type", name)]
    (l.poll.1, log :: l.poll.2)

/-- The poll has met this, and the host was not done when that was seen. -/
def receive (l : EventLoop) (met : Http.Exchange) : EventLoop × List LoopActivity :=
  let verdict := (Extensions.nextEvent l.id).settle met
  let log := verdict.log.map LoopActivity.log
  match verdict.result with
  | .ok e => ((l.dispatch e).1, log ++ (l.dispatch e).2)
  | .error cause =>
    l.finish (.pollFailed cause)
      (log ++ [l.loopLog .error "failed to fetch next extension event" [("error", cause.message)]])

/-- One step of a loop; none if it cannot happen. A loop that is polling looks at whether the host is
done before it looks at what the poll has met. -/
def step? (l : EventLoop) (done : Bool) : LoopEvent → Option (EventLoop × List LoopActivity)
  | .received met =>
    match l.phase with
    | .polling => if done then none else some (l.receive met)
    | _ => none
  | .released =>
    match l.phase with
    | .polling => if done then some (l.finish .done []) else none
    | _ => none
  | .hookReturned =>
    match l.phase with
    | .hook _ => some (l.poll.1, .hookReturned :: l.poll.2)
    | _ => none
  | .hookPanicked =>
    match l.phase with
    | .hook _ => some ({ l with phase := .ended .hookPanicked }, [])
    | _ => none

end EventLoop
end InvocationHost.Extension
