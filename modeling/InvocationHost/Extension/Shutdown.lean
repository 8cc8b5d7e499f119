import InvocationHost.Activity
import InvocationHost.Extension.EventLoop

/-! # Shutting extensions down

Once termination is requested, the loops are released, the termination hooks run one after the other
under one deadline, and then the loops are waited for. A hook that panics ends the shutdown where it
stands. Termination is requested or it is not; that the wait for the request panics is left out.
-/
namespace InvocationHost.Extension

inductive Shutdown
  /-- Termination has not been requested. -/
  | waiting (hooks : List String)
  /-- The loops are released; no deadline is fixed yet. -/
  | raised (hooks : List String)
  | between (deadline : Deadline) (hooks : List String)
  | hook (deadline : Deadline) (name : String) (hooks : List String)
  /-- The hooks have run; the loops from this one on are still to be waited for. -/
  | joining (loop : Nat)
  | finished
  | died
  deriving DecidableEq, Repr

inductive ShutdownEvent
  | requested
  | timed (now : Nat)
  | hookStarts
  | hookReturns
  | hookPanics
  | joins
  deriving DecidableEq, Repr

namespace Shutdown

def ofRegistered (registered : List (ExtensionId × Extension)) : Shutdown :=
  .waiting ((registered.filter (·.2.onTermination)).map (·.2.name))

/-- The termination hooks that have not been started. -/
def pending : Shutdown → List String
  | .waiting hooks => hooks
  | .raised hooks => hooks
  | .between _ hooks => hooks
  | .hook _ _ hooks => hooks
  | _ => []

/-- The loops have been told that the host is done. -/
def isRaised : Shutdown → Bool
  | .waiting _ => false
  | _ => true

/-- The main loop is told to stop; it cannot tell a shutdown that finished from one that died. -/
def isOver : Shutdown → Bool
  | .finished => true
  | .died => true
  | _ => false

def afterHooks (deadline : Deadline) : List String → Shutdown
  | [] => .joining 0
  | hooks => .between deadline hooks

def mainLog (target : String) (level : Log.Level) (message : String)
    (fields : List Log.Field := []) : Activity :=
  .log ⟨level,target,message,fields⟩

def stopped : Activity := mainLog logTarget .info "extensions stopped"

/-- What waiting for a loop that has ended logs. -/
def joinLog (l : EventLoop) : List Activity :=
  match l.phase with
  | .ended .hookPanicked =>
    [mainLog logTarget .error "extension event loop failed" [("error", "task panicked")]]
  | _ => []

def step? (loops : List EventLoop) : Shutdown → ShutdownEvent → Option (Shutdown × List Activity)
  | .waiting hooks, .requested =>
    some (.raised hooks, [mainLog "ferrule_engine::runtime" .info
      "termination requested, shutting down extensions"])
  | .raised hooks, .timed now => some (afterHooks (.after now shutdownBudget) hooks, [])
  | .between deadline (name :: hooks), .hookStarts =>
    some (.hook deadline name hooks,
      [mainLog logTarget .debug "running termination hook" [("extension", name)],
       .terminate name deadline])
  | .hook deadline name hooks, .hookReturns => some (afterHooks deadline hooks, [.terminated name])
  | .hook .., .hookPanics => some (.died, [])
  | .joining i, .joins =>
    match loops[i]? with
    | none => some (.finished, [stopped])
    | some l => if l.ended then some (.joining (i + 1), joinLog l) else none
  | _, _ => none

end Shutdown
end InvocationHost.Extension
