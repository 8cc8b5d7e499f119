import InvocationHost.Extension.Shutdown
import InvocationHost.Extension.Startup
import InvocationHost.Machine

/-! # The extensions of a running host

The event loops run next to each other and next to the shutdown. They meet in two places: a loop looks
at whether the shutdown has been raised, and the shutdown waits for loops to end.
-/
namespace InvocationHost.Extension

structure Manager where
  loops : List EventLoop
  shutdown : Shutdown

inductive ManagerEvent
  | loop (index : Nat) (e : LoopEvent)
  | shutdown (e : ShutdownEvent)
  deriving DecidableEq, Repr

/-- What is done, and in which lane: that of a loop, or the host's own. -/
inductive LaneActivity
  | loop (index : Nat) (a : LoopActivity)
  | main (a : Activity)
  deriving DecidableEq, Repr

namespace Manager

/-- All loops start at once, each with its first poll. -/
def start (registered : List Registered) : Manager × List LaneActivity :=
  let started := registered.map EventLoop.start
  (⟨started.map Prod.fst,.ofRegistered registered⟩,
    started.zipIdx.flatMap fun p => p.1.2.map (LaneActivity.loop p.2))

/-- The extensions as a host shows them before their shutdown. -/
def render (m : Manager) : String :=
  let hooks := m.shutdown.pending.length
  s!"ExtensionManager \x7b sigterm_hooks: {hooks}, loops: {m.loops.length}, .. \x7d"

def step? : Machine Manager ManagerEvent LaneActivity := fun m e =>
  match e with
  | .loop i e => do
    let l ← m.loops[i]?
    let (l, activities) ← l.step? m.shutdown.isRaised e
    return ({ m with loops := m.loops.set i l }, activities.map (.loop i))
  | .shutdown e => do
    let (shutdown, activities) ← m.shutdown.step? m.loops e
    return ({ m with shutdown }, activities.map .main)

end Manager
end InvocationHost.Extension
