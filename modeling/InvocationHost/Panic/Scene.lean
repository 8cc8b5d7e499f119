import InvocationHost.Invocation
import InvocationHost.Panic.Captured

/-! # What a thread keeps while user code runs

The scene is the thread's view: how many containments are open, the site the hook noted last, how many
panics it passed on to the hook that was installed before, the process-wide trace token, and the
contexts that handlers were entered with.
-/
namespace InvocationHost.Panic

structure Scene where
  depth : Nat := 0
  captured : Option Site := none
  deferred : Nat := 0
  token : Option String := none
  calls : List Context := []
  deriving Repr

namespace Scene

/-- The hook runs: inside a containment it notes the site, outside it defers to the hook before. -/
def hook (s : Scene) (site : Site) : Scene :=
  if s.depth = 0 then { s with deferred := s.deferred + 1 } else { s with captured := some site }

def erupt (s : Scene) (e : Eruption) : Scene :=
  match e.site with
  | some site => s.hook site
  | none => s

/-- A contained poll begins; the outermost forgets what was noted before it. -/
def enter (s : Scene) : Scene :=
  { s with depth := s.depth + 1, captured := if s.depth = 0 then none else s.captured }

def leave (s : Scene) : Scene := { s with depth := s.depth - 1 }

/-- Takes the noted site along with the payload. -/
def capture (s : Scene) (payload : Payload) : Captured × Scene :=
  (⟨payload,s.captured⟩, { s with captured := none })

/-- A contained poll is over; a panic that left it is captured. -/
def close (s : Scene) : Except Payload α → Except Captured α × Scene
  | .ok a => (.ok a, s.leave)
  | .error payload => ((s.leave.capture payload).1 |> .error, (s.leave.capture payload).2)

/-- User code gives up the thread and is polled again later: the outermost poll begins anew. -/
def resume (s : Scene) : Scene := if s.depth = 0 then s else { s with captured := none }

def publish (s : Scene) (token : Option String) : Scene := { s with token }

def call (s : Scene) (ctx : Context) : Scene := { s with calls := s.calls ++ [ctx] }

end Scene
end InvocationHost.Panic
