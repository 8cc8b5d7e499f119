import InvocationHost.Panic.Scene

/-! # User code under containment

A program is what user code does as far as the host can tell: it ends with a value or panics, gives up
the thread in between, reads the trace token, catches panics of its own or contains a part of itself.
`run` follows a program to its end; `poll` follows it until it gives up the thread. The host strings
programs together to an execution, and only the host enters handlers.
-/
namespace InvocationHost.Panic

inductive Program : Type → Type 1
  | done (a : α) : Program α
  | erupt (e : Eruption) : Program α
  | pause (next : Program α) : Program α
  | readToken (next : Option String → Program α) : Program α
  | catching {β : Type} (body : Program β) (after : Except Payload β → Program α) : Program α
  | containing {β : Type} (body : Program β) (after : Except Captured β → Program α) : Program α

/-- What code comes to on a scene: a value, or the payload of a panic that left it. -/
abbrev Execution (α : Type) := ExceptT Payload (StateM Scene) α

namespace Execution

/-- The host enters a handler; user code cannot do that. -/
def enter (ctx : Context) : Execution Unit := fun s => (.ok (), s.call ctx)

/-- Runs code in a containment of its own. -/
def contained (x : Execution α) (s : Scene) : Except Captured α × Scene :=
  let (r, s) := x s.enter
  s.close r

end Execution

namespace Program

def bind : Program α → (α → Program β) → Program β
  | .done a, f => f a
  | .erupt e, _ => .erupt e
  | .pause next, f => .pause (bind next f)
  | .readToken next, f => .readToken fun token => bind (next token) f
  | .catching body after, f => .catching body fun r => bind (after r) f
  | .containing body after, f => .containing body fun r => bind (after r) f

instance : Monad Program where
  pure := .done
  bind := Program.bind

def contain (p : Program α) : Program (Except Captured α) := .containing p .done

/-- A panic that the code catches itself. -/
def catchOwn (e : Eruption) : Program Unit := .catching (.erupt e) fun (_ : Except Payload Unit) => .done ()

def pauses : Nat → Program α → Program α
  | 0, p => p
  | n + 1, p => .pause (pauses n p)

/-- The result of a program, a payload if a panic leaves it, and the scene after it. -/
def run : Program α → Scene → Except Payload α × Scene
  | .done a, s => (.ok a, s)
  | .erupt e, s => (.error e.payload, s.erupt e)
  | .pause next, s => run next s.resume
  | .readToken next, s => run (next s.token) s
  | .catching body after, s =>
    let (r, s) := run body s
    run (after r) s
  | .containing body after, s =>
    let (r, s) := run body s.enter
    let (r, s) := s.close r
    run (after r) s

/-- Runs a program as one of several under a common containment. -/
def exec (p : Program α) : Execution α := fun s => p.run s

/-- What one poll of a program comes to. -/
inductive Polled (α : Type) : Type 1
  | ready (a : α)
  | unwound (payload : Payload)
  | pending (rest : Program α)

def poll : Program α → Scene → Polled α × Scene
  | .done a, s => (.ready a, s)
  | .erupt e, s => (.unwound e.payload, s.erupt e)
  | .pause next, s => (.pending next, s)
  | .readToken next, s => poll (next s.token) s
  | .catching body after, s =>
    match poll body s with
    | (.ready b, s) => poll (after (.ok b)) s
    | (.unwound payload, s) => poll (after (.error payload)) s
    | (.pending rest, s) => (.pending (.catching rest after), s)
  | .containing body after, s =>
    match poll body s.enter with
    | (.ready b, s) =>
      let (r, s) := s.close (.ok b)
      poll (after r) s
    | (.unwound payload, s) =>
      let (r, s) := s.close (.error payload)
      poll (after r) s
    | (.pending rest, s) => (.pending (.containing rest after), s.leave)

end Program
end InvocationHost.Panic
