import InvocationHost.Backtrace.Selection
import InvocationHost.Failure.Basic

/-! # Captured panics

A panic may run the panic hook, which notes the site, or unwind without it. What containment returns is
the payload with the site noted last, if there is one; from that a failure is made whose stack is never
empty.
-/
namespace InvocationHost.Panic

/-- Where a panic happened, as the hook sees it. -/
structure Site where
  backtrace : String
  file : String
  line : UInt32
  deriving DecidableEq, Repr

/-- A panic as it starts; without a site it unwinds and the hook does not run. -/
structure Eruption where
  payload : Payload
  site : Option Site
  deriving DecidableEq, Repr

structure Captured where
  payload : Payload
  site : Option Site
  deriving DecidableEq, Repr

/-- The host's own symbols: where the handler's frames end. -/
def hostBoundary : List String := ["ferrule_engine::"]

namespace Captured

def message (c : Captured) : String := c.payload.message

def placeholder (c : Captured) : StackFrame :=
  match c.site with
  | some site => .ofLocation site.file site.line
  | none => .ofLocation "" 0

def userFrames (c : Captured) : List StackFrame :=
  (c.site.map fun s => Backtrace.userFrames hostBoundary s.backtrace).getD []

/-- The handler's frames, or the placeholder where none is left. -/
def frames (c : Captured) : List StackFrame :=
  if c.userFrames.isEmpty then [c.placeholder] else c.userFrames

def toFailure (c : Captured) (t : Taxonomy) : Failure :=
  ⟨t.panicTag c.payload,c.message,c.frames⟩

theorem frames_ne_nil (c : Captured) : c.frames ≠ [] := by
  unfold frames
  split
  · simp
  · next h => simpa using h

theorem isPanic_toFailure (c : Captured) (t : Taxonomy) : (c.toFailure t).isPanic = true := by
  simp [toFailure, Failure.isPanic, frames_ne_nil]

end Captured
end InvocationHost.Panic
