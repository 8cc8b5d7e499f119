import InvocationHost.Text.Blank
import InvocationHost.Text.Numeral
import InvocationHost.Text.Quoted

/-! # Deadlines

A deadline is a moment, in milliseconds since the epoch. It is advice: nothing is interrupted when it
passes. It arrives as a decimal 64-bit integer, of which a negative one means the epoch.
-/
namespace InvocationHost

structure Deadline where
  ms : Nat
  deriving DecidableEq, Repr

inductive DeadlineError
  | missing
  | invalid (raw : String) (cause : Text.NumeralError)
  deriving DecidableEq, Repr

def DeadlineError.message : DeadlineError → String
  | .missing => "failed to parse deadline: header is missing"
  | .invalid raw cause => s!"failed to parse deadline {Text.quoted raw}: {cause.message}"

namespace Deadline

def parse (raw : String) : Except DeadlineError Deadline :=
  match Text.readInt64 (Text.trim raw.toList) with
  | .ok n => .ok ⟨n.toNat⟩
  | .error cause => .error (.invalid raw cause)

/-- The milliseconds left at a moment; none after the deadline. -/
def remaining (d : Deadline) (now : Nat) : Nat := d.ms - now

def isExpired (d : Deadline) (now : Nat) : Bool := d.remaining now == 0

/-- The moment a wait for the deadline ends that begins now. -/
def expiry (d : Deadline) (now : Nat) : Nat := now + d.remaining now

def after (now budget : Nat) : Deadline := ⟨now + budget⟩

def order (a b : Deadline) : Ordering := compare a.ms b.ms

end Deadline
end InvocationHost
