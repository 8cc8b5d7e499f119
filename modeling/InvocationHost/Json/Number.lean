import InvocationHost.Decimal.Shortest
import InvocationHost.Text.Numeral

/-! # JSON numbers

A number is an integer if it is written without a point or an exponent and fits 64 bits, signed or
unsigned; every other number, and `-0`, is a double. Digits beyond the first that no longer fit 64
bits only count as places.
-/
namespace InvocationHost.Json
open Decimal

inductive Number
  | integer (n : Int)
  | double (x : Binary64)
  deriving DecidableEq, Repr

/-- The parts of a number as written; the exponent is its sign and its digits. -/
structure NumberText where
  negative : Bool
  whole : List Char
  fraction : Option (List Char) := none
  exponent : Option (Bool × List Char) := none
  deriving DecidableEq, Repr

namespace NumberText

def greatestWord : Nat := UInt64.size - 1

/-- Takes digits as long as the number stays within 64 bits, and counts them. -/
def absorb : Nat → List Char → Nat × Nat
  | n, [] => (n, 0)
  | n, c :: r =>
    let n' := 10 * n + (Text.digit? c).getD 0
    if n' ≤ greatestWord then ((absorb n' r).1, (absorb n' r).2 + 1) else (n, 0)

def natOfDigits (ds : List Char) : Nat :=
  ds.foldl (fun n c => 10 * n + (Text.digit? c).getD 0) 0

def exponentValue (t : NumberText) : Int :=
  match t.exponent with
  | none => 0
  | some (negative, ds) => if negative then -(natOfDigits ds : Int) else natOfDigits ds

/-- The leading digits as one integer, and the power of ten that belongs to it. -/
def scaled (t : NumberText) : Nat × Int :=
  let (n, used) := absorb 0 t.whole
  let (n', places) := absorb n (t.fraction.getD [])
  (n', t.exponentValue + (t.whole.length - used : Nat) - places)

def isWhole (t : NumberText) : Bool := t.fraction.isNone && t.exponent.isNone

def integer? (t : NumberText) : Option Int :=
  let (n, used) := absorb 0 t.whole
  if !t.isWhole || used < t.whole.length then none
  else if !t.negative then some n
  else if n = 0 || UInt64.size / 2 < n then none
  else some (-(n : Int))

/-- The number; none where it is beyond the greatest double. -/
def value? (t : NumberText) : Option Number :=
  match t.integer? with
  | some n => some (.integer n)
  | none => do
    let m ← Magnitude.ofNat? t.scaled.1
    let x ← m.scale10? t.scaled.2
    return .double ⟨t.negative,x⟩

end NumberText

/-- Doubles keep one decimal at least; from `1e+16` on and below `1e-5` they have an exponent. -/
def numberLayout : Layout :=
  { leastPlain := -5, greatestPlain := 15, exponentMark := "e", positiveSign := "+",
    wholeSuffix := ".0" }

def Number.render : Number → String
  | .integer n => toString n
  | .double x => x.render numberLayout

end InvocationHost.Json
