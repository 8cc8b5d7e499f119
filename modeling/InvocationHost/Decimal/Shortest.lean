import InvocationHost.Decimal.Binary64

/-! # The shortest decimal of a double

The decimals that read back as a given double form an interval around it. `shortest` takes the
coarsest decimal grid that has a point in the interval and, of its points there, the nearest.
-/
namespace InvocationHost.Decimal

/-- `digits * 10 ^ exponent`. -/
structure Scientific where
  digits : Nat
  exponent : Int
  deriving DecidableEq, Repr

namespace Magnitude

/-- Four times the value and the ends of its interval, in units of `2 ^ exponent`. -/
def ends (m : Magnitude) : Nat × Nat × Nat :=
  let low := if m.mantissa = pow2 52 && -1074 < m.exponent then 1 else 2
  (4 * m.mantissa - low, 4 * m.mantissa, 4 * m.mantissa + 2)

/-- The ends belong to the interval where a tie would be resolved to this magnitude. -/
def holdsEnds (m : Magnitude) : Bool := m.mantissa % 2 == 0

/-- The point of the grid `10 ^ k` nearest to the magnitude, if it reads back as it. -/
def gridPoint? (m : Magnitude) (k : Int) : Option Nat :=
  let (low, value, high) := m.ends
  let up := pow2 (m.exponent - 2).toNat * pow10 (-k).toNat
  let unit := pow2 (2 - m.exponent).toNat * pow10 k.toNat
  let inside (d : Nat) : Bool :=
    d != 0 && if m.holdsEnds then low * up ≤ d * unit && d * unit ≤ high * up
      else low * up < d * unit && d * unit < high * up
  let below := value * up / unit
  let nearest := roundDiv (value * up) unit
  let other := if nearest = below then below + 1 else below
  if inside nearest then some nearest else if inside other then some other else none

/-- Tries ever finer grids, of which every magnitude has a point at the latest on the finest. -/
def searchGrid (m : Magnitude) : Nat → Int → Scientific
  | 0, k => ⟨0,k⟩
  | n + 1, k =>
    match gridPoint? m k with
    | some d => ⟨d,k⟩
    | none => searchGrid m n (k - 1)

def shortest (m : Magnitude) : Scientific :=
  if m.mantissa = 0 then ⟨0,0⟩ else searchGrid m 640 309

end Magnitude

/-- Which decimal exponents are written out, and how the others are. -/
structure Layout where
  leastPlain : Int
  greatestPlain : Int
  exponentMark : String
  positiveSign : String
  wholeSuffix : String
  deriving Repr

namespace Layout

/-- Writes the digits with the point after the first `1 + x` of them, for `x` the decimal exponent. -/
def render (layout : Layout) (s : Scientific) : String :=
  let ds := Nat.toDigits 10 s.digits
  let x : Int := if s.digits = 0 then 0 else s.exponent + (ds.length : Int) - 1
  let text (cs : List Char) := String.ofList cs
  if x < layout.leastPlain || layout.greatestPlain < x then
    let fraction := if ds.length = 1 then "" else "." ++ text ds.tail
    let sign := if 0 ≤ x then layout.positiveSign else "-"
    text (ds.take 1) ++ fraction ++ layout.exponentMark ++ sign ++ toString x.natAbs
  else if x < 0 then
    "0." ++ text (List.replicate (-x - 1).toNat '0' ++ ds)
  else
    let whole := ds.take (x.toNat + 1)
    let zeros := List.replicate (x.toNat + 1 - whole.length) '0'
    let rest := ds.drop (x.toNat + 1)
    text (whole ++ zeros) ++ if rest.isEmpty then layout.wholeSuffix else "." ++ text rest

end Layout

def Binary64.render (layout : Layout) (x : Binary64) : String :=
  (if x.negative then "-" else "") ++ layout.render x.magnitude.shortest

end InvocationHost.Decimal
