/-! # Doubles

A double is a sign with a multiple of a power of two, at most 53 bits wide and no finer than
2 ^ (-1074). `ofRatio?` is the double nearest to a quotient, ties to even.
-/
namespace InvocationHost.Decimal

def pow2 (n : Nat) : Nat := Nat.pow 2 n

def pow10 (n : Nat) : Nat := Nat.pow 10 n

/-- The absolute value of a double, `mantissa * 2 ^ exponent`. -/
structure Magnitude where
  mantissa : Nat
  exponent : Int
  deriving DecidableEq, Repr

namespace Magnitude

def zero : Magnitude := ⟨0,-1074⟩

/-- Numerator and denominator of a magnitude. -/
def ratio (m : Magnitude) : Nat × Nat :=
  (m.mantissa * pow2 m.exponent.toNat, pow2 (-m.exponent).toNat)

/-- The quotient, rounded to nearest; of two nearest the even one. -/
def roundDiv (num den : Nat) : Nat :=
  let q := num / den
  let r := num % den
  if 2 * r < den || (2 * r == den && q % 2 == 0) then q else q + 1

/-- The binary exponent of the leading digit of a positive quotient. -/
def leadingExponent (num den : Nat) : Int :=
  let e := (num.log2 : Int) - (den.log2 : Int)
  if num * pow2 (-e).toNat < den * pow2 e.toNat then e - 1 else e

/-- The nearest magnitude; none where the quotient is beyond the greatest double. -/
def ofRatio? (num den : Nat) : Option Magnitude :=
  if num = 0 then some zero
  else
    let e := max (leadingExponent num den - 52) (-1074)
    let m := roundDiv (num * pow2 (-e).toNat) (den * pow2 e.toNat)
    let r : Magnitude := if m = pow2 53 then ⟨pow2 52,e + 1⟩ else ⟨m,e⟩
    if 971 < r.exponent then none else some r

def ofNat? (n : Nat) : Option Magnitude := ofRatio? n 1

def mul? (a b : Magnitude) : Option Magnitude :=
  ofRatio? (a.ratio.1 * b.ratio.1) (a.ratio.2 * b.ratio.2)

def div? (a b : Magnitude) : Option Magnitude :=
  ofRatio? (a.ratio.1 * b.ratio.2) (a.ratio.2 * b.ratio.1)

def greatestPower : Nat := 308

def pow10? (k : Nat) : Option Magnitude := ofNat? (pow10 k)

/-- Scales by a power of ten in steps of at most `greatestPower` places, rounding at each step. -/
def scale10? (m : Magnitude) (e : Int) : Option Magnitude :=
  if m.mantissa = 0 then some zero
  else if 0 ≤ e then
    if e ≤ greatestPower then do mul? m (← pow10? e.toNat) else none
  else if -greatestPower ≤ e then do div? m (← pow10? (-e).toNat)
  else if -2 * greatestPower ≤ e then do
    let first ← div? m (← pow10? greatestPower)
    div? first (← pow10? (-e - greatestPower).toNat)
  else some zero

end Magnitude

structure Binary64 where
  negative : Bool
  magnitude : Magnitude
  deriving DecidableEq, Repr

end InvocationHost.Decimal
