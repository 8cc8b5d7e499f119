/-! # Decimal numerals of bounded integers

A numeral is a sign, which may be missing, and at least one ASCII digit. Reading goes from left to
right and stops at the first fault, so a value that has left the bounds is reported before a
foreign character further on.
-/
namespace InvocationHost.Text

inductive NumeralError
  | empty
  | invalidDigit
  | tooLarge
  | tooSmall
  deriving DecidableEq, Repr

def NumeralError.message : NumeralError → String
  | .empty => "cannot parse integer from empty string"
  | .invalidDigit => "invalid digit found in string"
  | .tooLarge => "number too large to fit in target type"
  | .tooSmall => "number too small to fit in target type"

def digit? (c : Char) : Option Nat := if c.isDigit then some (c.toNat - '0'.toNat) else none

/-- The value of a hexadecimal digit of either case. -/
def hexValue? (c : Char) : Option Nat :=
  if c.isDigit then some (c.toNat - '0'.toNat)
  else if 'a' ≤ c && c ≤ 'f' then some (c.toNat - 'a'.toNat + 10)
  else if 'A' ≤ c && c ≤ 'F' then some (c.toNat - 'A'.toNat + 10)
  else none

/-- Reads digits after a number already read, as long as it stays within the limit. -/
def readDigits (limit : Nat) (outside : NumeralError) : Nat → List Char → Except NumeralError Nat
  | n, [] => .ok n
  | n, c :: r =>
    match digit? c with
    | none => .error .invalidDigit
    | some d => if 10 * n + d ≤ limit then readDigits limit outside (10 * n + d) r
      else .error outside

/-- A minus sign belongs to the numeral only where the bounds admit a negative value. -/
def readInt (least greatest : Int) (s : List Char) : Except NumeralError Int :=
  match s with
  | [] => .error .empty
  | ['+'] => .error .invalidDigit
  | ['-'] => .error .invalidDigit
  | '+' :: r => (readDigits greatest.toNat .tooLarge 0 r).map Int.ofNat
  | '-' :: r =>
    if least < 0 then (readDigits least.natAbs .tooSmall 0 r).map fun n => -(n : Int)
    else .error .invalidDigit
  | _ => (readDigits greatest.toNat .tooLarge 0 s).map Int.ofNat

def leastInt64 : Int := -9223372036854775808

def greatestInt64 : Int := 9223372036854775807

def readInt64 (s : List Char) : Except NumeralError Int := readInt leastInt64 greatestInt64 s

def readInt32 (s : List Char) : Except NumeralError Int := readInt (-2147483648) 2147483647 s

def readUInt32 (s : List Char) : Except NumeralError UInt32 :=
  (readInt 0 (UInt32.size - 1) s).map fun n => UInt32.ofNat n.toNat

end InvocationHost.Text
