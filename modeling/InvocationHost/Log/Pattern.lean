import InvocationHost.Text.Alphanumeric
import InvocationHost.Text.Numeral

/-! # Patterns for the values of fields

A filter may ask for the value of a field by a pattern: a number, or a regular expression. Which
values a pattern fits is never asked here, but a filter is refused if one of its patterns cannot be
read. Classes that need the tables of Unicode (digits, words, case) cannot be.
-/
namespace InvocationHost.Log.Pattern
open Text

/-! ## Numbers -/

def isExponent : List Char → Bool
  | 'e' :: r => digitsAfterSign r
  | 'E' :: r => digitsAfterSign r
  | _ => false
where
  digitsAfterSign : List Char → Bool
    | '+' :: r => !r.isEmpty && r.all Char.isDigit
    | '-' :: r => !r.isEmpty && r.all Char.isDigit
    | r => !r.isEmpty && r.all Char.isDigit

/-- Digits with at most one point among them, and then an exponent or nothing. -/
def isDecimal (s : List Char) : Bool :=
  let whole := s.takeWhile Char.isDigit
  let (fraction, rest) := match s.dropWhile Char.isDigit with
    | '.' :: r => (r.takeWhile Char.isDigit, r.dropWhile Char.isDigit)
    | r => ([], r)
  !(whole.isEmpty && fraction.isEmpty) && (rest.isEmpty || isExponent rest)

def namedNumbers : List String := ["inf", "infinity", "nan"]

/-- A number with a plus sign. Without one, a number is also a regular expression. -/
def isPlusNumber : List Char → Bool
  | '+' :: r => isDecimal r || namedNumbers.contains (String.ofList (r.map Char.toLower))
  | _ => false

/-! ## Regular expressions -/

/-- Reads so many hexadecimal digits. -/
def readHex : Nat → Nat → List Char → Option (Nat × List Char)
  | 0, n, rest => some (n, rest)
  | k + 1, n, c :: rest => do
    let d ← hexValue? c
    readHex k (16 * n + d) rest
  | _ + 1, _, [] => none

def controls : List (Char × Char) :=
  [('a', '\x07'), ('f', '\x0c'), ('t', '\t'), ('n', '\n'), ('r', '\r'), ('v', '\x0b')]

/-- ASCII characters that stand for themselves after a backslash. -/
def isEscapable (c : Char) : Bool :=
  c.toNat < 128 && !c.isAlphanum && c ≠ '<' && c ≠ '>'

/-- Reads the character that an escape stands for, after the backslash. -/
def readEscape : List Char → Option (Char × List Char)
  | [] => none
  | 'x' :: r => code 2 r
  | 'u' :: r => code 4 r
  | 'U' :: r => code 8 r
  | c :: r => ((controls.lookup c).or (if isEscapable c then some c else none)).map fun d => (d, r)
where
  code (digits : Nat) (r : List Char) : Option (Char × List Char) := do
    let (n, r) ← readHex digits 0 r
    if n.isValidChar then return (Char.ofNat n, r) else none

def readClassChar : List Char → Option (Char × List Char)
  | [] => none
  | '\\' :: r => readEscape r
  | c :: r => some (c, r)

/-- What stands first in a class is taken as it is: a caret, dashes, and else a closing bracket. -/
def openClass (s : List Char) : List Char :=
  let s := match s with
    | '^' :: r => r
    | s => s
  match s with
  | ']' :: r => r
  | s => s.dropWhile (· = '-')

/-- Reads to the end of a class that is nested so deep; the first number bounds the characters. -/
def readClass : Nat → Nat → List Char → Option (List Char)
  | 0, _, _ => none
  | n + 1, depth, s =>
    match s with
    | [] => none
    | ']' :: r => if depth ≤ 1 then some r else readClass n (depth - 1) r
    | '[' :: r => readClass n (depth + 1) (openClass r)
    | '&' :: '&' :: r => readClass n depth r
    | '-' :: '-' :: r => readClass n depth r
    | '~' :: '~' :: r => readClass n depth r
    | s => do
      let (first, r) ← readClassChar s
      match r with
      | '-' :: ']' :: _ => readClass n depth r
      | '-' :: '-' :: _ => readClass n depth r
      | '-' :: r =>
        let (last, r) ← readClassChar r
        if first ≤ last then readClass n depth r else none
      | r => readClass n depth r

def isGroupName : List Char → Bool
  | [] => false
  | c :: r => (c = '_' || (isAlphanumeric c && !c.isDigit)) &&
      r.all fun d => isAlphanumeric d || d = '_' || d = '.' || d = '[' || d = ']'

def areFlags (s : List Char) : Bool :=
  s.all (['m', 's', 'U', 'u', 'R', 'x', '-'].contains ·) && s.getLast? ≠ some '-' &&
    s.eraseDups = s

/-- Reads what follows a question mark that opens a group; whether it does open one. -/
def readGroup (s : List Char) : Option (Bool × List Char) :=
  match s with
  | 'P' :: '<' :: r => named r
  | '<' :: r => named r
  | s =>
    let isEnd (c : Char) : Bool := c = ':' || c = ')'
    let flags := s.takeWhile (!isEnd ·)
    match s.dropWhile (!isEnd ·) with
    | ':' :: r => if areFlags flags then some (true, r) else none
    | ')' :: r => if areFlags flags && !flags.isEmpty then some (false, r) else none
    | _ => none
where
  named (r : List Char) : Option (Bool × List Char) :=
    match r.dropWhile (· ≠ '>') with
    | '>' :: rest => if isGroupName (r.takeWhile (· ≠ '>')) then some (true, rest) else none
    | _ => none

/-- So many groups are open, and there is something to repeat; the first number bounds the
characters. -/
def readExpression : Nat → Nat → Bool → List Char → Bool
  | 0, _, _, _ => false
  | n + 1, groups, operand, s =>
    match s with
    | [] => groups = 0
    | '(' :: '?' :: r =>
      match readGroup r with
      | some (true, r) => readExpression n (groups + 1) false r
      | some (false, r) => readExpression n groups false r
      | none => false
    | '(' :: r => readExpression n (groups + 1) false r
    | ')' :: r => groups ≠ 0 && readExpression n (groups - 1) true r
    | '|' :: r => readExpression n groups false r
    | '[' :: r => (readClass n 1 (openClass r)).any (readExpression n groups true ·)
    | '\\' :: 'A' :: r => readExpression n groups true r
    | '\\' :: 'z' :: r => readExpression n groups true r
    | '\\' :: r => (readEscape r).any fun p => readExpression n groups true p.2
    | '\x7b' :: _ => false
    | c :: r =>
      if c = '*' || c = '+' || c = '?' then operand && readExpression n groups true r
      else readExpression n groups true r

def isExpression (s : List Char) : Bool := readExpression (s.length + 1) 0 false s

/-- The pattern can be read. -/
def isReadable (s : List Char) : Bool := isPlusNumber s || isExpression s

end InvocationHost.Log.Pattern
