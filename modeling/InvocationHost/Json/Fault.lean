import InvocationHost.Json.Number
import InvocationHost.Text.Position
import InvocationHost.Text.Quoted

/-! # What can be wrong with a JSON text

A fault is the first thing that keeps a text from being read as a value of the type asked for: a
problem of the text itself, or a value of another type. It is told with the position at which the
reader stands when it meets the problem.
-/
namespace InvocationHost.Json

/-- The type asked for. -/
inductive Expected
  | text
  | sequence
  | map
  | uint32
  | int64
  | record (name : String)
  deriving DecidableEq, Repr

def Expected.describe : Expected → String
  | .text => "a string"
  | .sequence => "a sequence"
  | .map => "a map"
  | .uint32 => "u32"
  | .int64 => "i64"
  | .record name => "struct " ++ name

/-- The value met in its place. -/
inductive Found
  | null
  | bool (b : Bool)
  | number (n : Number)
  | text (s : String)
  | sequence
  | map
  deriving DecidableEq, Repr

def Found.describe : Found → String
  | .null => "null"
  | .bool b => s!"boolean `{b}`"
  | .number (.integer n) => s!"integer `{n}`"
  | .number (.double x) => s!"floating point `{x.render numberLayout}`"
  | .text s => "string " ++ Text.quoted s
  | .sequence => "sequence"
  | .map => "map"

inductive Problem
  | endOfValue
  | endOfList
  | endOfObject
  | endOfText
  | expectedValue
  | expectedLiteral
  | invalidNumber
  | numberOutOfRange
  | expectedListEnd
  | expectedObjectEnd
  | expectedColon
  | trailingComma
  | keyNotText
  | trailingCharacters
  | controlCharacter
  | invalidEscape
  | unfinishedPair
  | loneSurrogate
  | invalidCodePoint
  | tooDeep
  | invalidType (found : Found) (expected : Expected)
  | outOfBounds (n : Int) (expected : Expected)
  | missingField (name : String)
  | duplicateField (name : String)
  | wrongLength (length : Nat) (record : String) (fields : Nat)
  deriving DecidableEq, Repr

def Problem.message : Problem → String
  | .endOfValue => "EOF while parsing a value"
  | .endOfList => "EOF while parsing a list"
  | .endOfObject => "EOF while parsing an object"
  | .endOfText => "EOF while parsing a string"
  | .expectedValue => "expected value"
  | .expectedLiteral => "expected ident"
  | .invalidNumber => "invalid number"
  | .numberOutOfRange => "number out of range"
  | .expectedListEnd => "expected `,` or `]`"
  | .expectedObjectEnd => "expected `,` or `\x7d`"
  | .expectedColon => "expected `:`"
  | .trailingComma => "trailing comma"
  | .keyNotText => "key must be a string"
  | .trailingCharacters => "trailing characters"
  | .controlCharacter => "control character (\\u0000-\\u001F) found while parsing a string"
  | .invalidEscape => "invalid escape"
  | .unfinishedPair => "unexpected end of hex escape"
  | .loneSurrogate => "lone leading surrogate in hex escape"
  | .invalidCodePoint => "invalid unicode code point"
  | .tooDeep => "recursion limit exceeded"
  | .invalidType found expected =>
    s!"invalid type: {found.describe}, expected {expected.describe}"
  | .outOfBounds n expected => s!"invalid value: integer `{n}`, expected {expected.describe}"
  | .missingField name => s!"missing field `{name}`"
  | .duplicateField name => s!"duplicate field `{name}`"
  | .wrongLength length record fields =>
    let noun := if fields = 1 then "element" else "elements"
    s!"invalid length {length}, expected struct {record} with {fields} {noun}"

structure Fault where
  problem : Problem
  position : Text.Position
  deriving DecidableEq, Repr

def Fault.message (f : Fault) : String :=
  s!"{f.problem.message} at line {f.position.line} column {f.position.column}"

end InvocationHost.Json
