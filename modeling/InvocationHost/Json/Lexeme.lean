import InvocationHost.Json.Fault

/-! # Lexemes of a JSON text

The lexer looks at one character at a time and never fails: what cannot be read becomes a lexeme of
its own, and the reader behind it decides what that means where it stands. A text is read in two ways
at once, since a value that is skipped is checked less than one that is decoded. Every lexeme knows
the part of the text that it was read from.
-/
namespace InvocationHost.Json
open Text

inductive Token
  | openList
  | closeList
  | openObject
  | closeObject
  | comma
  | colon
  | null
  | bool (b : Bool)
  /-- A number; a fault if it is beyond the greatest double. -/
  | number (n : Except Fault Number)
  /-- A text; a fault that does not matter where the text is skipped. -/
  | text (s : Except Fault String)
  /-- A literal, number or text that breaks off, with the faults that decoding and skipping meet. -/
  | broken (isText : Bool) (decoded skipped : Fault)
  /-- A character that starts no lexeme. -/
  | stray

structure Lexeme where
  token : Token
  span : Span

inductive TextPlace
  | plain
  | escape
  | hex (left value : Nat)

structure TextState where
  /-- In front of the quote that opens the text. -/
  start : Position
  place : TextPlace := .plain
  /-- The characters read, the latest first. -/
  chars : List Char := []
  /-- A high surrogate whose partner is still to come. -/
  high : Option Nat := none
  strayed : Bool := false
  fault : Option Fault := none

namespace TextState

/-- Only the first fault counts. -/
def fail (s : TextState) (problem : Problem) (behind : Position) : TextState :=
  { s with fault := s.fault.or (some ⟨problem,behind⟩) }

/-- Between characters a high surrogate without a partner is a fault. -/
def push (s : TextState) (c : Char) (behind : Position) : TextState :=
  match s.high with
  | some _ => { s.fail .unfinishedPair behind with place := .plain, high := none }
  | none => { s with place := .plain, chars := c :: s.chars }

def isHighSurrogate (n : Nat) : Bool := 0xD800 ≤ n && n ≤ 0xDBFF

def isLowSurrogate (n : Nat) : Bool := 0xDC00 ≤ n && n ≤ 0xDFFF

def pair (high low : Nat) : Char := Char.ofNat (0x10000 + (high - 0xD800) * 0x400 + (low - 0xDC00))

/-- Takes a code unit that was given in hexadecimal. -/
def pushUnit (s : TextState) (n : Nat) (behind : Position) : TextState :=
  let s := { s with place := .plain }
  match s.high with
  | some h =>
    if isLowSurrogate n then { s with high := none, chars := pair h n :: s.chars }
    else { s.fail .loneSurrogate behind with high := none }
  | none =>
    if isLowSurrogate n then s.fail .loneSurrogate behind
    else if isHighSurrogate n then { s with high := some n }
    else { s with chars := Char.ofNat n :: s.chars }

def pushStray (s : TextState) (behind : Position) : TextState :=
  match s.high with
  | some _ => { s.fail .unfinishedPair behind with high := none, strayed := true }
  | none => { s with strayed := true }

def result (s : TextState) (behind : Position) : Except Fault String :=
  match s.fault, s.high with
  | some f, _ => .error f
  | none, some _ => .error ⟨.unfinishedPair,behind⟩
  | none, none =>
    if s.strayed then .error ⟨.invalidCodePoint,behind⟩ else .ok (String.ofList s.chars.reverse)

def broken (s : TextState) (f : Fault) : Token := .broken true (s.fault.getD f) f

/-- The text breaks off where the partner of a high surrogate might have come. -/
def brokenAt (s : TextState) (decoded skipped : Fault) : Token :=
  match s.high with
  | some _ => .broken true (s.fault.getD { decoded with problem := .unfinishedPair }) skipped
  | none => .broken true (s.fault.getD decoded) skipped

end TextState

def escaped? : Char → Option Char
  | '"' => some '"'
  | '\\' => some '\\'
  | '/' => some '/'
  | 'b' => some '\x08'
  | 'f' => some '\x0c'
  | 'n' => some '\n'
  | 'r' => some '\r'
  | 't' => some '\t'
  | _ => none

inductive NumberPlace
  | sign
  | zero
  | whole
  | point
  | fraction
  | exponentMark
  | exponentSign
  | exponent

namespace NumberText

def greatestExponent : Nat := 2147483647

/-- The number of digits behind the one with which a number becomes too large for an exponent. -/
def unread : Nat → List Char → Nat
  | _, [] => 0
  | n, c :: r =>
    let n' := 10 * n + (Text.digit? c).getD 0
    if n' ≤ greatestExponent then unread n' r else r.length

/-- The number that ends here. One that is too large is given up at the digit that shows it. -/
def read (t : NumberText) (stop : Position) : Except Fault Number :=
  match t.value? with
  | some n => .ok n
  | none => .error ⟨.numberOutOfRange,stop.back (unread 0 ((t.exponent.map Prod.snd).getD []))⟩

end NumberText

/-- What has been begun, and where. -/
inductive Mode
  | between
  | literal (start : Position) (rest : List Char) (token : Token)
  | number (start : Position) (place : NumberPlace) (text : NumberText)
  | text (state : TextState)
  | halted

abbrev Step := List Lexeme × Mode

namespace Mode
variable (here : Position)

def halt (start : Position) (t : Token) : Step := ([⟨t,⟨start,here⟩⟩], .halted)

/-- A fault that decoding and skipping meet alike. -/
def haltWith (start : Position) (f : Fault) : Step := halt here start (.broken false f f)

def isSpace (c : Char) : Bool := c = ' ' || c = '\t' || c = '\n' || c = '\r'

def single (c : Char) (t : Token) : Step := ([⟨t,⟨here,here.past (.char c)⟩⟩], .between)

def start (c : Char) : Step :=
  if isSpace c then ([], .between)
  else match c with
    | '[' => single here c .openList
    | ']' => single here c .closeList
    | '\x7b' => single here c .openObject
    | '\x7d' => single here c .closeObject
    | ',' => single here c .comma
    | ':' => single here c .colon
    | '"' => ([], .text { start := here })
    | 'n' => ([], .literal here "ull".toList .null)
    | 't' => ([], .literal here "rue".toList (.bool true))
    | 'f' => ([], .literal here "alse".toList (.bool false))
    | '-' => ([], .number here .sign ⟨true,[],none,none⟩)
    | '0' => ([], .number here .zero ⟨false,['0'],none,none⟩)
    | c =>
      if c.isDigit then ([], .number here .whole ⟨false,[c],none,none⟩) else single here c .stray

def inLiteral (c : Char) (start : Position) (token : Token) : List Char → Step
  | [] => Mode.start here c
  | [e] =>
    if c = e then ([⟨token,⟨start,here.past (.char c)⟩⟩], .between)
    else haltWith here start ⟨.expectedLiteral,here.into (.char c)⟩
  | e :: rest =>
    if c = e then ([], .literal start rest token)
    else haltWith here start ⟨.expectedLiteral,here.into (.char c)⟩

def badNumber (start : Position) (g : Glyph) : Step :=
  haltWith here start ⟨.invalidNumber,here.into g⟩

def endNumber (start : Position) (t : NumberText) (c : Char) : Step :=
  (⟨.number (t.read here),⟨start,here⟩⟩ :: (Mode.start here c).1, (Mode.start here c).2)

def addWhole (t : NumberText) (c : Char) : NumberText := { t with whole := t.whole ++ [c] }

def addFraction (t : NumberText) (c : Char) : NumberText :=
  { t with fraction := some (t.fraction.getD [] ++ [c]) }

def addExponent (t : NumberText) (c : Char) : NumberText :=
  { t with exponent := some ((t.exponent.map Prod.fst).getD false,
                             ((t.exponent.map Prod.snd).getD []) ++ [c]) }

def isExponentMark (c : Char) : Bool := c = 'e' || c = 'E'

def inNumber (c : Char) (start : Position) (t : NumberText) : NumberPlace → Step
  | .sign =>
    if c = '0' then ([], .number start .zero (addWhole t c))
    else if c.isDigit then ([], .number start .whole (addWhole t c))
    else badNumber here start (.char c)
  | .zero =>
    if c.isDigit then badNumber here start (.char c)
    else if c = '.' then ([], .number start .point t)
    else if isExponentMark c then ([], .number start .exponentMark t) else endNumber here start t c
  | .whole =>
    if c.isDigit then ([], .number start .whole (addWhole t c))
    else if c = '.' then ([], .number start .point t)
    else if isExponentMark c then ([], .number start .exponentMark t) else endNumber here start t c
  | .point =>
    if c.isDigit then ([], .number start .fraction (addFraction t c))
    else badNumber here start (.char c)
  | .fraction =>
    if c.isDigit then ([], .number start .fraction (addFraction t c))
    else if isExponentMark c then ([], .number start .exponentMark t) else endNumber here start t c
  | .exponentMark =>
    if c = '+' || c = '-' then
      ([], .number start .exponentSign { t with exponent := some (c == '-', []) })
    else if c.isDigit then ([], .number start .exponent (addExponent t c))
    else badNumber here start (.char c)
  | .exponentSign =>
    if c.isDigit then ([], .number start .exponent (addExponent t c))
    else badNumber here start (.char c)
  | .exponent =>
    if c.isDigit then ([], .number start .exponent (addExponent t c)) else endNumber here start t c

/-- The bytes that still follow, counted as far as an escape needs them. -/
def bytesLeft (rest : List Glyph) : Nat := (rest.take 4).foldl (fun n g => n + g.width) 0

/-- Decoding takes a character before it looks at it, and all four digits of an escape at once. -/
def inText (c : Char) (rest : List Glyph) (s : TextState) : Step :=
  let behind := here.into (.char c)
  match s.place with
  | .plain =>
    if c = '"' then ([⟨.text (s.result behind),⟨s.start,behind⟩⟩], .between)
    else if c = '\\' then ([], .text { s with place := .escape })
    else if c.toNat < 0x20 then
      halt here s.start (s.brokenAt ⟨.controlCharacter,behind⟩ ⟨.controlCharacter,here⟩)
    else ([], .text (s.push c behind))
  | .escape =>
    if c = 'u' then
      if bytesLeft rest < 4 then halt here s.start (s.broken ⟨.endOfText,behind.pastAll rest⟩)
      else ([], .text { s with place := .hex 4 0 })
    else match escaped? c with
      | some e => ([], .text (s.push e behind))
      | none => halt here s.start (s.brokenAt ⟨.invalidEscape,behind⟩ ⟨.invalidEscape,behind⟩)
  | .hex left value =>
    match hexValue? c with
    | none => halt here s.start (s.broken ⟨.invalidEscape,here.pastBytes left (.char c :: rest)⟩)
    | some d =>
      if left ≤ 1 then ([], .text (s.pushUnit (16 * value + d) behind))
      else ([], .text { s with place := .hex (left - 1) (16 * value + d) })

def atStray (b : UInt8) (rest : List Glyph) : Mode → Step
  | .between => ([⟨.stray,⟨here,here.past (.stray b)⟩⟩], .between)
  | .literal start .. => haltWith here start ⟨.expectedLiteral,here.into (.stray b)⟩
  | .number start place t =>
    match place with
    | .sign | .point | .exponentMark | .exponentSign => badNumber here start (.stray b)
    | _ =>
      ([⟨.number (t.read here),⟨start,here⟩⟩, ⟨.stray,⟨here,here.past (.stray b)⟩⟩], .between)
  | .text s =>
    let behind := here.into (.stray b)
    match s.place with
    | .plain => ([], .text (s.pushStray behind))
    | .escape => halt here s.start (s.brokenAt ⟨.invalidEscape,behind⟩ ⟨.invalidEscape,behind⟩)
    | .hex left _ =>
      halt here s.start (s.broken ⟨.invalidEscape,here.pastBytes left (.stray b :: rest)⟩)
  | .halted => ([], .halted)

def step (mode : Mode) (g : Glyph) (rest : List Glyph) : Step :=
  match g with
  | .stray b => atStray here b rest mode
  | .char c =>
    match mode with
    | .between => start here c
    | .literal start expected token => inLiteral here c start token expected
    | .number start place t => inNumber here c start t place
    | .text s => inText here c rest s
    | .halted => ([], .halted)

def finish : Mode → List Lexeme
  | .between => []
  | .literal start .. => [⟨.broken false ⟨.endOfValue,here⟩ ⟨.endOfValue,here⟩,⟨start,here⟩⟩]
  | .number start place t =>
    match place with
    | .sign | .point | .exponentMark | .exponentSign =>
      [⟨.broken false ⟨.endOfValue,here⟩ ⟨.invalidNumber,here⟩,⟨start,here⟩⟩]
    | _ => [⟨.number (t.read here),⟨start,here⟩⟩]
  | .text s => [⟨s.broken ⟨.endOfText,here⟩,⟨s.start,here⟩⟩]
  | .halted => []

end Mode

def lexFrom : Position → Mode → List Glyph → List Lexeme
  | here, mode, [] => mode.finish here
  | here, mode, g :: rest =>
    (mode.step here g rest).1 ++ lexFrom (here.past g) (mode.step here g rest).2 rest

def lex (text : List Glyph) : List Lexeme := lexFrom {} .between text

end InvocationHost.Json
