import InvocationHost.Json.Lexeme

/-! # The shape of a JSON text

A tree holds what a text says as far as it can be read. A fault of the text stays in the tree at the
place where reading meets it, so a decoder that walks from left to right meets the first fault first,
whether it is one of the text or one of the types. Skipped parts are held to fewer rules: each fault of
the text comes with what decoding and what skipping say of it.
-/
namespace InvocationHost.Json
open Text

inductive Close
  | proper
  | fault (decoded skipped : Fault)
  deriving DecidableEq, Repr

/-- The name of a member, and where the reader finds what follows it. -/
structure MemberName where
  text : Except Fault String
  after : Position

inductive Tree
  | null (span : Span)
  | bool (span : Span) (b : Bool)
  | number (span : Span) (n : Except Fault Number)
  | text (span : Span) (s : Except Fault String)
  | list (span : Span) (items : List Tree) (close : Close)
  | object (span : Span) (members : List (MemberName × Tree)) (close : Close)
  /-- No value; `head` is behind the first byte that stands in its place. -/
  | broken (head : Position) (decoded skipped : Fault)

abbrev Member := MemberName × Tree

/-- Behind the first byte of a tree. -/
def Tree.head : Tree → Position
  | .null span => span.head
  | .bool span _ => span.head
  | .number span _ => span.head
  | .text span _ => span.head
  | .list span _ _ => span.head
  | .object span _ _ => span.head
  | .broken head _ _ => head

structure Document where
  root : Tree
  /-- If more than blanks follows the value, behind the first byte of it. -/
  trailing : Option Position

/-- A container under construction: where it starts, and its parts, the latest first. -/
inductive Frame
  | list (start : Position) (items : List Tree)
  | object (start : Position) (members : List Member) (name : MemberName)

/-- What may come next, in a container that starts there; `item` and `key` follow a comma. -/
inductive Phase
  | value
  | firstItem (start : Position)
  | item (start : Position) (items : List Tree)
  | afterItem (start : Position) (items : List Tree)
  | firstKey (start : Position)
  | key (start : Position) (members : List Member)
  | colon (start : Position) (members : List Member) (key : Except Fault String)
  | afterMember (start : Position) (members : List Member)

namespace Document

/-- A fault ends all that is open around it. -/
def cut (t : Tree) (decoded skipped : Fault) : List Frame → Document
  | [] => ⟨t,none⟩
  | .list start items :: stack =>
    cut (.list ⟨start,start⟩ (t :: items).reverse (.fault decoded skipped)) decoded skipped stack
  | .object start members name :: stack =>
    cut (.object ⟨start,start⟩ ((name, t) :: members).reverse (.fault decoded skipped)) decoded skipped
      stack

def brokenValue (stack : List Frame) (head : Position) (decoded skipped : Fault) : Document :=
  cut (.broken head decoded skipped) decoded skipped stack

/-- At this position decoding meets one problem and skipping another in the place of a value. -/
def noValue (stack : List Frame) (behind : Position) (decoded skipped : Problem) : Document :=
  brokenValue stack behind ⟨decoded,behind⟩ ⟨skipped,behind⟩

def brokenList (stack : List Frame) (start : Position) (items : List Tree) (behind : Position)
    (decoded skipped : Problem) : Document :=
  cut (.list ⟨start,start⟩ items.reverse (.fault ⟨decoded,behind⟩ ⟨skipped,behind⟩)) ⟨decoded,behind⟩
    ⟨skipped,behind⟩ stack

def brokenObject (stack : List Frame) (start : Position) (members : List Member)
    (decoded skipped : Fault) : Document :=
  cut (.object ⟨start,start⟩ members.reverse (.fault decoded skipped)) decoded skipped stack

def noKey (stack : List Frame) (start : Position) (members : List Member) (behind : Position)
    (decoded skipped : Problem) : Document :=
  brokenObject stack start members ⟨decoded,behind⟩ ⟨skipped,behind⟩

end Document

inductive Builder
  | building (stack : List Frame) (phase : Phase)
  | finished (doc : Document)

namespace Builder
open Document

/-- Puts a complete tree where the innermost open container waits for it. -/
def place (t : Tree) : List Frame → Builder
  | [] => .finished ⟨t,none⟩
  | .list start items :: stack => .building stack (.afterItem start (t :: items))
  | .object start members name :: stack => .building stack (.afterMember start ((name, t) :: members))

def readValue (stack : List Frame) (l : Lexeme) : Builder :=
  match l.token with
  | .openList => .building stack (.firstItem l.span.start)
  | .openObject => .building stack (.firstKey l.span.start)
  | .null => place (.null l.span) stack
  | .bool b => place (.bool l.span b) stack
  | .number n => place (.number l.span n) stack
  | .text s => place (.text l.span s) stack
  | .broken _ decoded skipped => .finished (brokenValue stack l.span.head decoded skipped)
  | _ => .finished (noValue stack l.span.head .expectedValue .expectedValue)

def readKey (stack : List Frame) (start : Position) (members : List Member) (l : Lexeme) : Builder :=
  match l.token with
  | .text s => .building stack (.colon start members s)
  | .broken true decoded skipped => .finished (brokenObject stack start members decoded skipped)
  | _ => .finished (noKey stack start members l.span.head .keyNotText .keyNotText)

/-- A reader that gives up behind a name looks whether the object ends there. -/
def afterName (l : Lexeme) : Position :=
  match l.token with
  | .closeObject => l.span.stop
  | _ => l.span.start

def read (stack : List Frame) (l : Lexeme) : Phase → Builder
  | .value => readValue stack l
  | .firstItem start =>
    match l.token with
    | .closeList => place (.list ⟨start,l.span.stop⟩ [] .proper) stack
    | _ => readValue (.list start [] :: stack) l
  | .item start items =>
    match l.token with
    | .closeList => .finished (brokenList stack start items l.span.head .trailingComma .expectedValue)
    | _ => readValue (.list start items :: stack) l
  | .afterItem start items =>
    match l.token with
    | .comma => .building stack (.item start items)
    | .closeList => place (.list ⟨start,l.span.stop⟩ items.reverse .proper) stack
    | _ => .finished (brokenList stack start items l.span.head .expectedListEnd .expectedListEnd)
  | .firstKey start =>
    match l.token with
    | .closeObject => place (.object ⟨start,l.span.stop⟩ [] .proper) stack
    | _ => readKey stack start [] l
  | .key start members =>
    match l.token with
    | .closeObject => .finished (noKey stack start members l.span.head .trailingComma .keyNotText)
    | _ => readKey stack start members l
  | .colon start members key =>
    let frame : Frame := .object start members ⟨key,afterName l⟩
    match l.token with
    | .colon => .building (frame :: stack) .value
    | _ => .finished (noValue (frame :: stack) l.span.head .expectedColon .expectedColon)
  | .afterMember start members =>
    match l.token with
    | .comma => .building stack (.key start members)
    | .closeObject => place (.object ⟨start,l.span.stop⟩ members.reverse .proper) stack
    | _ => .finished (noKey stack start members l.span.head .expectedObjectEnd .expectedObjectEnd)

def step : Builder → Lexeme → Builder
  | .building stack phase, l => read stack l phase
  | .finished doc, l => .finished { doc with trailing := doc.trailing.or (some l.span.head) }

/-- The document, if the text ends here. -/
def finish (here : Position) : Builder → Document
  | .finished doc => doc
  | .building stack .value => noValue stack here .endOfValue .endOfValue
  | .building stack (.firstItem start) => brokenList stack start [] here .endOfList .endOfList
  | .building stack (.item start items) =>
    noValue (.list start items :: stack) here .endOfValue .endOfValue
  | .building stack (.afterItem start items) =>
    brokenList stack start items here .endOfList .endOfList
  | .building stack (.firstKey start) => noKey stack start [] here .endOfObject .endOfObject
  | .building stack (.key start members) =>
    noKey stack start members here .endOfValue .endOfObject
  | .building stack (.colon start members key) =>
    noValue (.object start members ⟨key,here⟩ :: stack) here .endOfObject .endOfObject
  | .building stack (.afterMember start members) =>
    noKey stack start members here .endOfObject .endOfObject

def run (b : Builder) (ls : List Lexeme) : Builder := ls.foldl step b

end Builder

namespace Document

def ofGlyphs (text : List Glyph) : Document :=
  ((Builder.building [] .value).run (lex text)).finish (Position.pastAll {} text)

def ofString (s : String) : Document := ofGlyphs (glyphs s)

def ofBytes (bytes : List UInt8) : Document := ofGlyphs (scan bytes)

end Document
end InvocationHost.Json
