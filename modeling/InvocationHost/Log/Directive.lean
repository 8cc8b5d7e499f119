import InvocationHost.Log.Event
import InvocationHost.Log.Pattern
import InvocationHost.Text.Blank
import InvocationHost.Text.Cut

/-! # Directives of log filters

A directive is a threshold, a target, or both with an equals sign between them. After the target may
stand, in brackets, what else is asked: `target[span{field=value}]=threshold`.
-/
namespace InvocationHost.Log
open Text

/-- The greatest rank that is let through; zero lets nothing through. -/
abbrev Threshold := Nat

def thresholds : List (String × Threshold) :=
  [("off", 0), ("error", 1), ("warn", 2), ("info", 3), ("debug", 4), ("trace", 5)]

def everything : Threshold := 5

/-- A threshold by its name in any case, or by its number. -/
def threshold? (s : List Char) : Option Threshold :=
  match readInt 0 everything s with
  | .ok n => some n.toNat
  | .error _ => thresholds.lookup (String.ofList (s.map Char.toLower))

structure Directive where
  target : List Char := []
  threshold : Threshold := everything
  /-- The event must have a field of this name. -/
  field? : Option String := none
  /-- The directive is for events inside of certain spans only: of a name, or by the value of a
  field. -/
  inSpan : Bool := false
  deriving DecidableEq, Repr

namespace Directive

/-- Where the reading of a directive stands, with the text that has not been understood yet. -/
inductive Place
  | start
  /-- A threshold or a target. -/
  | word (text : List Char)
  | span (text : List Char)
  | field (text : List Char)
  | afterField
  | afterSpan
  | threshold (text : List Char)
  deriving DecidableEq, Repr

structure Reading where
  place : Place := .start
  directive : Directive := {}
  deriving DecidableEq, Repr

def beginsWord (c : Char) : Bool := isAlphanumeric c || c = '-' || c = ':' || c = '_'

/-- Asks for a field; with a value it is one of a span. -/
def withField? (d : Directive) (text : List Char) : Option Directive :=
  match pieces (· = '=') text with
  | name :: value :: _ =>
    if Pattern.isReadable value then
      some { d with field? := String.ofList name, inSpan := true }
    else none
  | _ => if text.isEmpty then none else some { d with field? := String.ofList text }

/-- Reads on by one character; `kept` is what becomes part of a text. -/
def Reading.next? (r : Reading) (c kept : Char) : Option Reading :=
  let d := r.directive
  match r.place with
  | .start =>
    if c = '[' then some ⟨.span [],d⟩
    else if beginsWord c then some ⟨.word [kept],d⟩ else none
  | .word text =>
    if c = '=' then some ⟨.threshold [],{ d with target := text }⟩
    else if c = '[' then some ⟨.span [],{ d with target := text }⟩
    else some ⟨.word (text ++ [kept]),d⟩
  | .span text =>
    if c = ']' then some ⟨.afterSpan,{ d with inSpan := true }⟩
    else if c = '\x7b' then some ⟨.field [],{ d with inSpan := !text.isEmpty }⟩
    else some ⟨.span (text ++ [kept]),d⟩
  | .field text =>
    if c = '\x7d' then (d.withField? text).map (⟨.afterField,·⟩)
    else some ⟨.field (text ++ [kept]),d⟩
  | .afterField => if c = ']' then some ⟨.afterSpan,d⟩ else none
  | .afterSpan => if c = '=' then some ⟨.threshold [],d⟩ else none
  | .threshold text => some ⟨.threshold (text ++ [kept]),d⟩

/-- The directive at the end of the reading; `rest` belongs to the last text. -/
def Reading.finish? (r : Reading) (rest : List Char) : Option Directive :=
  let d := r.directive
  match r.place with
  | .word text =>
    match threshold? (text ++ rest) with
    | some threshold => some { d with threshold }
    | none => some { d with target := text ++ rest }
  | .threshold text =>
    if (text ++ rest).isEmpty then some d
    else (threshold? (text ++ rest)).map fun threshold => { d with threshold }
  | .afterSpan => some d
  | _ => none

/-- The marks are looked for in the trimmed text, but what lies between them is taken from the same
places of the text as it came. So a blank at the end belongs to the last word, and one in front moves
every word by a place. -/
def parse? (text : List Char) : Option Directive := do
  let trimmed := trim text
  let r ← (trimmed.zip text).foldlM (fun (r : Reading) p => r.next? p.1 p.2) {}
  r.finish? (text.drop trimmed.length)

/-- The host opens no spans. -/
def appliesTo (d : Directive) (e : Event) : Bool :=
  !d.inSpan && startsWith d.target e.target.toList && d.field?.all e.hasField

/-- Of two directives for one event, the greater asks for more: a longer target, then a field, then
the later one in the order of names. -/
def demand (a b : Directive) : Ordering :=
  (compare a.target.length b.target.length).then (compare a.field? b.field?)

end Directive
end InvocationHost.Log
