import InvocationHost.Json.Tree

/-! # Decoders

A decoder reads a tree as a value of one type, from left to right, and stops at the first fault. It
knows how many more lists and objects may be nested in what it reads.
-/
namespace InvocationHost.Json
open Text

abbrev Decoder (α : Type) := Nat → Tree → Except Fault α

/-- Lists and objects nested deeper than this are not decoded. -/
def maxDepth : Nat := 127

def Document.decode (doc : Document) (d : Decoder α) : Except Fault α := do
  let a ← d maxDepth doc.root
  match doc.trailing with
  | some behind => .error ⟨.trailingCharacters,behind⟩
  | none => .ok a

def Close.check : Close → Except Fault Unit
  | .proper => .ok ()
  | .fault decoded _ => .error decoded

namespace Tree

/-- What a tree is, and where the reader stands when it knows: in front of a list or an object, behind
everything else. -/
def found : Tree → Except Fault (Found × Position)
  | .null span => .ok (.null, span.stop)
  | .bool span b => .ok (.bool b, span.stop)
  | .number span n => n.map fun n => (.number n, span.stop)
  | .text span s => s.map fun s => (.text s, span.stop)
  | .list span .. => .ok (.sequence, span.start)
  | .object span .. => .ok (.map, span.start)
  | .broken _ decoded _ => .error decoded

/-- The fault of a tree that is not of the type asked for. -/
def mismatch (t : Tree) (expected : Expected) : Except Fault α := do
  let (found, here) ← t.found
  .error ⟨.invalidType found expected,here⟩

def closeSkipped : Close → Except Fault Unit
  | .proper => .ok ()
  | .fault _ skipped => .error skipped

mutual
/-- Checks a part that nobody asks for. -/
def skip : Tree → Except Fault Unit
  | .list _ items close => do
    skipItems items
    closeSkipped close
  | .object _ members close => do
    skipMembers members
    closeSkipped close
  | .broken _ _ skipped => .error skipped
  | _ => .ok ()

def skipItems : List Tree → Except Fault Unit
  | [] => .ok ()
  | t :: ts => do
    skip t
    skipItems ts

def skipMembers : List (MemberName × Tree) → Except Fault Unit
  | [] => .ok ()
  | (_, t) :: ms => do
    skip t
    skipMembers ms
end

end Tree

namespace Decoder

/-- Goes one level down into this part of the text, if there is a level left. -/
def deeper (depth : Nat) (span : Span) (inner : Nat → Except Fault α) : Except Fault α :=
  match depth with
  | 0 => .error ⟨.tooDeep,span.head⟩
  | d + 1 => inner d

def text : Decoder String := fun _ t =>
  match t with
  | .text _ s => s
  | t => t.mismatch .text

def int64 : Decoder Int64 := fun _ t =>
  match t with
  | .number span (.ok (.integer n)) =>
    if leastInt64 ≤ n && n ≤ greatestInt64 then .ok (Int64.ofInt n)
    else .error ⟨.outOfBounds n .int64,span.stop⟩
  | t => t.mismatch .int64

def uint32 : Decoder UInt32 := fun _ t =>
  match t with
  | .number span (.ok (.integer n)) =>
    if 0 ≤ n && n < UInt32.size then .ok (UInt32.ofNat n.toNat)
    else .error ⟨.outOfBounds n .uint32,span.stop⟩
  | t => t.mismatch .uint32

def optional (d : Decoder α) : Decoder (Option α) := fun depth t =>
  match t with
  | .null _ => .ok none
  | t => (d depth t).map some

def list (d : Decoder α) : Decoder (List α) := fun depth t =>
  match t with
  | .list span items close => deeper depth span fun inner => do
    let xs ← items.mapM (d inner)
    close.check
    return xs
  | t => t.mismatch .sequence

def map (f : α → β) (d : Decoder α) : Decoder β := fun depth t => (d depth t).map f

end Decoder
end InvocationHost.Json
