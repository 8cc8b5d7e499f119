import InvocationHost.Json.Decoder

/-! # Records

A record is read from an object by the names of its fields or from a list by their order. What has been
read so far is a draft; a field knows how to add itself to it. Members of other names are skipped, and
a field given twice is a fault before its second value is looked at.
-/
namespace InvocationHost.Json
open Text

structure Field (δ : Type) where
  key : String
  /-- A list may not end before a required field. -/
  required : Bool
  isSet : δ → Bool
  read : Nat → Tree → δ → Except Fault δ

def Field.of (key : String) (required : Bool) (get : δ → Option α) (set : α → δ → δ)
    (d : Decoder α) : Field δ :=
  ⟨key,required,fun draft => (get draft).isSome,
   fun depth t draft => (d depth t).map fun a => set a draft⟩

/-- The value of a field that must have been given. -/
def require (key : String) : Option α → Except Problem α
  | some a => .ok a
  | none => .error (.missingField key)

structure Record (δ α : Type) where
  name : String
  fields : List (Field δ)
  blank : δ
  /-- The value of a draft to which nothing is added any more. -/
  complete : δ → Except Problem α

namespace Record

def readMembers (fields : List (Field δ)) (depth : Nat) : δ → List Member → Except Fault δ
  | draft, [] => .ok draft
  | draft, (name, t) :: rest => do
    let k ← name.text
    match fields.find? (·.key == k) with
    | none =>
      t.skip
      readMembers fields depth draft rest
    | some f =>
      if f.isSet draft then .error ⟨.duplicateField k,name.after⟩
      else readMembers fields depth (← f.read depth t draft) rest

/-- The end of a list that has given every field. -/
def afterFields : List Tree → Close → Except Fault Unit
  | t :: _, _ => .error ⟨.trailingCharacters,t.head⟩
  | [], .fault ⟨.expectedListEnd,behind⟩ _ => .error ⟨.trailingCharacters,behind⟩
  | [], close => close.check

def readItems (r : Record δ α) (depth : Nat) (span : Span) (close : Close) :
    Nat → δ → List (Field δ) → List Tree → Except Fault δ
  | _, draft, [], items => do
    afterFields items close
    return draft
  | n, draft, f :: fs, [] => do
    close.check
    if f.required then .error ⟨.wrongLength n r.name r.fields.length,span.stop⟩
    else readItems r depth span close n draft fs []
  | n, draft, f :: fs, t :: ts => do
    readItems r depth span close (n + 1) (← f.read depth t draft) fs ts

/-- What a draft lacks is noticed behind the end of the record. -/
def completed (r : Record δ α) (span : Span) (draft : δ) : Except Fault α :=
  (r.complete draft).mapError fun problem => ⟨problem,span.stop⟩

def decoder (r : Record δ α) : Decoder α := fun depth t =>
  match t with
  | .object span members close => Decoder.deeper depth span fun inner => do
    let draft ← readMembers r.fields inner r.blank members
    close.check
    r.completed span draft
  | .list span items close => Decoder.deeper depth span fun inner => do
    let draft ← readItems r inner span close 0 r.blank r.fields items
    r.completed span draft
  | t => t.mismatch (.record r.name)

end Record
end InvocationHost.Json
