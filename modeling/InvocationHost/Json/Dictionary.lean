import InvocationHost.Json.Decoder

/-! # Dictionaries

A dictionary is a list of entries in the order of their keys. Of two entries for one key the later
counts.
-/
namespace InvocationHost.Json

abbrev Dictionary (α : Type) := List (String × α)

namespace Dictionary

def insert (key : String) (a : α) : Dictionary α → Dictionary α
  | [] => [(key, a)]
  | (k, b) :: rest =>
    if key = k then (key, a) :: rest
    else if key < k then (key, a) :: (k, b) :: rest
    else (k, b) :: insert key a rest

def ofEntries (entries : List (String × α)) : Dictionary α :=
  entries.foldl (fun d e => insert e.1 e.2 d) []

end Dictionary

/-- The members of an object in the order in which they stand. -/
def Decoder.members (d : Decoder α) : Nat → List Member → Except Fault (List (String × α))
  | _, [] => .ok []
  | depth, (name, t) :: rest => do
    let k ← name.text
    let a ← d depth t
    return (k, a) :: (← members d depth rest)

def Decoder.dictionary (d : Decoder α) : Decoder (Dictionary α) := fun depth t =>
  match t with
  | .object span ms close => deeper depth span fun inner => do
    let entries ← members d inner ms
    close.check
    return Dictionary.ofEntries entries
  | t => t.mismatch .map

end InvocationHost.Json
