import InvocationHost.Taxonomy
import Mathlib.Data.List.Induction

/-! # Overrides as maps

A taxonomy is built by calls, of which each is about one subject: the errors of a type, known by its name, or the
panics with a payload of a type, known by the type itself. A subject has the tag of the last call about it, and the
default if there is none, so that calls about different subjects have nothing to do with each other.
-/
namespace InvocationHost.Taxonomy
open Panic (ValueType Payload)

/-- What a tag is looked up by. -/
inductive Subject
  | errors (name : String)
  | panics (type : ValueType)
  deriving DecidableEq

inductive Call
  | overrideError (name tag : String)
  | overridePanic (type : ValueType) (tag : String)
  | registerPanic (type : ValueType)
  deriving DecidableEq

def Call.subject : Call → Subject
  | .overrideError name _ => .errors name
  | .overridePanic type _ => .panics type
  | .registerPanic type => .panics type

/-- The tag that a call gives to its subject. -/
def Call.tag : Call → String
  | .overrideError _ tag => tag
  | .overridePanic _ tag => tag
  | .registerPanic type => "Runtime.Panic." ++ TypeName.short type.name

def call (t : Taxonomy) : Call → Taxonomy
  | .overrideError name tag => t.overrideError name tag
  | .overridePanic type tag => t.overridePanic type tag
  | .registerPanic type => t.registerPanic type

def ofCalls (calls : List Call) : Taxonomy := calls.foldl call {}

def override? (t : Taxonomy) : Subject → Option String
  | .errors name => t.errorTags.lookup name
  | .panics type => t.panicTags.lookup type

/-- The calls about one subject, in their order. -/
def about (s : Subject) (calls : List Call) : List Call := calls.filter (·.subject = s)

def lastTag (s : Subject) (calls : List Call) : Option String := (about s calls).getLast?.map Call.tag

/-- Two taxonomies under which everything is tagged alike. -/
structure SameTags (t u : Taxonomy) : Prop where
  errors : ∀ name, t.errorTag name = u.errorTag name
  panics : ∀ payload, t.panicTag payload = u.panicTag payload

variable {calls calls' before later : List Call} {c d : Call} {s : Subject}

theorem lookup_cons_eq {α β : Type} [DecidableEq α] (key other : α) (value : β) (table : List (α × β)) :
    ((other,value) :: table).lookup key = if other = key then some value else table.lookup key := by
  rw [List.lookup_cons]
  by_cases h : other = key
  · simp [h]
  · rw [if_neg h, beq_false_of_ne (Ne.symm h)]

/-- A call writes the tag of its subject and no other. -/
theorem override?_call (t : Taxonomy) (c : Call) (s : Subject) :
    (t.call c).override? s = if c.subject = s then some c.tag else t.override? s := by
  have hpanics (type : ValueType) (tag : String) :
      (t.overridePanic type tag).override? s = if .panics type = s then some tag else t.override? s := by
    cases s with
    | errors name => rfl
    | panics other =>
      simp only [Subject.panics.injEq]
      exact lookup_cons_eq other type tag t.panicTags
  cases c with
  | overrideError name tag =>
    cases s with
    | errors other =>
      simp only [Call.subject, Subject.errors.injEq]
      exact lookup_cons_eq other name tag t.errorTags
    | panics type => rfl
  | overridePanic type tag => exact hpanics type tag
  | registerPanic type =>
    -- a registration is an override by the name of the type
    rw [call, registerPanic, Tag.namedPanic_eq]
    exact hpanics type _

theorem about_append_singleton (s : Subject) (calls : List Call) (c : Call) :
    about s (calls ++ [c]) = if c.subject = s then about s calls ++ [c] else about s calls := by
  rw [about, about, List.filter_append]
  split
  · next h => simp [h]
  · next h => simp [h]

theorem lastTag_append_singleton (s : Subject) (calls : List Call) (c : Call) :
    lastTag s (calls ++ [c]) = if c.subject = s then some c.tag else lastTag s calls := by
  rw [lastTag, about_append_singleton]
  split
  · simp
  · rfl

/-- **A subject has the tag of the last call about it**, whatever other calls there are. -/
theorem override?_ofCalls (calls : List Call) (s : Subject) : (ofCalls calls).override? s = lastTag s calls := by
  induction calls using List.reverseRecOn with
  | nil => cases s <;> rfl
  | append_singleton calls c ih =>
    rw [ofCalls, List.foldl_append, List.foldl_cons, List.foldl_nil, override?_call, lastTag_append_singleton, ← ih,
      ofCalls]

theorem errorTag_eq (t : Taxonomy) (name : String) :
    t.errorTag name = (t.override? (.errors name)).getD (Tag.ofTypeName name) := rfl

theorem panicTag_eq (t : Taxonomy) (payload : Payload) :
    t.panicTag payload = (t.override? (.panics payload.type)).getD (Tag.ofPayload payload) := rfl

theorem errorTag_ofCalls (calls : List Call) (name : String) :
    (ofCalls calls).errorTag name = (lastTag (.errors name) calls).getD (Tag.ofTypeName name) := by
  rw [errorTag_eq, override?_ofCalls]

theorem panicTag_ofCalls (calls : List Call) (payload : Payload) :
    (ofCalls calls).panicTag payload = (lastTag (.panics payload.type) calls).getD (Tag.ofPayload payload) := by
  rw [panicTag_eq, override?_ofCalls]

/-- Only the calls about a subject, and their order among each other, count for its tag. -/
theorem lastTag_congr (h : about s calls = about s calls') : lastTag s calls = lastTag s calls' := by
  rw [lastTag, h, lastTag]

theorem about_insert (h : c.subject ≠ s) : about s (before ++ c :: later) = about s (before ++ later) := by
  simp [about, h]

theorem about_swap (h : c.subject ≠ d.subject) (s : Subject) :
    about s (before ++ c :: d :: later) = about s (before ++ d :: c :: later) := by
  by_cases hc : c.subject = s
  · have hd : d.subject ≠ s := fun hd => h (hc.trans hd.symm)
    simp [about, List.filter_cons, hd]
  · simp [about, List.filter_cons, hc]

theorem sameTags_ofCalls (h : ∀ s, about s calls = about s calls') : SameTags (ofCalls calls) (ofCalls calls') := by
  constructor
  · intro name
    rw [errorTag_ofCalls, errorTag_ofCalls, lastTag_congr (h _)]
  · intro payload
    rw [panicTag_ofCalls, panicTag_ofCalls, lastTag_congr (h _)]

/-- **Overrides are maps in which the last call counts.** After any calls, the errors of a type have the tag of the
last override for its name, and panics that of the last override or registration for the type of their payload; the
defaults are in force for every subject without a call. A call says nothing about other subjects, those of the other
table among them, and calls about different subjects can change places. -/
theorem tags_by_last_call (calls : List Call) :
    (∀ name, (ofCalls calls).errorTag name = (lastTag (.errors name) calls).getD (Tag.ofTypeName name)) ∧
    (∀ payload, (ofCalls calls).panicTag payload =
      (lastTag (.panics payload.type) calls).getD
        (if payload.isText then "Runtime.Panic.String" else "Runtime.Panic")) ∧
    (∀ before c later, calls = before ++ c :: later →
      (∀ name, c.subject ≠ .errors name →
        (ofCalls calls).errorTag name = (ofCalls (before ++ later)).errorTag name) ∧
      (∀ payload : Payload, c.subject ≠ .panics payload.type →
        (ofCalls calls).panicTag payload = (ofCalls (before ++ later)).panicTag payload)) ∧
    (∀ before c d later, calls = before ++ c :: d :: later → c.subject ≠ d.subject →
      SameTags (ofCalls calls) (ofCalls (before ++ d :: c :: later))) := by
  refine ⟨errorTag_ofCalls calls,panicTag_ofCalls calls,?_,?_⟩
  · rintro before c later rfl
    constructor
    · intro name hc
      rw [errorTag_ofCalls, errorTag_ofCalls, lastTag_congr (about_insert hc)]
    · intro payload hc
      rw [panicTag_ofCalls, panicTag_ofCalls, lastTag_congr (about_insert hc)]
  · rintro before c d later rfl h
    exact sameTags_ofCalls (about_swap h)

end InvocationHost.Taxonomy
