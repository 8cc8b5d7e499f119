import InvocationHost.Extension.Event
import InvocationHost.Proofs.Records

/-! # Bodies of events and registrations

An event is read back from its text as it was, but for its kind: a kind that was given by the name of a known
one is read as the known one. What is read is written as the same text again. The same holds of a registration
with any number of kinds.
-/
namespace InvocationHost.Extension
open Json Value Record
open Text (Position)
variable {depth : Nat}

namespace EventKind

/-- The known kind, if the name is that of one. -/
def known : EventKind → EventKind
  | .other "INVOKE" => .invoke
  | .other "SHUTDOWN" => .shutdown
  | k => k

theorem ofName_name (k : EventKind) : ofName k.name = k.known := by
  cases k with
  | invoke => rfl
  | shutdown => rfl
  | other s =>
    by_cases hinvoke : s = "INVOKE"
    · rw [hinvoke]
      rfl
    by_cases hshutdown : s = "SHUTDOWN"
    · rw [hshutdown]
      rfl
    · simp [ofName, name, known, hinvoke, hshutdown]

theorem toValue_known (k : EventKind) : k.known.toValue = k.toValue := by
  rw [toValue, ← ofName_name, name_ofName]
  rfl

theorem decoder_tree (k : EventKind) (p : Position) : decoder depth (k.toValue.tree p) = .ok k.known := by
  rw [← ofName_name]
  rfl

end EventKind

namespace Registration

def known (r : Registration) : Registration := ⟨r.events.map EventKind.known⟩

theorem readable_toValue (r : Registration) : r.toValue.Readable (depth + 2) := by
  refine .object fun m hm => ?_
  obtain rfl := List.mem_singleton.mp hm
  refine .list fun v hv => ?_
  obtain ⟨k,-,rfl⟩ := List.mem_map.mp hv
  exact .text k.name

theorem decoder_tree (r : Registration) (p : Position) :
    record.decoder (depth + 2) (r.toValue.tree p) = .ok r.known := by
  have hevents (q : Position) : Decoder.list EventKind.decoder (depth + 1)
      ((Value.list (r.events.map EventKind.toValue)).tree q) = .ok (r.events.map EventKind.known) :=
    Decoder.list_tree r.events fun k _ => k.decoder_tree
  refine Record.decoder_tree (some (r.events.map EventKind.known)) rfl ?_
  simp only [memberTrees]
  rw [readMembers_of rfl rfl (hevents _)]
  rfl

theorem toValue_known (r : Registration) : r.known.toValue = r.toValue := by
  have hevents : (r.events.map EventKind.known).map EventKind.toValue = r.events.map EventKind.toValue := by
    rw [List.map_map]
    exact List.map_congr_left fun k _ => k.toValue_known
  rw [toValue, known, hevents]
  rfl

end Registration

namespace Tracing

theorem readable_toValue (t : Tracing) : t.toValue.Readable (depth + 1) := by
  refine .object fun m hm => ?_
  simp only [List.mem_cons, List.not_mem_nil, or_false] at hm
  rcases hm with rfl | rfl
  · exact .text t.kind
  · exact .text t.value

theorem decoder_tree (t : Tracing) (p : Position) : record.decoder (depth + 1) (t.toValue.tree p) = .ok t := by
  refine Record.decoder_tree ⟨some t.kind,some t.value⟩ rfl ?_
  simp only [memberTrees]
  rw [readMembers_of rfl rfl rfl, readMembers_of rfl rfl rfl]
  rfl

end Tracing

namespace Event

def known (e : Event) : Event := { e with kind := e.kind.known }

variable {α δ : Type} {draft : δ} {key : String}

theorem readable_optionalMember {write : α → Value} (hwrite : ∀ a, (write a).Readable depth) {x : Option α}
    {m : String × Value} (hm : m ∈ optionalMember key (x.map write)) : m.2.Readable depth := by
  cases x with
  | none => simp [optionalMember] at hm
  | some a =>
    obtain rfl : m = (key,write a) := by simpa [optionalMember] using hm
    exact hwrite a

/-- A member that may be left out is read as what it was written for; what comes after it is read the same from
wherever that member ends. -/
theorem readMembers_optionalMember (depth : Nat) (fields : List (Json.Field δ)) (key : String) (put : Option α → δ)
    {get : δ → Option (Option α)} {set : Option α → δ → δ} {d : Decoder α} {write : α → Value}
    (hfield : fields.find? (·.key == key) = some (.of key false get set d.optional))
    (hnew : get draft = none) (hwrite : ∀ a, write a ≠ .null) (hread : ∀ a p, d depth ((write a).tree p) = .ok a)
    (hnone : put none = draft) (hsome : ∀ a, put (some a) = set (some a) draft)
    (x : Option α) {rest : List (String × Value)} {read : Except Fault δ}
    (hrest : ∀ q, readMembers fields depth (put x) (memberTrees q rest) = read) (p : Position) :
    readMembers fields depth draft (memberTrees p (optionalMember key (x.map write) ++ rest)) = read := by
  cases x with
  | none =>
    rw [← hnone]
    exact hrest p
  | some a =>
    rw [hsome] at hrest
    exact (readMembers_of hfield hnew (Decoder.optional_tree (hwrite a) (hread a _)) _).trans (hrest _)

theorem readable_toValue (e : Event) : e.toValue.Readable (depth + 2) := by
  refine .object fun m hm => ?_
  simp only [List.mem_append, List.mem_cons, List.not_mem_nil, or_false] at hm
  rcases hm with ((((rfl | rfl) | hm) | hm) | hm) | hm
  · exact .text e.kind.name
  · exact .int64 e.deadlineMs
  · exact readable_optionalMember (fun s => .text s) hm
  · exact readable_optionalMember (fun s => .text s) hm
  · exact readable_optionalMember (fun s => .text s) hm
  · exact readable_optionalMember (fun t => t.readable_toValue) hm

theorem decoder_tree (e : Event) (p : Position) : record.decoder (depth + 2) (e.toValue.tree p) = .ok e.known := by
  have htext : ∀ s, Value.text s ≠ .null := fun _ h => by cases h
  have htracing : ∀ t : Tracing, t.toValue ≠ .null := fun _ h => by cases h
  have hend (q : Position) : readMembers record.fields (depth + 1) (⟨some e.kind.known,some e.deadlineMs,
      e.requestId.map some,e.functionArn.map some,e.shutdownReason.map some,e.tracing.map some⟩ : Draft)
      (memberTrees q []) = .ok _ := rfl
  -- from the last member to the first, each with the draft that holds everything before it
  have htrace := readMembers_optionalMember (depth + 1) record.fields "tracing"
    (fun x => (⟨some e.kind.known,some e.deadlineMs,e.requestId.map some,e.functionArn.map some,
      e.shutdownReason.map some,x.map some⟩ : Draft))
    rfl rfl htracing (fun t => t.decoder_tree) rfl (fun _ => rfl) e.tracing hend
  simp only [List.append_nil] at htrace
  have hreason := readMembers_optionalMember (depth + 1) record.fields "shutdownReason"
    (fun x => (⟨some e.kind.known,some e.deadlineMs,e.requestId.map some,e.functionArn.map some,x.map some,
      none⟩ : Draft))
    rfl rfl htext (fun _ _ => rfl) rfl (fun _ => rfl) e.shutdownReason htrace
  have hfunction := readMembers_optionalMember (depth + 1) record.fields "invokedFunctionArn"
    (fun x => (⟨some e.kind.known,some e.deadlineMs,e.requestId.map some,x.map some,none,none⟩ : Draft))
    rfl rfl htext (fun _ _ => rfl) rfl (fun _ => rfl) e.functionArn hreason
  have hrequest := readMembers_optionalMember (depth + 1) record.fields "requestId"
    (fun x => (⟨some e.kind.known,some e.deadlineMs,x.map some,none,none,none⟩ : Draft))
    rfl rfl htext (fun _ _ => rfl) rfl (fun _ => rfl) e.requestId hfunction
  have hjoin : ∀ {α : Type} (x : Option α), (x.map some).join = x := by
    rintro _ (_ | _) <;> rfl
  refine Record.decoder_tree ⟨some e.kind.known,some e.deadlineMs,e.requestId.map some,
    e.functionArn.map some,e.shutdownReason.map some,e.tracing.map some⟩ ?_ ?_
  · simp only [record, require, hjoin]
    rfl
  · simp only [List.append_assoc, List.cons_append, List.nil_append, memberTrees]
    rw [readMembers_of rfl rfl (e.kind.decoder_tree _), readMembers_of rfl rfl (Decoder.int64_tree e.deadlineMs)]
    exact hrequest _

theorem toValue_known (e : Event) : e.known.toValue = e.toValue := by
  rw [toValue, known, e.kind.toValue_known]
  rfl

end Event

/-- **Events and registrations survive the wire.** A kind is made of any text and has this text as its name. Any
event, with whichever of its optional members it has, is read from its body as this event with the kind its
name stands for, and what is read has the same body; so it is with any registration. -/
theorem survive_wire :
    (∀ s : String, (EventKind.ofName s).name = s) ∧
    (∀ k : EventKind, EventKind.ofName k.name = k.known) ∧
    (∀ e : Event, Event.decode (.ofBytes (Text.utf8 e.toJson)) = .ok e.known ∧ e.known.toJson = e.toJson) ∧
    ∀ r : Registration,
      Registration.decode (.ofBytes (Text.utf8 r.toJson)) = .ok r.known ∧ r.known.toJson = r.toJson := by
  refine ⟨EventKind.name_ofName,EventKind.ofName_name,fun e => ⟨?_,?_⟩,fun r => ⟨?_,?_⟩⟩
  · exact Document.decode_written e.readable_toValue e.decoder_tree
  · rw [Event.toJson, e.toValue_known]
    rfl
  · exact Document.decode_written r.readable_toValue r.decoder_tree
  · rw [Registration.toJson, r.toValue_known]
    rfl

end InvocationHost.Extension
