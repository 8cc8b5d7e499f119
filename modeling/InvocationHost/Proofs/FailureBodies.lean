import InvocationHost.Failure.Wire
import InvocationHost.Proofs.Records

/-! # Bodies of failure reports

A failure is read back from the body of its report, whatever its texts hold and however many frames it has. A
body has a member for the stack only where there is one, and without it the failure that is read has none, so
that whoever reads the body sees panics as panics and nothing else.
-/
namespace InvocationHost
open Json Value Record
variable {depth : Nat}

theorem StackFrame.readable_toValue (f : StackFrame) : f.toValue.Readable (depth + 1) := by
  refine .object fun m hm => ?_
  simp only [List.mem_cons, List.not_mem_nil, or_false] at hm
  rcases hm with rfl | rfl | rfl
  · exact .text f.path
  · exact .uint32 f.line
  · exact .text f.label

theorem StackFrame.decoder_tree (f : StackFrame) (p : Text.Position) :
    record.decoder (depth + 1) (f.toValue.tree p) = .ok f := by
  refine Record.decoder_tree ⟨some f.path,some f.line,some f.label⟩ rfl ?_
  simp only [memberTrees]
  rw [readMembers_of rfl rfl rfl, readMembers_of rfl rfl (Decoder.uint32_tree f.line),
    readMembers_of rfl rfl rfl]
  rfl

namespace Failure

theorem readable_toValue (f : Failure) : f.toValue.Readable (depth + 3) := by
  have hstack : (Value.list (f.stack.map StackFrame.toValue)).Readable (depth + 2) := by
    refine .list fun v hv => ?_
    obtain ⟨frame,-,rfl⟩ := List.mem_map.mp hv
    exact frame.readable_toValue
  refine .object fun m hm => ?_
  simp only [List.mem_append, List.mem_cons, List.not_mem_nil, or_false] at hm
  rcases hm with (rfl | rfl) | hm
  · exact .text f.tag
  · exact .text f.message
  · split at hm
    · simp at hm
    · obtain rfl := List.mem_singleton.mp hm
      exact hstack

theorem decoder_tree (f : Failure) (p : Text.Position) : record.decoder (depth + 3) (f.toValue.tree p) = .ok f := by
  have hstack (q : Text.Position) : Decoder.list StackFrame.record.decoder (depth + 2)
      ((Value.list (f.stack.map StackFrame.toValue)).tree q) = .ok f.stack := by
    rw [Decoder.list_tree f.stack (f := id) fun frame _ => frame.decoder_tree, List.map_id]
  obtain ⟨tag,message,stack⟩ := f
  cases stack with
  | nil =>
    refine Record.decoder_tree ⟨some tag,some message,none⟩ rfl ?_
    change readMembers _ _ _ [_,_] = _
    rw [readMembers_of rfl rfl rfl, readMembers_of rfl rfl rfl]
    rfl
  | cons frame frames =>
    refine Record.decoder_tree ⟨some tag,some message,some (frame :: frames)⟩ rfl ?_
    change readMembers _ _ _ [_,_,_] = _
    rw [readMembers_of rfl rfl rfl, readMembers_of rfl rfl rfl, readMembers_of rfl rfl (hstack _)]
    rfl

/-- The body of a report is an object that has a member for the stack just if the failure comes from a panic. -/
theorem exists_body (f : Failure) : ∃ body : Value,
    (Document.ofBytes (Text.utf8 f.toJson)).decode Value.decoder = .ok body ∧
      body.hasMember "stackTrace" = f.isPanic := by
  refine ⟨_,Document.decode_render f.readable_toValue,?_⟩
  rw [toValue, Value.hasMember_sorted, isPanic]
  cases f.stack <;> simp

theorem decode_toJson (f : Failure) : decode (.ofBytes (Text.utf8 f.toJson)) = .ok f :=
  Document.decode_written f.readable_toValue f.decoder_tree

/-- **Failures survive the wire.** Whatever failure it is, the body of its report is read as this failure; the body
is an object that has a member for the stack if and only if the failure has a stack. So a failure that is read
from it comes from a panic just if the one that was written does. -/
theorem survives_wire (f : Failure) :
    decode (.ofBytes (Text.utf8 f.toJson)) = .ok f ∧
    (∃ body : Value, (Document.ofBytes (Text.utf8 f.toJson)).decode Value.decoder = .ok body ∧
      (body.hasMember "stackTrace" = true ↔ f.stack ≠ [])) ∧
    ∀ g, decode (.ofBytes (Text.utf8 f.toJson)) = .ok g → g.isPanic = f.isPanic := by
  obtain ⟨body,hbody,hstack⟩ := f.exists_body
  refine ⟨f.decode_toJson,⟨body,hbody,?_⟩,fun g hg => ?_⟩
  · rw [hstack, isPanic, Bool.not_eq_true', List.isEmpty_eq_false_iff]
  · cases f.decode_toJson.symm.trans hg
    rfl

end Failure
end InvocationHost
