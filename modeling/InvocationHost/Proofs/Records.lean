import InvocationHost.Json.Record
import InvocationHost.Proofs.Documents

/-! # Reading what was written

One law for each reader: what is written for its values, it reads as these values, wherever it stands. A record
is read member by member, in the order in which they were written, and each of them is added to the draft.
-/
namespace InvocationHost.Json
open Text Value
variable {α β δ : Type} {depth : Nat} {p : Position}

theorem Value.Readable.uint32 (n : UInt32) : Readable depth (.integer n.toNat) := by
  have hlt := n.toNat_lt
  refine .integer ?_ ?_
  · simp only [Text.leastInt64]
    omega
  · simp only [NumberText.greatestWord, UInt64.size]
    omega

theorem Value.Readable.int64 (n : Int64) : Readable depth (.integer n.toInt) := by
  have hlt := n.toInt_lt
  refine .integer n.minValue_le_toInt ?_
  simp only [NumberText.greatestWord, UInt64.size]
  omega

namespace Decoder

theorem uint32_tree (n : UInt32) : uint32 depth ((Value.integer n.toNat).tree p) = .ok n := by
  have hn : 0 ≤ (n.toNat : Int) ∧ (n.toNat : Int) < UInt32.size := by
    have hlt := n.toNat_lt
    simp only [UInt32.size]
    omega
  simp only [uint32, Value.integer, tree]
  rw [if_pos (by simpa using hn.2), Int.toNat_natCast, UInt32.ofNat_toNat]

theorem int64_tree (n : Int64) : int64 depth ((Value.integer n.toInt).tree p) = .ok n := by
  have hn : Text.leastInt64 ≤ n.toInt ∧ n.toInt ≤ Text.greatestInt64 :=
    ⟨n.minValue_le_toInt,n.toInt_le⟩
  simp only [int64, Value.integer, tree]
  rw [if_pos (by simpa using hn), Int64.ofInt_toInt]

theorem optional_tree {d : Decoder α} {v : Value} {a : α} (hnull : v ≠ .null)
    (h : d depth (v.tree p) = .ok a) : optional d depth (v.tree p) = .ok (some a) := by
  cases v with
  | null => exact absurd rfl hnull
  | _ => simp only [optional, tree] at h ⊢; rw [h]; rfl

/-- A list is read item by item. -/
theorem list_tree {d : Decoder β} {write : α → Value} {f : α → β} (xs : List α)
    (h : ∀ x ∈ xs, ∀ p, d depth ((write x).tree p) = .ok (f x)) :
    list d (depth + 1) ((Value.list (xs.map write)).tree p) = .ok (xs.map f) := by
  have hitems (p : Position) : (itemTrees p (xs.map write)).mapM (d depth) = .ok (xs.map f) := by
    induction xs generalizing p with
    | nil => rfl
    | cons x xs ih =>
      obtain ⟨hx,hxs⟩ := List.forall_mem_cons.mp h
      simp only [List.map_cons, itemTrees, List.mapM_cons, hx, ih hxs]
      rfl
  simp only [list, tree, deeper, hitems]
  rfl

end Decoder

namespace Record
variable {fields : List (Field δ)} {draft : δ} {key : String}

/-- A member of a field that is not set yet is added to the draft. -/
theorem readMembers_of {required : Bool} {get : δ → Option α} {set : α → δ → δ} {d : Decoder α} {t : Tree} {a : α}
    (hfield : fields.find? (·.key == key) = some (.of key required get set d)) (hnew : get draft = none)
    (hread : d depth t = .ok a) (rest : List Member) :
    readMembers fields depth draft ((⟨.ok key,p⟩, t) :: rest) = readMembers fields depth (set a draft) rest := by
  have hset : (Field.of key required get set d).isSet draft = false := by simp [Field.of, hnew]
  have hvalue : (Field.of key required get set d).read depth t draft = .ok (set a draft) := by
    simp [Field.of, hread, Except.map]
  rw [readMembers, show (Except.ok key : Except Fault String) = pure key from rfl, pure_bind, hfield]
  simp only [hset, hvalue]
  rfl

/-- A record is what its draft comes to when all members have been read. -/
theorem decoder_tree (draft : δ) {r : Record δ α} {members : List (String × Value)} {a : α}
    (hcomplete : r.complete draft = .ok a)
    (h : readMembers r.fields depth r.blank (memberTrees (p.behind ['\x7b']) members) = .ok draft) :
    r.decoder (depth + 1) ((Value.object members).tree p) = .ok a := by
  have hcompleted (span : Span) : r.completed span draft = .ok a := by
    rw [completed, hcomplete]
    rfl
  simp only [decoder, tree, Decoder.deeper, h]
  exact hcompleted _

end Record

end InvocationHost.Json
