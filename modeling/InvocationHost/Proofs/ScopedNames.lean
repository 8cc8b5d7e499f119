import InvocationHost.Proofs.ReferredNames
import Mathlib.Data.List.TakeWhile

/-! # Names behind a scope

A short name ends at the first bracket of the whole name. That takes the arguments away, if no bracket stands in
front of the type's own name. The scope of a type that is declared within a method of an impl holds one, and there
the short name is that of what stands before the bracket, often of nothing.
-/
namespace InvocationHost
open Text

namespace TypeName
variable {c : Char} {s r scope name : List Char}

/-- A name without the references and the `dyn ` in front of it. -/
def withoutLead (s : List Char) : List Char :=
  dropRepeated dynMark (dropRepeated mutMark (s.dropWhile (· = '&')))

def lastSegment (s : List Char) : List Char := ((cutLast pathMark s).map Prod.snd).getD s

theorem shortChars_eq (s : List Char) :
    shortChars s = trim (lastSegment ((withoutLead s).takeWhile (· ≠ '<'))) := rfl

theorem withoutLead_suffix (s : List Char) : withoutLead s <:+ s := by
  have hdrop (mark s : List Char) : dropRepeated mark s <:+ s := by
    obtain ⟨n,hn⟩ := exists_dropRepeated mark s
    exact ⟨_,hn.symm⟩
  exact ((hdrop _ _).trans (hdrop _ _)).trans (List.dropWhile_suffix _)

/-- What stands in front of a name ends before any character that it does not have. -/
theorem withoutLead_append_cons (hc : c ∉ '&' :: mutMark ++ dynMark) (s r : List Char) :
    withoutLead (s ++ c :: r) = withoutLead s ++ c :: r := by
  simp only [List.cons_append, List.mem_cons, List.mem_append, not_or] at hc
  obtain ⟨hand,hmut,hdyn⟩ := hc
  rw [withoutLead, dropWhile_append_cons (decide_eq_false hand), dropRepeated_append_cons (by decide) hmut,
    dropRepeated_append_cons (by decide) hdyn, withoutLead]

/-- What follows the first bracket of a name does not count. -/
theorem shortChars_append_bracket (s r : List Char) : shortChars (s ++ '<' :: r) = shortChars s := by
  rw [shortChars_eq, shortChars_eq, withoutLead_append_cons (by decide), takeWhile_append_cons (by simp)]

theorem IsIdentifier.trimmed (h : IsIdentifier name) : Trimmed name :=
  ⟨fun c hc => (h.2 c (List.mem_of_mem_head? hc)).1,fun c hc => (h.2 c (List.mem_of_mem_getLast? hc)).1⟩

/-- Behind a scope without brackets, the last segment is what is left. -/
theorem shortChars_scoped (hscope : '<' ∉ scope) (hname : ':' ∉ name) (hbracket : '<' ∉ name) :
    shortChars (scope ++ ':' :: ':' :: name) = trim name := by
  have hfree : '<' ∉ withoutLead scope ++ ':' :: ':' :: name := by
    have hleft : '<' ∉ withoutLead scope := fun hmem => hscope ((withoutLead_suffix scope).subset hmem)
    simp [hleft, hbracket]
  have hwhole := List.takeWhile_eq_self_iff.mpr (all_ne_of_notMem hfree)
  rw [shortChars_eq, withoutLead_append_cons (by decide), hwhole, lastSegment,
    show pathMark = [':',':'] from rfl, cutLast_doubled hname]
  rfl

/-- A type with its scope, which may be any text, and perhaps with arguments. -/
structure ScopedType where
  scope : String
  name : String
  arguments : Option String := none
  isIdentifier : IsIdentifier name.toList

namespace ScopedType
variable (p : ScopedType)

def ending : String :=
  match p.arguments with
  | some arguments => "<" ++ arguments ++ ">"
  | none => ""

def typeName : String := p.scope ++ "::" ++ p.name ++ p.ending

/-- What stands in the scope in front of its first bracket. -/
def lead : String := String.ofList (p.scope.toList.takeWhile (· ≠ '<'))

/-- No bracket stands in the scope, or what stands in front of the first one ends in the type's own name. -/
def Legible : Prop := '<' ∉ p.scope.toList ∨ short p.lead = p.name

instance : Decidable p.Legible := inferInstanceAs (Decidable (_ ∨ _))

theorem notMem_name {c : Char} (h : c ∈ ['&',':','<']) : c ∉ p.name.toList :=
  fun hc => (p.isIdentifier.2 c hc).2 h

theorem name_ne_empty : p.name ≠ "" := by
  intro h
  exact p.isIdentifier.1 (by rw [h]; rfl)

/-- The arguments do not count, whatever stands in them. -/
theorem shortChars_typeName :
    shortChars p.typeName.toList = shortChars (p.scope.toList ++ ':' :: ':' :: p.name.toList) := by
  have hpath : (p.scope ++ "::" ++ p.name).toList = p.scope.toList ++ ':' :: ':' :: p.name.toList := by simp
  cases ha : p.arguments with
  | none => rw [typeName, ending, ha, String.append_empty, hpath]
  | some arguments =>
    have hend : p.typeName.toList =
        p.scope.toList ++ ':' :: ':' :: p.name.toList ++ '<' :: (arguments ++ ">").toList := by
      rw [typeName, ending, ha, String.toList_append, hpath]
      simp
    rw [hend, shortChars_append_bracket]

theorem short_of_unbracketed (h : '<' ∉ p.scope.toList) : short p.typeName = p.name := by
  rw [short, p.shortChars_typeName, shortChars_scoped h (p.notMem_name (by simp)) (p.notMem_name (by simp)),
    p.isIdentifier.trimmed.trim_eq, String.ofList_toList]

/-- A bracket in the scope is the first one of the name. -/
theorem short_of_bracketed (h : '<' ∈ p.scope.toList) : short p.typeName = short p.lead := by
  obtain ⟨front,back,hscope,hfront⟩ := List.eq_append_cons_of_mem h
  have hlead : p.lead.toList = front := by
    rw [lead, String.toList_ofList, hscope, takeWhile_append_cons (by simp)]
    exact List.takeWhile_eq_self_iff.mpr (all_ne_of_notMem hfront)
  rw [short, short, p.shortChars_typeName, hscope, List.append_assoc, List.cons_append, shortChars_append_bracket,
    hlead]

theorem short_eq_iff : short p.typeName = p.name ↔ p.Legible := by
  rw [Legible]
  by_cases h : '<' ∈ p.scope.toList
  · simp [h, p.short_of_bracketed h]
  · simp [h, p.short_of_unbracketed h]

/-- A bracket that opens a segment of the scope leaves nothing of the name. -/
theorem short_of_segment (h : '<' ∈ p.scope.toList) (hlead : p.lead = "" ∨ "::".toList <:+ p.lead.toList) :
    short p.typeName = "" := by
  have hfree : '<' ∉ p.lead.toList := by
    rw [lead, String.toList_ofList]
    intro hmem
    simpa using List.mem_takeWhile_imp hmem
  rw [p.short_of_bracketed h]
  rcases hlead with hlead | ⟨front,hfront⟩
  · rw [hlead]
    decide +kernel
  · have hscope : '<' ∉ front := fun hmem => hfree (hfront ▸ List.mem_append_left _ hmem)
    rw [short, ← hfront, show "::".toList = ':' :: ':' :: [] from rfl, shortChars_scoped hscope (by simp) (by simp)]
    rfl

end ScopedType
end TypeName

open InvocationHost.TypeName

namespace Taxonomy
variable {t : Taxonomy} {name : String}

/-- Neither a text type nor a wrapper: the short name is all that is left to tag it by. -/
theorem errorTag_of_short (h : ∀ tag, (name,tag) ∉ t.errorTags) (htext : ¬NamesText name.toList)
    (hwrapper : ¬NamesWrapper name) :
    t.errorTag name = if short name = "" then "Runtime.Unknown" else "Runtime." ++ short name := by
  rw [← isText_iff] at htext
  rw [← isWrapper_iff] at hwrapper
  rw [errorTag_of_not_overridden h, Tag.ofTypeName]
  simp [htext, hwrapper, Tag.unknown, Tag.named]

theorem panicTag_registerPanic (t : Taxonomy) (payload : Panic.Payload) :
    (t.registerPanic payload.type).panicTag payload = "Runtime.Panic." ++ short payload.type.name := by
  simp [registerPanic, overridePanic, panicTag, Tag.namedPanic_eq]

/-- **A type is named by itself as long as no bracket stands in its scope.** Its arguments do not matter, whatever
stands in them. Where the scope holds a bracket, the short name is that of the scope up to there, and nothing is left
where the bracket opens a segment: the error is tagged as unknown, and the panic by an empty name. -/
theorem tags_of_scoped_type (p : ScopedType) (h : ∀ tag, (p.typeName,tag) ∉ t.errorTags) :
    (short p.typeName = p.name ↔ p.Legible) ∧
    (p.Legible → ¬NamesText p.typeName.toList → ¬NamesWrapper p.typeName →
      t.errorTag p.typeName = "Runtime." ++ p.name ∧ (t.errorTag p.typeName = "Runtime.Unknown" ↔ p.name = "Unknown")) ∧
    (∀ payload : Panic.Payload, payload.type.name = p.typeName →
      ((t.registerPanic payload.type).panicTag payload = "Runtime.Panic." ++ p.name ↔ p.Legible)) ∧
    ('<' ∈ p.scope.toList → short p.typeName = short p.lead) ∧
    ('<' ∈ p.scope.toList → p.lead = "" ∨ "::".toList <:+ p.lead.toList →
      ¬p.Legible ∧
      (¬NamesText p.typeName.toList → ¬NamesWrapper p.typeName → t.errorTag p.typeName = "Runtime.Unknown") ∧
      ∀ payload : Panic.Payload, payload.type.name = p.typeName →
        (t.registerPanic payload.type).panicTag payload = "Runtime.Panic.") := by
  refine ⟨p.short_eq_iff,?_,?_,p.short_of_bracketed,?_⟩
  · intro hlegible htext hwrapper
    rw [errorTag_of_short h htext hwrapper, p.short_eq_iff.mpr hlegible, if_neg p.name_ne_empty]
    refine ⟨rfl,?_⟩
    rw [show "Runtime.Unknown" = "Runtime." ++ "Unknown" by decide]
    exact String.append_right_inj _
  · intro payload hpayload
    rw [panicTag_registerPanic, hpayload, ← p.short_eq_iff]
    exact String.append_right_inj _
  · intro hscope hlead
    have hshort := p.short_of_segment hscope hlead
    refine ⟨?_,?_,?_⟩
    · rw [← p.short_eq_iff, hshort]
      exact p.name_ne_empty.symm
    · intro htext hwrapper
      rw [errorTag_of_short h htext hwrapper, if_pos hshort]
    · intro payload hpayload
      rw [panicTag_registerPanic, hpayload, hshort, String.append_empty]

/-- A type with arguments that hold brackets and paths, where the tag of another type is overridden. -/
theorem tags_of_scoped_generic :
    let t : Taxonomy := Taxonomy.overrideError {} "demo::orders::Refused" "Order.Refused"
    let p : ScopedType := ⟨"demo::orders","Rejected",some "<u8 as demo::Unit>::Of, alloc::vec::Vec<u8>",by decide⟩
    let payload : Panic.Payload := .other 7 p.typeName
    p.typeName = "demo::orders::Rejected<<u8 as demo::Unit>::Of, alloc::vec::Vec<u8>>" ∧
    (∀ tag, (p.typeName,tag) ∉ t.errorTags) ∧ p.Legible ∧ ¬NamesText p.typeName.toList ∧ ¬NamesWrapper p.typeName ∧
    short p.typeName = "Rejected" ∧ t.errorTag p.typeName = "Runtime.Rejected" ∧
    (t.registerPanic payload.type).panicTag payload = "Runtime.Panic.Rejected" := by
  intro t p payload
  have hfree : ∀ tag, (p.typeName,tag) ∉ t.errorTags := by
    have hother : p.typeName ≠ "demo::orders::Refused" := by decide +kernel
    exact fun tag hmem => hother (congrArg Prod.fst (List.mem_singleton.mp hmem))
  have hlegible : p.Legible := by decide +kernel
  have htext : ¬NamesText p.typeName.toList := by
    rw [← isText_iff]
    decide +kernel
  have hwrapper : ¬NamesWrapper p.typeName := by
    rw [← isWrapper_iff]
    decide +kernel
  obtain ⟨hshort,herror,hpanic,-⟩ := tags_of_scoped_type p hfree
  exact ⟨by decide +kernel,hfree,hlegible,htext,hwrapper,hshort.mpr hlegible,(herror hlegible htext hwrapper).1,
    (hpanic payload rfl).mpr hlegible⟩

/-- Types that are declared within a method, one of an impl in another module and one of an impl of a trait, have no
short name: their errors are unknown. -/
theorem not_tags_of_impl_scope :
    let p : ScopedType := ⟨"demo::orders::<impl demo::Order>::check","Rejected",none,by decide⟩
    let q : ScopedType := ⟨"<demo::Order as demo::Check>::check","Rejected",none,by decide⟩
    p.typeName = "demo::orders::<impl demo::Order>::check::Rejected" ∧
    q.typeName = "<demo::Order as demo::Check>::check::Rejected" ∧
    ∀ r ∈ [p,q], ¬NamesText r.typeName.toList ∧ ¬NamesWrapper r.typeName ∧ short r.typeName = "" ∧
      Taxonomy.errorTag {} r.typeName = "Runtime.Unknown" ∧
      (Taxonomy.registerPanic {} (.other 0 r.typeName)).panicTag (.other 0 r.typeName) = "Runtime.Panic." := by
  simp only [← isText_iff, ← isWrapper_iff, List.forall_mem_cons, List.not_mem_nil, false_imp_iff, implies_true]
  decide +kernel

end Taxonomy
end InvocationHost
