import InvocationHost.Proofs.Lines
import InvocationHost.TypeName

/-! # Chains of references

Before a type's own name may stand a chain of references, each an ampersand with any number of `mut ` and blanks
behind it. Dropping references takes the longest such chain, so that a name which does not look like the
continuation of one comes out as it is, whatever chain stands before it.
-/
namespace InvocationHost

namespace Text
variable {mark s : List Char}

/-- Whether a text starts with a mark is settled in front of any character that is not in the mark. -/
theorem startsWith_append_cons {c : Char} (hc : c ∉ mark) (s r : List Char) :
    startsWith mark (s ++ c :: r) = startsWith mark s := by
  induction mark generalizing s with
  | nil => rfl
  | cons m ms ih =>
    rw [List.mem_cons, not_or] at hc
    cases s with
    | nil =>
      rw [List.nil_append, startsWith_cons_of_ne (Ne.symm hc.1)]
      rfl
    | cons d s =>
      by_cases hd : m = d
      · simpa [startsWith, after?, hd] using ih hc.2 s
      · rw [List.cons_append, startsWith_cons_of_ne hd, startsWith_cons_of_ne hd]

theorem dropRepeated_eq_self (h : startsWith mark s = false) : dropRepeated mark s = s := by
  rw [dropRepeated, after?_eq_none_iff.mpr h]

theorem dropRepeated_append (hne : mark ≠ []) (s : List Char) :
    dropRepeated mark (mark ++ s) = dropRepeated mark s := by
  have hshorter : s.length < (mark ++ s).length := by
    have hpos := List.length_pos_iff.mpr hne
    rw [List.length_append]
    omega
  rw [dropRepeated, after?_append]
  exact if_pos hshorter

/-- Dropping a mark ends in front of any character that is not in the mark. -/
theorem dropRepeated_append_cons {c : Char} (hne : mark ≠ []) (hc : c ∉ mark) (s r : List Char) :
    dropRepeated mark (s ++ c :: r) = dropRepeated mark s ++ c :: r := by
  fun_induction dropRepeated mark s with
  | case1 s rest hrest _ ih =>
    rw [after?_eq_some_iff.mp hrest, List.append_assoc, dropRepeated_append hne, ih]
  | case2 s rest hrest hlong =>
    have hpos := List.length_pos_iff.mpr hne
    rw [after?_eq_some_iff.mp hrest, List.length_append] at hlong
    omega
  | case3 s hnone =>
    apply dropRepeated_eq_self
    rw [startsWith_append_cons hc, ← after?_eq_none_iff, hnone]

/-- A mark is dropped as often as it stands there, if what follows does not start with it. -/
theorem dropRepeated_replicate (hne : mark ≠ []) (h : startsWith mark s = false) (n : Nat) :
    dropRepeated mark ((List.replicate n mark).flatten ++ s) = s := by
  induction n with
  | zero => exact dropRepeated_eq_self h
  | succ n ih => rw [List.replicate_succ, List.flatten_cons, List.append_assoc, dropRepeated_append hne, ih]

theorem exists_dropRepeated (mark s : List Char) :
    ∃ n, s = (List.replicate n mark).flatten ++ dropRepeated mark s := by
  fun_induction dropRepeated mark s with
  | case1 s rest hrest _ ih =>
    obtain ⟨n,hn⟩ := ih
    refine ⟨n + 1,?_⟩
    rw [List.replicate_succ, List.flatten_cons, List.append_assoc, ← hn]
    exact after?_eq_some_iff.mp hrest
  | case2 => exact ⟨0,rfl⟩
  | case3 => exact ⟨0,rfl⟩

end Text

namespace TypeName
open Text

/-- A chain of references as it may be written: an ampersand, any number of `mut `, blanks, and so on. -/
inductive References : List Char → Prop
  | nil : References []
  | cons (muts : Nat) {blanks rest : List Char} : (∀ c ∈ blanks, isBlank c = true) → References rest →
      References ('&' :: ((List.replicate muts mutMark).flatten ++ (blanks ++ rest)))

/-- A name that cannot be taken for the continuation of a chain of references. -/
structure Bare (s : List Char) : Prop where
  head : ∀ c ∈ s.head?, c ≠ '&' ∧ isBlank c = false
  start : startsWith mutMark s = false

instance (s : List Char) : Decidable (Bare s) :=
  decidable_of_iff ((∀ c ∈ s.head?, c ≠ '&' ∧ isBlank c = false) ∧ startsWith mutMark s = false)
    ⟨fun h => ⟨h.1,h.2⟩,fun h => ⟨h.head,h.start⟩⟩

variable {s refs base : List Char}

theorem References.head (h : References refs) : ∀ c ∈ refs.head?, c = '&' := by
  cases h with
  | nil => rintro c ⟨⟩
  | cons => rintro c ⟨⟩; rfl

theorem References.unpadded (muts : Nat) (h : References refs) :
    References ('&' :: ((List.replicate muts mutMark).flatten ++ refs)) := by
  have hnone : ∀ c ∈ ([] : List Char), isBlank c = true := by simp
  exact .cons muts hnone h

/-- What follows a character that no reference has does not matter. -/
theorem Bare.append_cons {c : Char} (h : Bare s) (hc : c ∉ '&' :: mutMark) (hblank : isBlank c = false)
    (r : List Char) : Bare (s ++ c :: r) := by
  rw [List.mem_cons, not_or] at hc
  refine ⟨?_,by rw [startsWith_append_cons hc.2, h.start]⟩
  cases s with
  | nil =>
    rintro d ⟨⟩
    exact ⟨hc.1,hblank⟩
  | cons d s => exact h.head

/-- What is dropped is a chain of references. -/
theorem exists_references (s : List Char) : ∃ refs, References refs ∧ s = refs ++ dropReferences s := by
  fun_induction dropReferences s with
  | case1 => exact ⟨[],.nil,rfl⟩
  | case2 r ih =>
    obtain ⟨refs,hrefs,heq⟩ := ih
    obtain ⟨n,hn⟩ := exists_dropRepeated mutMark r
    have hblank : ∀ c ∈ (dropRepeated mutMark r).takeWhile isBlank, isBlank c = true :=
      List.all_eq_true.mp List.all_takeWhile
    refine ⟨_,.cons n hblank hrefs,?_⟩
    simp only [List.cons_append, List.append_assoc]
    rw [← heq, trimStart, List.takeWhile_append_dropWhile, ← hn]
  | case3 c r hc => exact ⟨[],.nil,rfl⟩

theorem dropReferences_eq_self (h : ∀ c ∈ s.head?, c ≠ '&') : dropReferences s = s := by
  cases s with
  | nil => rw [dropReferences]
  | cons c r => rw [dropReferences, if_neg (h c rfl)]

/-- Behind a chain of references, a name that is none comes out as it is. -/
theorem dropReferences_append (h : References refs) (hb : Bare base) : dropReferences (refs ++ base) = base := by
  induction h with
  | nil => exact dropReferences_eq_self fun c hc => (hb.head c hc).1
  | @cons muts blanks rest hblank hrest ih =>
    -- what stands behind the `mut `s: blanks, or the next reference, or the name
    have hhead : ∀ c ∈ (rest ++ base).head?, isBlank c = false := by
      intro c hc
      rw [List.head?_append, Option.mem_def, Option.or_eq_some_iff] at hc
      rcases hc with hc | ⟨-,hc⟩
      · rw [hrest.head c hc]
        decide
      · exact (hb.head c hc).2
    have hmut : startsWith mutMark (blanks ++ (rest ++ base)) = false := by
      cases blanks with
      | cons b bs =>
        refine startsWith_cons_of_ne ?_
        rintro rfl
        exact absurd (hblank 'm' List.mem_cons_self) (by decide)
      | nil =>
        cases rest with
        | nil => exact hb.start
        | cons c rest =>
          obtain rfl := hrest.head c rfl
          exact startsWith_cons_of_ne (by decide)
    have htrim : trimStart (blanks ++ (rest ++ base)) = rest ++ base := by
      rw [trimStart, List.dropWhile_append_of_pos hblank]
      exact trimStart_eq_self hhead
    simp only [List.cons_append, List.append_assoc]
    rw [dropReferences, if_pos rfl, dropRepeated_replicate (by decide) hmut, htrim, ih]

end TypeName
end InvocationHost
