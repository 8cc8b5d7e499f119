import InvocationHost.Backtrace.SourcePath
import InvocationHost.Proofs.Lines

/-! # Shortened paths are a normal form

A shortened path is the components from one before the last `src` on, with a slash between them. These components
come apart again as they were, so that a shortened path stays as it is; and neither the way the slashes of a path are
written nor the directory that it lies in has a part in it, as long as the path itself says what `src` lies in.
-/
namespace InvocationHost.SourcePath
open Text
variable {cs front tail : List (List Char)} {c : List Char} {p q s t : List Char}

/-! ## Components -/

theorem components_eq (path : List Char) :
    components path = (path.splitOnP isSlash).filter fun c => c ≠ [] ∧ c ≠ ['.'] := by
  rw [components, pieces_eq_splitOnP]
  apply List.filter_congr
  intro c _
  rw [Bool.eq_iff_iff]
  simp

/-- A slash parts the components before it from those behind it. -/
theorem components_append_cons {m : Char} (hm : isSlash m = true) (p q : List Char) :
    components (p ++ m :: q) = components p ++ components q := by
  rw [components_eq, List.splitOnP_append_cons p q hm, List.filter_append, ← components_eq, ← components_eq]

theorem components_slashes_append (hs : ∀ m ∈ s, isSlash m = true) (p : List Char) :
    components (s ++ p) = components p := by
  induction s with
  | nil => rfl
  | cons m s ih =>
    rw [List.forall_mem_cons] at hs
    exact (components_append_cons hs.1 [] (s ++ p)).trans (ih hs.2)

structure IsComponent (c : List Char) : Prop where
  slashless : ∀ m ∈ c, isSlash m = false
  ne_nil : c ≠ []
  ne_dot : c ≠ ['.']

theorem isComponent_of_mem (h : c ∈ components p) : IsComponent c := by
  obtain ⟨hpiece,hc⟩ := List.mem_filter.mp h
  have hc : c ≠ [] ∧ c ≠ ['.'] := by simpa [← not_or] using hc
  exact ⟨isMark_of_mem_pieces hpiece,hc.1,hc.2⟩

theorem IsComponent.components_eq (h : IsComponent c) : components c = [c] := by
  rw [components, pieces_of_not h.slashless]
  simp [h.ne_nil, h.ne_dot]

/-- Components with slashes between them come apart as they were. -/
theorem components_join (h : ∀ c ∈ cs, IsComponent c) : components (join cs) = cs := by
  induction cs with
  | nil => rfl
  | cons c cs ih =>
    rw [List.forall_mem_cons] at h
    cases cs with
    | nil =>
      rw [join, List.intercalate_singleton]
      exact h.1.components_eq
    | cons d cs =>
      have hjoin : join (c :: d :: cs) = c ++ '/' :: join (d :: cs) := by simp [join, List.intercalate_cons_cons]
      rw [hjoin, components_append_cons (by decide), h.1.components_eq, ih h.2, List.singleton_append]

/-! ## The components that are kept -/

theorem fromCrate_of_src (h : src ∉ tail) :
    fromCrate (front ++ src :: tail) = front.getLast?.toList ++ src :: tail := by
  have hfree : ∀ c ∈ tail.reverse, decide (c ≠ src) = true := all_ne_of_notMem (by rwa [List.mem_reverse])
  have hrev : (front ++ src :: tail).reverse = tail.reverse ++ src :: front.reverse := by simp
  have hdrop : (tail.reverse ++ src :: front.reverse).dropWhile (· ≠ src) = src :: front.reverse := by
    rw [List.dropWhile_append_of_pos hfree]
    exact List.dropWhile_cons_of_neg (by simp)
  have htake : (tail.reverse ++ src :: front.reverse).takeWhile (· ≠ src) = tail.reverse := by
    rw [List.takeWhile_append_of_pos hfree, List.takeWhile_cons_of_neg (by simp), List.append_nil]
  rw [fromCrate, hrev, hdrop, htake]
  simp

theorem fromCrate_of_notMem (h : src ∉ cs) : fromCrate cs = cs.getLast?.toList := by
  have hfree : ∀ c ∈ cs.reverse, decide (c ≠ src) = true := all_ne_of_notMem (by rwa [List.mem_reverse])
  have hdrop : cs.reverse.dropWhile (· ≠ src) = [] := by
    have hnil : (cs.reverse ++ []).dropWhile (· ≠ src) = [] := List.dropWhile_append_of_pos hfree
    rwa [List.append_nil] at hnil
  rw [fromCrate, hdrop]

theorem exists_last_src (h : src ∈ cs) : ∃ front tail, cs = front ++ src :: tail ∧ src ∉ tail := by
  obtain ⟨back,front,hrev,hback⟩ := List.eq_append_cons_of_mem (List.mem_reverse.mpr h)
  refine ⟨front.reverse,back.reverse,?_,fun hmem => hback (List.mem_reverse.mp hmem)⟩
  rw [← List.reverse_reverse cs, hrev]
  simp

/-- Counted from the front, what is kept begins one before the last `src`, or with it. -/
theorem fromCrate_eq_drop {i : Nat} (hi : cs[i]? = some src) (hlast : src ∉ cs.drop (i + 1)) :
    fromCrate cs = cs.drop (i - 1) := by
  obtain ⟨hlt,hget⟩ := List.getElem?_eq_some_iff.mp hi
  have hdrop : cs.drop i = src :: cs.drop (i + 1) := by rw [List.drop_eq_getElem_cons hlt, hget]
  have hsplit : cs = cs.take i ++ src :: cs.drop (i + 1) := by rw [← hdrop, List.take_append_drop]
  have hcrate : fromCrate cs = (cs.take i).getLast?.toList ++ cs.drop i := by
    rw [hdrop, ← fromCrate_of_src hlast, ← hsplit]
  rw [hcrate]
  -- in front of the last `src` stands nothing, or the directory that is kept with it
  cases i with
  | zero => rfl
  | succ i =>
    have hdir : (cs.take (i + 1)).getLast? = some cs[i] := by
      rw [List.take_succ_eq_append_getElem (by omega), List.getLast?_concat]
    rw [hdir, Nat.add_sub_cancel, List.drop_eq_getElem_cons (by omega : i < cs.length)]
    rfl

theorem fromCrate_subset (cs : List (List Char)) : fromCrate cs ⊆ cs := by
  by_cases h : src ∈ cs
  · obtain ⟨front,tail,rfl,htail⟩ := exists_last_src h
    rw [fromCrate_of_src htail]
    intro c hc
    rcases List.mem_append.mp hc with hc | hc
    · exact List.mem_append_left _ (List.mem_of_mem_getLast? (Option.mem_toList.mp hc))
    · exact List.mem_append_right _ hc
  · rw [fromCrate_of_notMem h]
    exact fun c hc => List.mem_of_mem_getLast? (Option.mem_toList.mp hc)

theorem getLast?_toList (c : Option (List Char)) : c.toList.getLast? = c := by cases c <;> rfl

theorem fromCrate_fromCrate (cs : List (List Char)) : fromCrate (fromCrate cs) = fromCrate cs := by
  by_cases h : src ∈ cs
  · obtain ⟨front,tail,rfl,htail⟩ := exists_last_src h
    rw [fromCrate_of_src htail, fromCrate_of_src htail, getLast?_toList]
  · have hkept : src ∉ fromCrate cs := fun hmem => h (fromCrate_subset cs hmem)
    rw [fromCrate_of_notMem hkept, fromCrate_of_notMem h, getLast?_toList]

/-- What lies before the component in front of the last `src` does not count. -/
theorem fromCrate_append (hfront : front ≠ []) (htail : src ∉ tail) (before : List (List Char)) :
    fromCrate (before ++ (front ++ src :: tail)) = fromCrate (front ++ src :: tail) := by
  rw [← List.append_assoc, fromCrate_of_src htail, fromCrate_of_src htail, List.getLast?_append,
    List.getLast?_eq_some_getLast hfront, Option.some_or]

/-! ## Paths -/

/-- The same path with its slashes written in another way: any run of slashes in place of a run. -/
inductive Respelled : List Char → List Char → Prop
  | nil : Respelled [] []
  | char (m : Char) {p q : List Char} : Respelled p q → Respelled (m :: p) (m :: q)
  | slashes {s t p q : List Char} : s ≠ [] → t ≠ [] → (∀ m ∈ s ++ t, isSlash m = true) → Respelled p q →
      Respelled (s ++ p) (t ++ q)

theorem Respelled.components_append (h : Respelled p q) (before : List Char) :
    components (before ++ p) = components (before ++ q) := by
  induction h generalizing before with
  | nil => rfl
  | @char m p q _ ih => simpa using ih (before ++ [m])
  | @slashes s t p q hs ht hslash _ ih =>
    have hrun {s : List Char} (hne : s ≠ []) (hs : ∀ m ∈ s, isSlash m = true) (p : List Char) :
        components (before ++ (s ++ p)) = components before ++ components p := by
      obtain ⟨m,s,rfl⟩ := List.exists_cons_of_ne_nil hne
      rw [List.forall_mem_cons] at hs
      rw [List.cons_append, components_append_cons hs.1, components_slashes_append hs.2]
    rw [List.forall_mem_append] at hslash
    rw [hrun hs hslash.1, hrun ht hslash.2]
    exact congrArg _ (ih [])

theorem toList_minimal (path : String) : (minimal path).toList = join (fromCrate (components path.toList)) :=
  String.toList_ofList

theorem components_minimal (path : String) : components (minimal path).toList = fromCrate (components path.toList) := by
  rw [toList_minimal]
  exact components_join fun c hc => isComponent_of_mem (fromCrate_subset _ hc)

/-- **A shortened path is a normal form.** Of the components, which are the pieces between slashes that are neither
empty nor a dot, it has those from one before the last `src` on, or from `src` itself if that is the first one, and
without a `src` only the last one. It is shortened no further, whatever slashes a path is written with it is the same,
and the directory of the checkout is not seen in it, if the path has a component before its last `src`. -/
theorem minimal_is_normal_form (path : String) :
    let cs := (path.toList.splitOnP isSlash).filter fun c => c ≠ [] ∧ c ≠ ['.']
    (∀ i : Nat, cs[i]? = some src → src ∉ cs.drop (i + 1) →
      (minimal path).toList = ['/'].intercalate (cs.drop (i - 1))) ∧
    (src ∉ cs → (minimal path).toList = cs.getLast?.getD []) ∧
    minimal (minimal path) = minimal path ∧
    (∀ other : String, Respelled path.toList other.toList → minimal other = minimal path) ∧
    (∀ (checkout : String) front dir tail, cs = front ++ dir :: src :: tail → src ∉ tail →
      minimal (checkout ++ "/" ++ path) = minimal path) := by
  intro cs
  have hcs : cs = components path.toList := (components_eq path.toList).symm
  refine ⟨?_,?_,?_,?_,?_⟩
  · intro i hi hlast
    rw [toList_minimal, ← hcs, fromCrate_eq_drop hi hlast, join]
  · intro hnone
    rw [toList_minimal, ← hcs, fromCrate_of_notMem hnone, join]
    cases cs.getLast? <;> simp
  · rw [minimal, components_minimal, fromCrate_fromCrate, minimal]
  · intro other h
    have hcomponents : components path.toList = components other.toList := h.components_append []
    rw [minimal, minimal, hcomponents]
  · intro checkout front dir tail hpath htail
    have hcomponents : components (checkout ++ "/" ++ path).toList =
        components checkout.toList ++ components path.toList := by
      simpa using components_append_cons (by decide) checkout.toList path.toList
    have hcrate := fromCrate_append (List.append_ne_nil_of_right_ne_nil front (List.cons_ne_nil dir [])) htail
      (components checkout.toList)
    rw [List.append_assoc, List.singleton_append] at hcrate
    rw [minimal, minimal, hcomponents, ← hcs, hpath, hcrate]

end InvocationHost.SourcePath
