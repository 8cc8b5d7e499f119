import InvocationHost.Proofs.DefaultTags

/-! # Names behind references

A type is tagged by the last part of its path, whatever references stand before it, with one exception. Of a chain
of references only the part up to its first `&mut ` is dropped from a short name; what is left of the chain goes
away with the scope of the path, and stays where the path has no scope.
-/
namespace InvocationHost
open Text

namespace Text
variable {m : Char} {ms front back s : List Char}

/-- What cannot begin a mark can stand before a text without making it hold the mark. -/
theorem infix_append_iff_of_notMem (h : m ∉ front) : m :: ms <:+: front ++ s ↔ m :: ms <:+: s := by
  induction front with
  | nil => rfl
  | cons c r ih =>
    rw [List.mem_cons, not_or] at h
    rw [List.cons_append, List.infix_cons_iff, List.cons_prefix_cons, ih h.2]
    simp [h.1]

theorem startsWith_eq_false {mark : List Char} (hm : m ∈ mark) (hs : m ∉ s) : startsWith mark s = false := by
  rw [Bool.eq_false_iff, ne_eq, startsWith_iff]
  rintro ⟨rest,rfl⟩
  exact hs (List.mem_append_left rest hm)

/-- A text is cut at the last doubled mark, if no mark stands behind it. -/
theorem cutLast_doubled (h : m ∉ back) (front : List Char) :
    cutLast [m,m] (front ++ m :: m :: back) = some (front,back) := by
  have hmark : cutLast [m,m] (m :: back) = none := by
    have hhead : after? [m] back = none :=
      after?_eq_none_iff.mpr (startsWith_eq_false (List.mem_singleton_self m) h)
    simp [cutLast, cutLast_of_notMem h, after?, hhead]
  exact cutLast_append hmark front

end Text

namespace TypeName

/-- The two ways to write a reference. -/
inductive Reference
  | shared
  | exclusive
  deriving DecidableEq, Repr

namespace Reference

def text : Reference → List Char
  | shared => ['&']
  | exclusive => '&' :: mutMark

def chain (refs : List Reference) : List Char := refs.flatMap text

/-- What a short name does not drop of a chain of references. -/
def leftover : List Reference → List Reference
  | [] => []
  | shared :: refs => leftover refs
  | exclusive :: refs => refs

theorem leftover_eq_nil_iff (refs : List Reference) : leftover refs = [] ↔ exclusive ∉ refs.dropLast := by
  induction refs with
  | nil => simp [leftover]
  | cons r refs ih =>
    cases refs with
    | nil => cases r <;> simp [leftover]
    | cons r' refs => cases r <;> simp_all [leftover]

theorem references_chain (refs : List Reference) : References (chain refs) := by
  induction refs with
  | nil => exact .nil
  | cons r refs ih =>
    cases r with
    | shared => exact ih.unpadded 0
    | exclusive => exact ih.unpadded 1

theorem mem_of_mem_chain {refs : List Reference} {c : Char} (h : c ∈ chain refs) : c ∈ '&' :: mutMark := by
  obtain ⟨r,-,hc⟩ := List.mem_flatMap.mp h
  cases r with
  | shared => exact List.mem_cons.mpr (.inl (List.mem_singleton.mp hc))
  | exclusive => exact hc

theorem notMem_chain {c : Char} (h : c ∉ '&' :: mutMark) (refs : List Reference) : c ∉ chain refs :=
  fun hc => h (mem_of_mem_chain hc)

theorem infix_chain_append_iff {mark : List Char} (hne : mark ≠ []) (h : ∀ c ∈ mark.head?, c ∉ '&' :: mutMark)
    (refs : List Reference) (s : List Char) : mark <:+: chain refs ++ s ↔ mark <:+: s := by
  obtain ⟨m,ms,rfl⟩ := List.exists_cons_of_ne_nil hne
  exact infix_append_iff_of_notMem (notMem_chain (h m rfl) refs)

theorem startsWith_chain_append {mark s : List Char} (hmark : mark.head? ≠ some '&') (h : startsWith mark s = false)
    (refs : List Reference) : startsWith mark (chain refs ++ s) = false := by
  cases refs with
  | nil => exact h
  | cons r refs =>
    cases mark with
    | nil => cases h
    | cons m ms =>
      have hm : m ≠ '&' := by simpa using hmark
      cases r <;> exact startsWith_cons_of_ne hm

/-- One pass over ampersands, `mut ` and `dyn ` ends behind the first exclusive reference. -/
theorem dropRepeated_chain {s : List Char} (hb : Bare s) (hdyn : startsWith dynMark s = false)
    (refs : List Reference) :
    dropRepeated dynMark (dropRepeated mutMark ((chain refs ++ s).dropWhile (· = '&'))) =
      chain (leftover refs) ++ s := by
  induction refs with
  | nil =>
    have hs : s.dropWhile (· = '&') = s := by
      cases s with
      | nil => rfl
      | cons c r => exact List.dropWhile_cons_of_neg (by simpa using (hb.head c rfl).1)
    change dropRepeated dynMark (dropRepeated mutMark (s.dropWhile (· = '&'))) = s
    rw [hs, dropRepeated_eq_self hb.start, dropRepeated_eq_self hdyn]
  | cons r refs ih =>
    cases r with
    | shared => exact ih
    | exclusive =>
      have hmut := startsWith_chain_append (by decide) hb.start refs
      have hdyn' := startsWith_chain_append (by decide) hdyn refs
      change dropRepeated dynMark (dropRepeated mutMark (mutMark ++ chain refs ++ s)) = chain refs ++ s
      rw [List.append_assoc, dropRepeated_append (by decide), dropRepeated_eq_self hmut, dropRepeated_eq_self hdyn']

end Reference

/-- An identifier holds no blank, and nothing that has a meaning before a type, in a path or before arguments. -/
def IsIdentifier (s : List Char) : Prop := s ≠ [] ∧ ∀ c ∈ s, isBlank c = false ∧ c ∉ ['&',':','<']

instance (s : List Char) : Decidable (IsIdentifier s) :=
  inferInstanceAs (Decidable (s ≠ [] ∧ ∀ c ∈ s, isBlank c = false ∧ c ∉ ['&',':','<']))

theorem IsIdentifier.notMem_blank {s : List Char} (h : IsIdentifier s) : ' ' ∉ s :=
  fun hmem => absurd (h.2 _ hmem).1 (by decide)

/-- A path of identifiers, with or without arguments. -/
structure TypePath where
  scope : List (List Char)
  name : List Char
  arguments : Option (List Char) := none
  isIdentifier : ∀ s ∈ scope ++ [name], IsIdentifier s

namespace TypePath
open Reference
variable (p : TypePath)

def path : List Char := p.scope.flatMap (· ++ pathMark) ++ p.name

def ending : List Char :=
  match p.arguments with
  | some arguments => '<' :: (arguments ++ ['>'])
  | none => []

def text : List Char := p.path ++ p.ending

theorem name_isIdentifier : IsIdentifier p.name := p.isIdentifier _ (by simp)

theorem notMem_name {c : Char} (h : c ∈ ['&',':','<']) : c ∉ p.name := fun hc => (p.name_isIdentifier.2 c hc).2 h

theorem notMem_path : '<' ∉ p.path := by
  intro h
  rcases List.mem_append.mp h with h | h
  · obtain ⟨segment,hsegment,hmem⟩ := List.mem_flatMap.mp h
    rcases List.mem_append.mp hmem with hmem | hmem
    · exact ((p.isIdentifier _ (List.mem_append_left _ hsegment)).2 _ hmem).2 (by simp)
    · exact absurd hmem (by decide)
  · exact p.notMem_name (by simp) h

theorem ending_cases : p.ending = [] ∨ ∃ arguments, p.ending = '<' :: (arguments ++ ['>']) := by
  cases ha : p.arguments with
  | none => exact .inl (by rw [ending, ha])
  | some arguments => exact .inr ⟨arguments,by rw [ending, ha]⟩

/-- A name begins with an identifier, and only the mark of a path or of arguments can follow it. -/
theorem exists_text_eq : ∃ segment, IsIdentifier segment ∧
    (p.text = segment ∨ ∃ c rest, c ∈ [':','<'] ∧ p.text = segment ++ c :: rest) := by
  cases hs : p.scope with
  | cons segment scope =>
    let rest := scope.flatMap (· ++ pathMark) ++ p.name ++ p.ending
    have htext : p.text = segment ++ ':' :: ':' :: rest := by simp [text, path, pathMark, hs, rest]
    exact ⟨segment,p.isIdentifier _ (by simp [hs]),.inr ⟨':',_,by simp,htext⟩⟩
  | nil =>
    have hpath : p.path = p.name := by simp [path, hs]
    refine ⟨p.name,p.name_isIdentifier,?_⟩
    rw [text, hpath]
    rcases p.ending_cases with hend | ⟨arguments,hend⟩
    · exact .inl (by rw [hend, List.append_nil])
    · exact .inr ⟨'<',_,by simp,by rw [hend]⟩

theorem startsWith_text {mark : List Char} (hblank : ' ' ∈ mark) (hpath : ':' ∉ mark) (harguments : '<' ∉ mark) :
    startsWith mark p.text = false := by
  obtain ⟨segment,hsegment,htext⟩ := p.exists_text_eq
  have hnot := hsegment.notMem_blank
  rcases htext with htext | ⟨c,rest,hc,htext⟩
  · rw [htext, startsWith_eq_false hblank hnot]
  · have hmark : c ∉ mark := by
      rintro hmem
      simp only [List.mem_cons, List.not_mem_nil, or_false] at hc
      rcases hc with rfl | rfl <;> contradiction
    rw [htext, startsWith_append_cons hmark, startsWith_eq_false hblank hnot]

theorem bare : Bare p.text := by
  refine ⟨?_,p.startsWith_text (by decide) (by decide) (by decide)⟩
  obtain ⟨segment,⟨hne,hsegment⟩,htext⟩ := p.exists_text_eq
  obtain ⟨d,ds,rfl⟩ := List.exists_cons_of_ne_nil hne
  have hd := hsegment d (by simp)
  have hhead : p.text.head? = some d := by rcases htext with htext | ⟨c,rest,-,htext⟩ <;> simp [htext]
  rintro c hc
  cases hhead.symm.trans hc
  exact ⟨by rintro rfl; exact hd.2 (by simp),hd.1⟩

theorem last_text : ∀ c ∈ p.text.getLast?, isBlank c = false := by
  rcases p.ending_cases with hend | ⟨arguments,hend⟩
  · have hlast : p.text.getLast? = some (p.name.getLast p.name_isIdentifier.1) := by
      rw [text, hend, List.append_nil, path, List.getLast?_append, List.getLast?_eq_some_getLast, Option.some_or]
    rintro c hc
    cases hlast.symm.trans hc
    exact (p.name_isIdentifier.2 _ (List.getLast_mem _)).1
  · rw [text, hend, ← List.cons_append, ← List.append_assoc, List.getLast?_concat]
    rintro c ⟨⟩
    decide

variable (refs : List Reference)

/-- The name of the type behind references. -/
def behind : String := String.ofList (chain refs ++ p.text)

/-- The references that are left in the short name. -/
def kept : List Reference := if p.scope = [] then leftover refs else []

/-- No reference stands behind an exclusive one, or the name has a scope. -/
def Settles : Prop := .exclusive ∉ refs.dropLast ∨ p.scope ≠ []

theorem kept_eq_nil_iff : p.kept refs = [] ↔ p.Settles refs := by
  rw [kept, Settles]
  split
  · next hscope => simp [hscope, leftover_eq_nil_iff]
  · next hscope => simp [hscope]

theorem trimmed_name : Trimmed (chain refs ++ p.name) := by
  have hne := p.name_isIdentifier.1
  have hblank := p.name_isIdentifier.notMem_blank
  have hb : Bare p.name := by
    refine ⟨fun c hc => ?_,startsWith_eq_false (by decide) hblank⟩
    have hmem := List.mem_of_mem_head? hc
    exact ⟨by rintro rfl; exact p.notMem_name (by simp) hmem,(p.name_isIdentifier.2 c hmem).1⟩
  exact (references_chain refs).trimmed hb hne fun c hc => (p.name_isIdentifier.2 c (List.mem_of_mem_getLast? hc)).1

/-- The references before the path go away with its scope, and stay where it has none. -/
theorem cutLast_path : ((cutLast pathMark (chain refs ++ p.path)).map Prod.snd).getD (chain refs ++ p.path) =
    (if p.scope = [] then chain refs else []) ++ p.name := by
  have hname : ':' ∉ p.name := p.notMem_name (by simp)
  rcases List.eq_nil_or_concat p.scope with hscope | ⟨scope,segment,hscope⟩
  · have hpath : p.path = p.name := by simp [path, hscope]
    have hnone : cutLast pathMark (chain refs ++ p.name) = none := by
      have hnot : ':' ∉ chain refs ++ p.name :=
        fun h => (List.mem_append.mp h).elim (notMem_chain (by decide) refs) hname
      have hcut : cutLast pathMark (chain refs ++ p.name ++ []) = none := cutLast_append_left hnot []
      rwa [List.append_nil] at hcut
    rw [hpath, hnone, if_pos hscope]
    rfl
  · have hpath : chain refs ++ p.path =
        (chain refs ++ scope.flatMap (· ++ pathMark) ++ segment) ++ ':' :: ':' :: p.name := by
      simp [path, hscope, pathMark]
    rw [hpath, show pathMark = [':',':'] from rfl, cutLast_doubled hname, if_neg (by simp [hscope])]
    rfl

/-- **A short name is that of the type, behind the references that are left.** -/
theorem toList_short_behind : (short (p.behind refs)).toList = chain (p.kept refs) ++ p.name := by
  have hdyn : startsWith dynMark p.text = false := p.startsWith_text (by decide) (by decide) (by decide)
  have hbase : (chain (leftover refs) ++ p.text).takeWhile (· ≠ '<') = chain (leftover refs) ++ p.path := by
    have hfree : ∀ c ∈ chain (leftover refs) ++ p.path, decide (c ≠ '<') = true := by
      rintro c hc
      rw [decide_eq_true_iff]
      rintro rfl
      exact (List.mem_append.mp hc).elim (notMem_chain (by decide) _) p.notMem_path
    rw [text, ← List.append_assoc, List.takeWhile_append_of_pos hfree]
    rcases p.ending_cases with hend | ⟨arguments,hend⟩ <;> simp [hend]
  have hkept : (if p.scope = [] then chain (leftover refs) else []) = chain (p.kept refs) := by
    rw [kept]
    split <;> rfl
  rw [short, behind, String.toList_ofList, String.toList_ofList, shortChars, dropRepeated_chain p.bare hdyn]
  simp only [hbase, cutLast_path, hkept]
  exact (p.trimmed_name _).trim_eq

theorem namesText_behind_iff : NamesText (p.behind refs).toList ↔ TextType p.text := by
  have hne : p.text ≠ [] := by
    obtain ⟨segment,hsegment,htext⟩ := p.exists_text_eq
    rcases htext with htext | ⟨c,rest,-,htext⟩
    · exact htext ▸ hsegment.1
    · simp [htext]
  rw [behind, String.toList_ofList]
  exact namesText_references_iff (references_chain refs) p.bare ((references_chain refs).trimmed p.bare hne p.last_text)

/-- No mark of a wrapper can begin within references. -/
theorem namesWrapper_behind_iff : NamesWrapper (p.behind refs) ↔ NamesWrapper (p.behind []) := by
  refine or_congr (exists_congr fun mark => and_congr_right fun hmark => ?_) (exists_congr fun word => ?_)
  · have hhead : mark.toList ≠ [] ∧ ∀ c ∈ mark.toList.head?, c ∉ '&' :: mutMark := by
      revert mark
      decide
    have hiff (r : List Reference) : mark.toList <:+: (p.behind r).toList ↔ mark.toList <:+: p.text := by
      rw [behind, String.toList_ofList, infix_chain_append_iff hhead.1 hhead.2]
    exact (hiff refs).trans (hiff []).symm
  · refine and_congr_left fun hword => ?_
    have hhead : ∀ c ∈ word.head?, c ∉ '&' :: mutMark := by
      intro c hc hmem
      have hw : (word.map Char.toLower).head? = some c.toLower := by rw [List.head?_map, hc, Option.map_some]
      rw [hword] at hw
      have hlower : ∀ d ∈ '&' :: mutMark, "wrap".toList.head? ≠ some d.toLower := by decide
      exact hlower c hmem hw
    have hne : word ≠ [] := by
      rintro rfl
      exact absurd hword (by decide)
    have hiff (r : List Reference) : word <:+: (short (p.behind r)).toList ↔ word <:+: p.name := by
      rw [toList_short_behind, infix_chain_append_iff hne hhead]
    exact (hiff refs).trans (hiff []).symm

theorem short_behind_ne_empty : short (p.behind refs) ≠ "" := by
  intro h
  have hshort := p.toList_short_behind refs
  rw [h] at hshort
  exact p.name_isIdentifier.1 (List.append_eq_nil_iff.mp hshort.symm).2

theorem short_behind_eq_iff : short (p.behind refs) = short (p.behind []) ↔ p.Settles refs := by
  have hnone : p.kept [] = [] := (p.kept_eq_nil_iff []).mpr (.inl (by simp))
  have hchain (r : List Reference) : chain r = [] ↔ r = [] := by
    cases r with
    | nil => simp [chain]
    | cons r rs => cases r <;> simp [chain, Reference.text]
  rw [← String.toList_inj, p.toList_short_behind, p.toList_short_behind, hnone, ← p.kept_eq_nil_iff, ← hchain]
  exact List.append_left_eq_self

/-- What is left of the references is what a short name can begin with. -/
theorem startsWith_short_iff :
    startsWith ['&'] (short (p.behind refs)).toList = true ∨ startsWith mutMark (short (p.behind refs)).toList = true ↔
      ¬p.Settles refs := by
  rw [p.toList_short_behind, ← p.kept_eq_nil_iff]
  cases p.kept refs with
  | nil =>
    have hblank := p.name_isIdentifier.notMem_blank
    have hand : startsWith ['&'] p.name = false :=
      startsWith_eq_false (List.mem_singleton_self '&') (p.notMem_name (by simp))
    have hmut : startsWith mutMark p.name = false := startsWith_eq_false (m := ' ') (by decide) hblank
    change startsWith ['&'] p.name = true ∨ startsWith mutMark p.name = true ↔ _
    simp [hand, hmut]
  | cons r rs =>
    have hand : startsWith ['&'] (chain (r :: rs) ++ p.name) = true := by
      cases r <;> exact startsWith_append ['&'] _
    simp [hand]

end TypePath
end TypeName

open InvocationHost.TypeName

/-- **References change neither the short name of a type nor its tag, as long as the short name drops them all.**
It drops the part of a chain up to its first `&mut `, and with a scope of the path the rest as well. Where something
is left, the short name begins with it, and with the short name the tag is another, unless the type is a text type
or a wrapper. -/
theorem Taxonomy.errorTag_behind_references {t : Taxonomy} (p : TypePath) (refs : List Reference)
    (h : ∀ tag, (p.behind refs,tag) ∉ t.errorTags) (h' : ∀ tag, (p.behind [],tag) ∉ t.errorTags) :
    (short (p.behind refs) = short (p.behind []) ↔ p.Settles refs) ∧
    (t.errorTag (p.behind refs) = t.errorTag (p.behind []) ↔
      p.Settles refs ∨ NamesText (p.behind []).toList ∨ NamesWrapper (p.behind [])) ∧
    (startsWith ['&'] (short (p.behind refs)).toList = true ∨ startsWith mutMark (short (p.behind refs)).toList = true ↔
      ¬p.Settles refs) := by
  refine ⟨p.short_behind_eq_iff refs,?_,p.startsWith_short_iff refs⟩
  have htext : isText (p.behind refs) = isText (p.behind []) := by
    rw [Bool.eq_iff_iff, isText_iff, isText_iff, p.namesText_behind_iff, p.namesText_behind_iff]
  have hwrapper : isWrapper (p.behind refs) = isWrapper (p.behind []) := by
    rw [Bool.eq_iff_iff, isWrapper_iff, isWrapper_iff, p.namesWrapper_behind_iff]
  rw [errorTag_of_not_overridden h, errorTag_of_not_overridden h', Tag.ofTypeName, Tag.ofTypeName, htext, hwrapper,
    ← isText_iff, ← isWrapper_iff, ← p.short_behind_eq_iff]
  have hempty (r : List Reference) : (short (p.behind r)).isEmpty = false := by
    simp [p.short_behind_ne_empty r]
  rw [hempty, hempty]
  by_cases hhandler : isText (p.behind []) = true ∨ isWrapper (p.behind []) = true
  · simp [hhandler, Bool.or_eq_true_iff.mpr hhandler]
  · have hnone : (isText (p.behind []) || isWrapper (p.behind [])) = false := by
      rwa [Bool.eq_false_iff, ne_eq, Bool.or_eq_true_iff]
    simp [hhandler, hnone, Tag.named]

/-- A failure by exclusive reference, with a scope and arguments, where the tag of another type is overridden. -/
theorem Taxonomy.errorTag_behind_exclusive :
    let t : Taxonomy := Taxonomy.overrideError {} "demo::Refused" "Order.Refused"
    let p : TypePath := ⟨["demo".toList],"Rejected".toList,some "u8".toList,by decide⟩
    let refs : List Reference := [.exclusive,.shared]
    (∀ tag, (p.behind refs,tag) ∉ t.errorTags) ∧ (∀ tag, (p.behind [],tag) ∉ t.errorTags) ∧
    p.behind refs = "&mut &demo::Rejected<u8>" ∧ t.errorTag (p.behind refs) = t.errorTag (p.behind []) := by
  intro t p refs
  have hfree (r : List Reference) (hr : p.behind r ≠ "demo::Refused") : ∀ tag, (p.behind r,tag) ∉ t.errorTags :=
    fun tag hmem => hr (congrArg Prod.fst (List.mem_singleton.mp hmem))
  have h := hfree refs (by decide +kernel)
  have h' := hfree [] (by decide +kernel)
  exact ⟨h,h',rfl,(errorTag_behind_references p refs h h').2.1.mpr (.inl (.inr (by simp [p])))⟩

/-- A reference behind an exclusive one is left in the short name of a type without a scope, and gets into the tag. -/
theorem Taxonomy.not_errorTag_behind_references :
    let p : TypePath := ⟨[],"u32".toList,none,by decide⟩
    p.behind [.exclusive,.shared] = "&mut &u32" ∧ p.behind [] = "u32" ∧
    short "&mut &u32" = "&u32" ∧ short "u32" = "u32" ∧
    Taxonomy.errorTag {} "&mut &u32" = "Runtime.&u32" ∧ Taxonomy.errorTag {} "u32" = "Runtime.u32" := by
  decide +kernel

end InvocationHost
