import InvocationHost.Proofs.References
import InvocationHost.Taxonomy

/-! # Tags of errors that nobody has overridden

The names of text types are given by a grammar: a chain of references before `String`, `str` or a `Cow` whose
arguments are `str` and lifetimes. The rule for text types accepts exactly these names. Behind it come the rule
for types that carry another failure, and the type's own name.
-/
namespace InvocationHost
open Text

namespace TypeName

/-- The text with nothing but blanks around it. -/
def Padded (text s : List Char) : Prop :=
  ∃ left right, (∀ c ∈ left, isBlank c = true) ∧ (∀ c ∈ right, isBlank c = true) ∧ s = left ++ (text ++ right)

/-- The first thing that is not blank is an apostrophe. -/
def NamesLifetime (s : List Char) : Prop :=
  ∃ blanks rest, (∀ c ∈ blanks, isBlank c = true) ∧ s = blanks ++ '\'' :: rest

/-- Arguments with commas between them: `str`, and besides it nothing but lifetimes. -/
def BorrowsStr (arguments : List Char) : Prop :=
  ∃ before argument after, arguments = [','].intercalate (before ++ argument :: after) ∧
    (∀ p ∈ before ++ argument :: after, ',' ∉ p) ∧ (∀ p ∈ before ++ after, NamesLifetime p) ∧
    Padded "str".toList argument

/-- The text types by their names. -/
inductive TextType : List Char → Prop
  | owned : TextType "alloc::string::String".toList
  | slice : TextType "str".toList
  | cow {arguments : List Char} : BorrowsStr arguments →
      TextType ("alloc::borrow::Cow<".toList ++ (arguments ++ ['>']))

/-- A text type behind a chain of references, with blanks around it. -/
def NamesText (s : List Char) : Prop :=
  ∃ refs base, References refs ∧ TextType base ∧ Padded (refs ++ base) s

/-- A type that carries another failure, by a mark in its name or by the word `wrap` in its own name, in letters
of either case. -/
def NamesWrapper (name : String) : Prop :=
  (∃ mark ∈ ["Box<dyn ","anyhow::Error","eyre::Report"], mark.toList <:+: name.toList) ∨
    ∃ word, word <:+: (short name).toList ∧ word.map Char.toLower = "wrap".toList

variable {s text base refs arguments : List Char} {name : String}

theorem trim_eq_iff (h : Trimmed text) : trim s = text ↔ Padded text s := by
  constructor
  · rintro rfl
    exact exists_margins s
  · rintro ⟨left,right,hleft,hright,rfl⟩
    exact h.trim_between hleft hright

theorem isLifetime_trim : isLifetime (trim s) = true ↔ NamesLifetime s := by
  rw [isLifetime, beq_iff_eq]
  constructor
  · intro h
    obtain ⟨left,right,hleft,-,heq⟩ := exists_margins s
    obtain ⟨rest,hrest⟩ := List.head?_eq_some_iff.mp h
    refine ⟨left,rest ++ right,hleft,?_⟩
    rw [heq, hrest]
    rfl
  · rintro ⟨blanks,rest,hblank,rfl⟩
    have hend : trimEnd (['\''] ++ rest) = ['\''] ++ trimEnd rest := trimEnd_append (by decide) rest
    have hhead : ∀ c ∈ (['\''] ++ rest).head?, isBlank c = false := by
      rintro c ⟨⟩
      decide
    rw [show '\'' :: rest = ['\''] ++ rest from rfl, trim_indented hblank hhead, hend]
    rfl

/-- Of the arguments, `str` is the only one left besides the lifetimes. -/
theorem filter_lifetimes_iff :
    ((pieces (· = ',') arguments).map trim).filter (!isLifetime ·) = ["str".toList] ↔ BorrowsStr arguments := by
  constructor
  · intro h
    obtain ⟨before',after',hlist,hbefore,-,hafter⟩ := List.filter_eq_cons_iff.mp h
    obtain ⟨before,rest,hpieces,rfl,hrest⟩ := List.map_eq_append_iff.mp hlist
    obtain ⟨argument,after,rfl,hargument,rfl⟩ := List.map_eq_cons_iff.mp hrest
    refine ⟨before,argument,after,?_,?_,?_,(trim_eq_iff (by decide)).mp hargument⟩
    · rw [← hpieces, intercalate_pieces]
    · intro p hp hcomma
      rw [← hpieces] at hp
      simpa using isMark_of_mem_pieces hp ',' hcomma
    · rw [List.filter_eq_nil_iff] at hafter
      intro p hp
      rw [← isLifetime_trim]
      rcases List.mem_append.mp hp with hp | hp
      · simpa using hbefore _ (List.mem_map_of_mem hp)
      · simpa using hafter _ (List.mem_map_of_mem hp)
  · rintro ⟨before,argument,after,rfl,hcommas,hlifetimes,hstr⟩
    have hdropped (ps : List (List Char)) (hps : ∀ p ∈ ps, NamesLifetime p) :
        (ps.map trim).filter (!isLifetime ·) = [] := by
      rw [List.filter_eq_nil_iff]
      intro q hq
      obtain ⟨p,hp,rfl⟩ := List.mem_map.mp hq
      simp [isLifetime_trim.mpr (hps p hp)]
    have hargument : trim argument = "str".toList := (trim_eq_iff (by decide)).mpr hstr
    have hbefore := hdropped before fun p hp => hlifetimes p (List.mem_append_left _ hp)
    have hafter := hdropped after fun p hp => hlifetimes p (List.mem_append_right _ hp)
    have hkept : (!isLifetime "str".toList) = true := by decide
    rw [pieces_intercalate hcommas (by simp), List.map_append, List.map_cons, List.filter_append, hbefore, hargument,
      List.filter_cons_of_pos (p := fun p => !isLifetime p) hkept, hafter, List.nil_append]

theorem cowArguments?_eq_some_iff {ps : List (List Char)} :
    cowArguments? s = some ps ↔ ∃ arguments, s = cowMark ++ (arguments ++ ['>']) ∧
      ps = (pieces (· = ',') arguments).map trim := by
  constructor
  · intro h
    unfold cowArguments? at h
    split at h
    · next rest hrest =>
      split at h
      · next hlast =>
        obtain ⟨arguments,rfl⟩ := List.getLast?_eq_some_iff.mp hlast
        rw [List.dropLast_concat] at h
        exact ⟨arguments,after?_eq_some_iff.mp hrest,(Option.some.inj h).symm⟩
      · cases h
    · cases h
  · rintro ⟨arguments,rfl,rfl⟩
    simp [cowArguments?, after?_append]

/-- What is left behind the references decides: it must be the name of a text type. -/
theorem isText_iff_of_dropReferences (h : dropReferences (trim name.toList) = base) :
    isText name = true ↔ TextType base := by
  rw [isText, h]
  constructor
  · intro h
    rcases Bool.or_eq_true_iff.mp h with h | h
    · simp only [textTypes, List.contains_eq_mem, List.mem_cons, List.not_mem_nil, or_false, decide_eq_true_eq] at h
      rcases h with rfl | rfl
      · exact .owned
      · exact .slice
    · split at h
      · next ps hps =>
        obtain ⟨arguments,rfl,rfl⟩ := cowArguments?_eq_some_iff.mp hps
        exact .cow (filter_lifetimes_iff.mp (eq_of_beq h))
      · cases h
  · intro h
    cases h with
    | owned => decide
    | slice => decide
    | @cow arguments harguments =>
      have hcow := cowArguments?_eq_some_iff.mpr ⟨arguments,rfl,rfl⟩
      rw [show "alloc::borrow::Cow<".toList = cowMark from rfl, hcow]
      simp [filter_lifetimes_iff.mpr harguments]

theorem TextType.bare (h : TextType base) : Bare base := by
  cases h with
  | owned => decide
  | slice => decide
  | cow => exact ⟨by rintro c ⟨⟩; decide,startsWith_cons_of_ne (by decide)⟩

theorem TextType.last (h : TextType base) : ∀ c ∈ base.getLast?, isBlank c = false := by
  cases h with
  | owned => decide
  | slice => decide
  | cow =>
    rw [← List.append_assoc, List.getLast?_concat]
    rintro c ⟨⟩
    decide

/-- Blanks around a name behind references could only stand in the name. -/
theorem References.trimmed (hrefs : References refs) (hb : Bare base) (hne : base ≠ [])
    (hlast : ∀ c ∈ base.getLast?, isBlank c = false) : Trimmed (refs ++ base) := by
  constructor
  · intro c hc
    rw [List.head?_append, Option.mem_def, Option.or_eq_some_iff] at hc
    rcases hc with hc | ⟨-,hc⟩
    · rw [hrefs.head c hc]
      decide
    · exact (hb.head c hc).2
  · intro c hc
    rw [List.getLast?_append, List.getLast?_eq_some_getLast hne, Option.some_or] at hc
    exact hlast c (by rwa [List.getLast?_eq_some_getLast hne])

theorem TextType.trimmed (h : TextType base) (hrefs : References refs) : Trimmed (refs ++ base) := by
  have hne : base ≠ [] := by cases h <;> simp
  exact hrefs.trimmed h.bare hne h.last

/-- **The rule for text types accepts their grammar**, and nothing else. -/
theorem isText_iff : isText name = true ↔ NamesText name.toList := by
  constructor
  · intro h
    have hbase := (isText_iff_of_dropReferences rfl).mp h
    obtain ⟨refs,hrefs,heq⟩ := exists_references (trim name.toList)
    exact ⟨refs,_,hrefs,hbase,(trim_eq_iff (hbase.trimmed hrefs)).mp heq⟩
  · rintro ⟨refs,base,hrefs,hbase,hpadded⟩
    have htrim : trim name.toList = refs ++ base := (trim_eq_iff (hbase.trimmed hrefs)).mpr hpadded
    refine (isText_iff_of_dropReferences ?_).mpr hbase
    rw [htrim, dropReferences_append hrefs hbase.bare]

/-- Behind references, it is the name itself that decides. -/
theorem namesText_references_iff (hrefs : References refs) (hb : Bare base) (ht : Trimmed (refs ++ base)) :
    NamesText (refs ++ base) ↔ TextType base := by
  constructor
  · rintro ⟨refs',base',hrefs',hbase',hpadded⟩
    have htrim := (trim_eq_iff (hbase'.trimmed hrefs')).mpr hpadded
    rw [ht.trim_eq] at htrim
    have hdrop := congrArg dropReferences htrim
    rw [dropReferences_append hrefs hb, dropReferences_append hrefs' hbase'.bare] at hdrop
    exact hdrop ▸ hbase'
  · intro hbase
    exact ⟨refs,base,hrefs,hbase,(trim_eq_iff ht).mp ht.trim_eq⟩

/-- Of the names with arguments, only that of a `Cow` can be one of a text type. -/
theorem textType_arguments_iff {path : List Char} (hpath : '<' ∉ path) :
    TextType (path ++ '<' :: (arguments ++ ['>'])) ↔ path = "alloc::borrow::Cow".toList ∧ BorrowsStr arguments := by
  have hcow (arguments : List Char) : "alloc::borrow::Cow<".toList ++ (arguments ++ ['>']) =
      "alloc::borrow::Cow".toList ++ '<' :: (arguments ++ ['>']) := by
    have hmark : "alloc::borrow::Cow<".toList = "alloc::borrow::Cow".toList ++ ['<'] := by decide
    rw [hmark, List.append_assoc, List.singleton_append]
  constructor
  · intro h
    generalize hs : path ++ '<' :: (arguments ++ ['>']) = s at h
    have hmem : '<' ∈ s := by simp [← hs]
    cases h with
    | owned => exact absurd hmem (by decide)
    | slice => exact absurd hmem (by decide)
    | cow harguments =>
      rw [hcow] at hs
      obtain ⟨hfront,hback⟩ := append_cons_inj hpath (by decide) hs
      exact ⟨hfront,List.append_cancel_right hback ▸ harguments⟩
  · rintro ⟨rfl,harguments⟩
    rw [← hcow]
    exact .cow harguments

theorem isWrapper_iff : isWrapper name = true ↔ NamesWrapper name := by
  rw [isWrapper, Bool.or_eq_true, holds_iff _ _ (by decide), NamesWrapper, List.infix_map_iff]
  refine or_congr ?_ (exists_congr fun word => and_congr_right fun _ => eq_comm)
  simp [wrapperMarks, holds_iff]

/-- Behind references, a name with arguments is a text type only as a `Cow` of `str`. -/
theorem namesText_arguments_iff {path : List Char} (hrefs : References refs) (hb : Bare path) (hpath : '<' ∉ path) :
    NamesText (refs ++ (path ++ '<' :: (arguments ++ ['>']))) ↔
      path = "alloc::borrow::Cow".toList ∧ BorrowsStr arguments := by
  have hbase : Bare (path ++ '<' :: (arguments ++ ['>'])) := hb.append_cons (by decide) (by decide) _
  have hlast : ∀ c ∈ (path ++ '<' :: (arguments ++ ['>'])).getLast?, isBlank c = false := by
    rw [← List.cons_append, ← List.append_assoc, List.getLast?_concat]
    rintro c ⟨⟩
    decide
  rw [namesText_references_iff hrefs hbase (hrefs.trimmed hbase (by simp) hlast), textType_arguments_iff hpath]

end TypeName

open InvocationHost.TypeName

theorem Taxonomy.errorTag_of_not_overridden {t : Taxonomy} {name : String} (h : ∀ tag, (name,tag) ∉ t.errorTags) :
    t.errorTag name = Tag.ofTypeName name := by
  have hnone : t.errorTags.lookup name = none := by
    rw [List.lookup_eq_none_iff]
    rintro ⟨key,tag⟩ hmem
    rw [bne_iff_ne]
    rintro rfl
    exact h tag hmem
  rw [errorTag, hnone, Option.getD_none]

/-- **An error is tagged by the first rule that its type meets**, if nobody has overridden its tag. The rule for text
types applies to the names that the grammar gives and to no others; then comes the rule for types that carry another
failure, by a mark anywhere in the name or by the word `wrap` in the type's own name; any other type is tagged by
its own name, or as unknown if it has none. So each text type is a handler error behind any references, and of the
names with arguments the rule for text types takes that of a `Cow` of `str` only. -/
theorem Taxonomy.errorTag_by_first_rule {t : Taxonomy} {name : String} (h : ∀ tag, (name,tag) ∉ t.errorTags) :
    (isText name = true ↔ NamesText name.toList) ∧
    (NamesText name.toList → t.errorTag name = "Runtime.HandlerError") ∧
    (¬NamesText name.toList → NamesWrapper name → t.errorTag name = "Runtime.HandlerError") ∧
    (¬NamesText name.toList → ¬NamesWrapper name →
      t.errorTag name = if short name = "" then "Runtime.Unknown" else "Runtime." ++ short name) ∧
    ∀ refs path arguments, References refs → Bare path → '<' ∉ path →
      (NamesText (refs ++ (path ++ '<' :: (arguments ++ ['>']))) ↔
        path = "alloc::borrow::Cow".toList ∧ BorrowsStr arguments) := by
  have htext : isText name = true ↔ NamesText name.toList := isText_iff
  have hwrapper : isWrapper name = true ↔ NamesWrapper name := isWrapper_iff
  rw [errorTag_of_not_overridden h, Tag.ofTypeName]
  refine ⟨htext,?_,?_,?_,fun refs path arguments hrefs hb hpath => namesText_arguments_iff hrefs hb hpath⟩
  · intro hn
    simp [htext.mpr hn, Tag.handlerError]
  · intro _ hw
    simp [hwrapper.mpr hw, Tag.handlerError]
  · intro hn hw
    rw [← htext] at hn
    rw [← hwrapper] at hw
    simp [hn, hw, Tag.unknown, Tag.named]

/-- A borrowed `Cow` of `str`, where the tag of another type is overridden. -/
theorem Taxonomy.errorTag_borrowed_cow :
    let t : Taxonomy := Taxonomy.overrideError {} "demo::Rejected" "Order.Rejected"
    (∀ tag, ("&&mut alloc::borrow::Cow<'_, str>",tag) ∉ t.errorTags) ∧
    NamesText "&&mut alloc::borrow::Cow<'_, str>".toList ∧
    t.errorTag "&&mut alloc::borrow::Cow<'_, str>" = "Runtime.HandlerError" := by
  intro t
  have hfree : ∀ tag, ("&&mut alloc::borrow::Cow<'_, str>",tag) ∉ t.errorTags := by
    simp [t, overrideError]
  have hstr : Padded "str".toList " str".toList := ⟨[' '],[],by decide,by simp,by decide⟩
  have harguments : BorrowsStr "'_, str".toList :=
    ⟨["'_".toList]," str".toList,[],by decide,by decide,by simpa using ⟨[],['_'],by simp,by decide⟩,hstr⟩
  have hrefs : References "&&mut ".toList := .unpadded 0 (.unpadded 1 .nil)
  have hname : NamesText "&&mut alloc::borrow::Cow<'_, str>".toList :=
    ⟨_,_,hrefs,.cow harguments,[],[],by simp,by simp,by decide⟩
  exact ⟨hfree,hname,(errorTag_by_first_rule hfree).2.1 hname⟩

end InvocationHost
