import InvocationHost.Proofs.OwnBlock

/-! # Methods of trait impls of the host

The symbol of a method of a trait impl is `<T as Trait>::method`. Its trait is taken to stand behind the first
` as `, and that is where it stands if there is no other one in the self type. If there is, what follows the first
one decides, and a trait of the host may be missed.
-/
namespace InvocationHost
open Text

namespace Symbol

def asMark : List Char := " as ".toList

/-- The symbol of a method of the impl of a trait for a type. -/
def ofImpl (self path method : List Char) : List Char :=
  '<' :: self ++ asMark ++ (path ++ ">::".toList ++ method)

/-- The brackets are balanced, from the given depth on, and ` as ` stands inside brackets only. -/
def isSelfType (depth : Nat) : List Char → Bool
  | [] => depth == 0
  | c :: s =>
    (depth != 0 || !startsWith asMark (c :: s)) &&
      if c = '<' then isSelfType (depth + 1) s
      else if c = '>' then depth != 0 && isSelfType (depth - 1) s
      else isSelfType depth s

/-- A mark behind the text is the first one there. -/
def FirstBehind (mark s : List Char) : Prop := ¬ mark <:+: s ++ mark.dropLast

instance (mark s : List Char) : Decidable (FirstBehind mark s) := inferInstanceAs (Decidable (¬ _))

variable {mark s t self path method before rest front back : List Char} {boundaries : List String}

theorem FirstBehind.of_suffix (h : FirstBehind mark s) (ht : t <:+ s) : FirstBehind mark t := by
  intro hin
  obtain ⟨u,rfl⟩ := ht
  refine h (hin.trans ⟨u,[],?_⟩)
  simp

theorem cutFirst_of_firstBehind (h : FirstBehind mark s) (hne : mark ≠ []) (t : List Char) :
    cutFirst mark (s ++ mark ++ t) = some (s,t) := by
  obtain ⟨m,ms,rfl⟩ := List.exists_cons_of_ne_nil hne
  induction s with
  | nil => rw [List.nil_append, List.cons_append, cutFirst, ← List.cons_append, after?_append]
  | cons c s ih =>
    have hnone : after? (m :: ms) (c :: (s ++ m :: ms ++ t)) = none := by
      rw [Option.eq_none_iff_forall_ne_some]
      intro rest hrest
      -- a mark this early would end before the last character of the one behind the text
      have hhere : m :: ms <+: c :: (s ++ m :: ms ++ t) := ⟨rest,(after?_eq_some_iff.mp hrest).symm⟩
      have hfront : c :: s ++ (m :: ms).dropLast <+: c :: (s ++ m :: ms ++ t) := by
        refine ⟨[(m :: ms).getLast hne] ++ t,?_⟩
        rw [← List.append_assoc, List.append_assoc (c :: s), List.dropLast_append_getLast]
        rfl
      exact h (List.prefix_of_prefix_length_le hhere hfront (by simp)).isInfix
    rw [List.cons_append, List.cons_append, cutFirst, hnone, ih (h.of_suffix (List.suffix_cons c s))]
    rfl

/-- Where a mark stands before the one behind the text, there is a first one. -/
theorem exists_firstBehind (hne : mark ≠ []) (h : ¬ FirstBehind mark s) :
    ∃ before rest, s ++ mark.dropLast = before ++ mark ++ rest ∧ FirstBehind mark before := by
  obtain ⟨before,rest,heq⟩ : mark <:+: s ++ mark.dropLast := by simpa [FirstBehind] using h
  induction hn : before.length using Nat.strong_induction_on generalizing before rest with
  | _ n ih =>
    by_cases hfirst : FirstBehind mark before
    · exact ⟨before,rest,heq.symm,hfirst⟩
    · obtain ⟨front,back,hfront⟩ : mark <:+: before ++ mark.dropLast := by simpa [FirstBehind] using hfirst
      have hsplit : before ++ mark = before ++ mark.dropLast ++ [mark.getLast hne] := by
        rw [List.append_assoc, List.dropLast_append_getLast]
      have hshorter : front.length < n := by
        have hlen := congrArg List.length hfront
        have hpos := List.length_pos_iff.mpr hne
        simp only [List.length_append, List.length_dropLast] at hlen
        omega
      refine ih front.length hshorter front (back ++ [mark.getLast hne] ++ rest) ?_ rfl
      rw [← heq, hsplit, ← hfront]
      simp only [List.append_assoc]

/-- The first mark comes no later than any other one. -/
theorem FirstBehind.length_le (h : FirstBehind mark before) (heq : before ++ mark ++ rest = front ++ mark ++ back) :
    before.length ≤ front.length := by
  by_contra hlt
  -- a mark further left would stand in the first part and all but the last character of its mark
  have hearly : front ++ mark <+: before ++ mark ++ rest := ⟨back,heq.symm⟩
  have hbefore : before ++ mark.dropLast <+: before ++ mark ++ rest := by
    rw [List.append_assoc, List.prefix_append_right_inj]
    exact (List.dropLast_prefix mark).trans (List.prefix_append mark rest)
  have hin : front ++ mark <+: before ++ mark.dropLast :=
    List.prefix_of_prefix_length_le hearly hbefore (by simp; omega)
  exact h ((List.suffix_append front mark).isInfix.trans hin.isInfix)

theorem FirstBehind.of_cutFirst (hne : mark ≠ []) (h : cutFirst mark s = some (before,rest)) :
    FirstBehind mark before := by
  by_contra hnot
  obtain ⟨front,back,hfront,hfirst⟩ := exists_firstBehind hne hnot
  have hs : s = front ++ mark ++ (back ++ [mark.getLast hne] ++ rest) := by
    calc s = before ++ (mark.dropLast ++ [mark.getLast hne]) ++ rest := by
          rw [List.dropLast_append_getLast, eq_of_cutFirst h]
      _ = front ++ mark ++ (back ++ [mark.getLast hne] ++ rest) := by
          rw [← List.append_assoc before, hfront]
          simp only [List.append_assoc]
  have hcut := cutFirst_of_firstBehind hfirst hne (back ++ [mark.getLast hne] ++ rest)
  rw [← hs, h] at hcut
  obtain ⟨rfl,-⟩ : before = front ∧ rest = back ++ [mark.getLast hne] ++ rest := by simpa using hcut
  have hlen := congrArg List.length hfront
  have hpos := List.length_pos_iff.mpr hne
  simp only [List.length_append, List.length_dropLast] at hlen
  omega

theorem dropOpening_append_asMark (s t : List Char) :
    dropOpening (s ++ asMark ++ t) = dropOpening s ++ asMark ++ t := by
  induction s with
  | nil => rfl
  | cons c s ih =>
    by_cases hc : c = '<'
    · subst hc
      exact ih
    · simp [dropOpening, hc]

/-- The first ` as ` has the trait behind it. -/
theorem trait?_of_firstBehind (h : FirstBehind asMark s) (t : List Char) :
    trait? ('<' :: s ++ asMark ++ t) = some (dropOpening t) := by
  have hopen : dropOpening ('<' :: s ++ asMark ++ t) = dropOpening s ++ asMark ++ t :=
    dropOpening_append_asMark ('<' :: s) t
  have hdrop : FirstBehind asMark (dropOpening s) := h.of_suffix (List.dropWhile_suffix _)
  have hcut : cutFirst " as ".toList (dropOpening s ++ asMark ++ t) = some (dropOpening s,t) :=
    cutFirst_of_firstBehind hdrop (by decide) t
  change (cutFirst " as ".toList (dropOpening _)).map _ = _
  rw [hopen, hcut]
  rfl

theorem startsWithAny_append (h : startsWithAny boundaries s = true) (t : List Char) :
    startsWithAny boundaries (s ++ t) = true := by
  obtain ⟨mark,hmark,hs⟩ := List.any_eq_true.mp h
  obtain ⟨rest,rfl⟩ := startsWith_iff.mp hs
  exact List.any_eq_true.mpr ⟨mark,hmark,startsWith_iff.mpr ⟨rest ++ t,by rw [List.append_assoc]⟩⟩

/-- What follows the first ` as ` decides, as long as the type itself is not of one of the starts. -/
theorem belongsTo_iff_of_firstBehind {symbol : String} (h : FirstBehind asMark s)
    (hs : symbol.toList = '<' :: s ++ asMark ++ t) :
    belongsTo boundaries symbol = true ↔
      startsWithAny boundaries (dropOpening symbol.toList) = true ∨
        startsWithAny boundaries (dropOpening t) = true := by
  rw [belongsTo, Bool.or_eq_true, hs, trait?_of_firstBehind h, Option.any_some]

end Symbol

namespace Backtrace
open InvocationHost.Symbol
variable {boundaries : List String} {raw : List RawFrame} {f : RawFrame} {self path method : List Char} {i : Nat}

/-- The own block has ended where a boundary stands. -/
theorem OwnBlock.last_le_of_boundary (b : OwnBlock boundaries raw) (hi : b.first ≤ i) (hf : raw[i]? = some f)
    (hbound : f.isBoundary boundaries = true) : b.last ≤ i := by
  refine b.last_le.trans ?_
  obtain hstop | ⟨hnone,-⟩ := b.stops
  · exact hstop.le_of_holds hi hf hbound
  · have hnot := hnone i f hi hf
    simp [hbound] at hnot

/-- **Methods of the host's trait impls end the report** where the trait is found. If no ` as ` stands in the self
type, the frame is a boundary. If one does, the frame is a boundary only if the type or what follows its first
` as ` is of the host, whatever the trait. From a frame on that is a boundary no frame is reported. -/
theorem host_impl_ends_report (hf : f.symbol.toList = ofImpl self path method)
    (hhost : startsWithAny boundaries path = true) (hpath : path.head? ≠ some '<') :
    (FirstBehind asMark self → f.isBoundary boundaries = true) ∧
    (¬ FirstBehind asMark self → ∃ before rest,
      self ++ " as".toList = before ++ asMark ++ rest ∧ FirstBehind asMark before ∧
      (f.isBoundary boundaries = true ↔
        startsWithAny boundaries (dropOpening f.symbol.toList) = true ∨
          startsWithAny boundaries (dropOpening (rest ++ ' ' :: (path ++ ">::".toList ++ method))) = true)) ∧
    (f.isBoundary boundaries = true → ∀ (rendered : String) (i : Nat), (readFrames rendered)[i]? = some f →
      ∀ b : OwnBlock boundaries (readFrames rendered), b.first ≤ i → b.last ≤ i ∧
        userFrames boundaries rendered =
          (((readFrames rendered).extract b.first b.last).take 32).map RawFrame.report) := by
  refine ⟨fun hplain => ?_,fun hnested => ?_,fun hbound rendered i hi b hfirst =>
    ⟨b.last_le_of_boundary hfirst hi hbound,b.reportedAs.image⟩⟩
  · have hbare : dropOpening (path ++ ">::".toList ++ method) = path ++ (">::".toList ++ method) := by
      cases path with
      | nil => rfl
      | cons c path =>
        have hc : c ≠ '<' := by simpa using hpath
        simp [dropOpening, hc]
    rw [RawFrame.isBoundary, belongsTo_iff_of_firstBehind hplain hf, hbare]
    exact .inr (startsWithAny_append hhost _)
  · obtain ⟨before,rest,heq,hbefore⟩ := exists_firstBehind (by decide) hnested
    have hself : self ++ asMark = before ++ asMark ++ (rest ++ [' ']) := by
      rw [← List.append_assoc, ← heq, List.append_assoc]
      rfl
    refine ⟨before,rest,heq,hbefore,belongsTo_iff_of_firstBehind hbefore ?_⟩
    rw [hf, ofImpl, List.cons_append, hself]
    simp

/-- The method of an impl for a type parameter. -/
theorem host_impl_ends_report_of_parameter :
    let f : RawFrame := ⟨"<F as ferrule_engine::handler::Handler<I,O>>::call",none,0⟩
    f.symbol.toList = ofImpl "F".toList "ferrule_engine::handler::Handler<I,O>".toList "call".toList ∧
    FirstBehind asMark "F".toList ∧ f.isBoundary ["ferrule_engine::"] = true := by
  intro f
  have hf : f.symbol.toList =
      ofImpl "F".toList "ferrule_engine::handler::Handler<I,O>".toList "call".toList := by decide
  have hplain : FirstBehind asMark "F".toList := by decide
  exact ⟨hf,hplain,(host_impl_ends_report hf (by decide) (by decide)).1 hplain⟩

/-- For an associated type ` as ` stands in the self type, and the trait of the host behind it is missed: the method
is reported, and so is the frame behind it. -/
theorem host_impl_of_associated_type_is_reported :
    let self := "<demo::A as demo::B>::C".toList
    let path := "ferrule_engine::handler::Handler<I,O>".toList
    let f : RawFrame := ⟨"<<demo::A as demo::B>::C as ferrule_engine::handler::Handler<I,O>>::call",none,0⟩
    let rendered := "   0: core::panicking::panic_fmt\n   1: demo::explode\n             at ./src/main.rs:9:5\n" ++
      "   2: <<demo::A as demo::B>::C as ferrule_engine::handler::Handler<I,O>>::call\n   3: demo::outer\n"
    isSelfType 0 self = true ∧ startsWithAny ["ferrule_engine::"] path = true ∧
    f.symbol.toList = ofImpl self path "call".toList ∧ (readFrames rendered)[2]? = some f ∧
    f.isBoundary ["ferrule_engine::"] = false ∧
    userFrames ["ferrule_engine::"] rendered = [⟨"src/main.rs",9,"explode"⟩,f.report,⟨"",0,"outer"⟩] := by
  intro self path f rendered
  have hread : readFrames rendered =
      [⟨"core::panicking::panic_fmt",none,0⟩,⟨"demo::explode",some "./src/main.rs",9⟩,f,⟨"demo::outer",none,0⟩] := by
    decide +kernel
  refine ⟨by decide +kernel,by decide +kernel,by decide +kernel,by rw [hread]; rfl,by decide +kernel,?_⟩
  rw [userFrames, hread]
  decide +kernel

end Backtrace
end InvocationHost
