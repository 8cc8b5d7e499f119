import InvocationHost.Proofs.Lines
import InvocationHost.Proofs.TraitImpls

/-! # What a label leaves out

A label is the symbol without the hash behind it and without the crate in front of it. The hash is looked for from
the right, where its mark is the last one, since its digits hold no colon. The crate is looked for from the left, and
its separator is no later than that of any segment. So a hash does not change what is lost in front, and a symbol that
ends in none loses nothing but its crate.
-/
namespace InvocationHost.Symbol
open Text

theorem toList_append_hashMark (front t : String) :
    (front ++ "::h" ++ t).toList = front.toList ++ (hashMark ++ t.toList) := by
  rw [String.toList_append, String.toList_append, List.append_assoc]
  rfl

def hexDigits : List Char := "0123456789abcdefABCDEF".toList

/-- Sixteen hexadecimal digits, with letters of either case. -/
structure Hash where
  digits : String
  length_eq : digits.length = 16 := by decide
  hexadecimal : ∀ c ∈ digits.toList, c ∈ hexDigits := by decide

namespace Hash

/-- The segment that a hash makes at the end of a symbol. -/
def ending (x : Hash) : String := "::h" ++ x.digits

theorem colonless (x : Hash) : ':' ∉ x.digits.toList := fun h => absurd (x.hexadecimal _ h) (by decide)

theorem toList_append_ending (symbol : String) (x : Hash) :
    (symbol ++ x.ending).toList = symbol.toList ++ (hashMark ++ x.digits.toList) := by
  rw [ending, ← String.append_assoc, toList_append_hashMark]

end Hash

def EndsInHash (symbol : String) : Prop := ∃ front, ∃ x : Hash, symbol = front ++ x.ending

variable {d : Char} {s c r : List Char} {symbol front t : String}

/-! ## The hash -/

theorem isHexDigit_iff : isHexDigit d = true ↔ d ∈ hexDigits := by
  have hall : ∀ d ∈ hexDigits, isHexDigit d = true := by decide
  refine ⟨fun h => ?_,hall d⟩
  have hcodes : hexDigits.map Char.toNat = List.range' 48 10 ++ List.range' 97 6 ++ List.range' 65 6 := by decide
  have hcode : d.toNat ∈ hexDigits.map Char.toNat := by
    have hrange : ((48 ≤ d.toNat ∧ d.toNat ≤ 57) ∨ (97 ≤ d.toNat ∧ d.toNat ≤ 102)) ∨
        (65 ≤ d.toNat ∧ d.toNat ≤ 70) := by
      simpa [isHexDigit, Char.isDigit, Char.le_def, UInt32.le_iff_toNat_le] using h
    simp only [hcodes, List.mem_append, List.mem_range'_1]
    omega
  obtain ⟨e,he,hed⟩ := List.mem_map.mp hcode
  rwa [← Char.toNat_inj.mp hed]

theorem isHash_iff : isHash s = true ↔ ∃ x : Hash, x.digits.toList = s := by
  simp only [isHash, Bool.and_eq_true, beq_iff_eq, List.all_eq_true, isHexDigit_iff]
  constructor
  · rintro ⟨hlen,hhex⟩
    exact ⟨⟨String.ofList s,by simpa using hlen,by simpa using hhex⟩,String.toList_ofList⟩
  · rintro ⟨x,rfl⟩
    exact ⟨by rw [String.length_toList, x.length_eq],x.hexadecimal⟩

/-- Without a colon in what follows it, a mark is the last one. -/
theorem cutLast_hashMark (h : ':' ∉ s) (front : List Char) :
    cutLast hashMark (front ++ (hashMark ++ s)) = some (front,s) := by
  -- the mark holds colons itself: another one could begin behind its first character
  have hback : cutLast [':',':','h'] ('h' :: s) = none := cutLast_of_notMem (by simp [h])
  have hmark : cutLast [':',':','h'] (':' :: 'h' :: s) = none := by
    rw [cutLast, hback]
    rfl
  exact cutLast_append hmark front

theorem withoutHash_append (front : List Char) (x : Hash) :
    withoutHash (front ++ (hashMark ++ x.digits.toList)) = front := by
  rw [withoutHash, cutLast_hashMark x.colonless]
  exact if_pos (isHash_iff.mpr ⟨x,rfl⟩)

theorem endsInHash_iff :
    EndsInHash symbol ↔ (cutLast hashMark symbol.toList).any (fun p => isHash p.2) = true := by
  constructor
  · rintro ⟨front,x,rfl⟩
    rw [x.toList_append_ending, cutLast_hashMark x.colonless]
    exact isHash_iff.mpr ⟨x,rfl⟩
  · intro h
    obtain ⟨⟨front,hash⟩,hcut,hhash⟩ := (Option.any_eq_true _ _).mp h
    obtain ⟨x,rfl⟩ := isHash_iff.mp hhash
    refine ⟨String.ofList front,x,String.toList_inj.mp ?_⟩
    rw [x.toList_append_ending, String.toList_ofList, eq_of_cutLast hcut, List.append_assoc]

instance (symbol : String) : Decidable (EndsInHash symbol) := decidable_of_iff _ endsInHash_iff.symm

theorem withoutHash_eq_self (h : ¬EndsInHash symbol) : withoutHash symbol.toList = symbol.toList := by
  rw [endsInHash_iff] at h
  rw [withoutHash]
  cases hcut : cutLast hashMark symbol.toList with
  | none => rfl
  | some p =>
    rw [hcut] at h
    exact if_neg h

/-- A segment that starts with `h` is a hash only if the digits of one are all that follows. -/
theorem endsInHash_segment_iff (h : ':' ∉ t.toList) (front : String) :
    EndsInHash (front ++ "::h" ++ t) ↔ ∃ x : Hash, t = x.digits := by
  rw [endsInHash_iff, toList_append_hashMark, cutLast_hashMark h, Option.any_some, isHash_iff]
  simp only [String.toList_inj, eq_comm]

theorem exists_hash (symbol : String) :
    ∃ hash : String, symbol.toList = withoutHash symbol.toList ++ hash.toList ∧
      (hash = "" ∧ ¬EndsInHash symbol ∨ ∃ x : Hash, hash = x.ending) := by
  by_cases h : EndsInHash symbol
  · obtain ⟨front,x,rfl⟩ := h
    refine ⟨x.ending,?_,.inr ⟨x,rfl⟩⟩
    rw [x.toList_append_ending, withoutHash_append, ← String.toList_append, x.toList_append_ending]
  · refine ⟨"",?_,.inl ⟨rfl,h⟩⟩
    rw [withoutHash_eq_self h]
    simp

/-! ## The crate -/

theorem withoutCrate_of_head (h : s.head? = some '<') : withoutCrate s = s := if_pos (beq_iff_eq.mpr h)

theorem withoutCrate_of_not_infix (h : ¬"::".toList <:+: s) : withoutCrate s = s := by
  have hcut : cutFirst "::".toList s = none := by
    rw [← holds_iff _ _ (by decide), holds] at h
    simpa using h
  rw [withoutCrate, hcut, ite_self]

theorem withoutCrate_append (hc : ':' ∉ c) (hhead : c.head? ≠ some '<') (hr : r ≠ []) :
    withoutCrate (c ++ ("::".toList ++ r)) = r := by
  have hcut : cutFirst "::".toList (c ++ ("::".toList ++ r)) = some (c,r) := cutFirst_append hc
  have hbare : ¬isQualified (c ++ ("::".toList ++ r)) = true := by
    cases c with
    | nil => simp [isQualified]
    | cons d c => simpa [isQualified] using hhead
  rw [withoutCrate, if_neg hbare, hcut]
  cases r with
  | nil => exact absurd rfl hr
  | cons d r => rfl

/-- What is lost in front ends with the first separator. -/
theorem exists_crate (s : List Char) :
    withoutCrate s = s ∨ ∃ c, s = c ++ "::".toList ++ withoutCrate s ∧ FirstBehind "::".toList c := by
  rw [withoutCrate]
  split
  · exact .inl rfl
  · split
    · exact .inl rfl
    · next c rest _ hcut => exact .inr ⟨c,eq_of_cutFirst hcut,.of_cutFirst (by decide) hcut⟩
    · exact .inl rfl

/-- What stands behind any separator is kept. -/
theorem suffix_withoutCrate (front back : List Char) : back <:+ withoutCrate (front ++ "::".toList ++ back) := by
  obtain hself | ⟨c,hs,hfirst⟩ := exists_crate (front ++ "::".toList ++ back)
  · rw [hself]
    exact List.suffix_append _ back
  · -- both are suffixes of the symbol, and the crate is no longer than what stands before the other separator
    have hle : c.length ≤ front.length := hfirst.length_le hs.symm
    have hlen := congrArg List.length hs
    simp only [List.length_append] at hlen
    exact List.suffix_of_suffix_length_le (List.suffix_append _ back) ⟨_,hs.symm⟩ (by omega)

/-! ## The label -/

theorem toList_label (symbol : String) : (label symbol).toList = withoutCrate (withoutHash symbol.toList) :=
  String.toList_ofList

theorem label_append_ending (symbol : String) (x : Hash) :
    label (symbol ++ x.ending) = String.ofList (withoutCrate symbol.toList) := by
  rw [label, x.toList_append_ending, withoutHash_append]

theorem label_of_not_endsInHash (h : ¬EndsInHash symbol) :
    label symbol = String.ofList (withoutCrate symbol.toList) := by
  rw [label, withoutHash_eq_self h]

theorem label_append_ending_of_not (h : ¬EndsInHash symbol) (x : Hash) :
    label (symbol ++ x.ending) = label symbol := by
  rw [label_append_ending, label_of_not_endsInHash h]

theorem label_eq_self (h : ¬EndsInHash symbol)
    (hwhole : symbol.toList.head? = some '<' ∨ ¬"::".toList <:+: symbol.toList) : label symbol = symbol := by
  have hself : withoutCrate symbol.toList = symbol.toList :=
    hwhole.elim withoutCrate_of_head withoutCrate_of_not_infix
  rw [label_of_not_endsInHash h, hself, String.ofList_toList]

theorem label_crate_append {c r : String} (h : ¬EndsInHash (c ++ "::" ++ r)) (hc : ':' ∉ c.toList)
    (hhead : c.toList.head? ≠ some '<') (hr : r ≠ "") : label (c ++ "::" ++ r) = r := by
  have hr' : r.toList ≠ [] := by simpa using hr
  rw [label_of_not_endsInHash h, String.toList_append, String.toList_append, List.append_assoc,
    withoutCrate_append hc hhead hr', String.ofList_toList]

/-- A segment that starts with `h` is kept where the symbol does not end in a hash. -/
theorem exists_label_segment (h : ¬EndsInHash (front ++ "::h" ++ t)) :
    ∃ before, label (front ++ "::h" ++ t) = before ++ "h" ++ t := by
  have htext : (front ++ "::h" ++ t).toList = front.toList ++ "::".toList ++ 'h' :: t.toList := by simp
  obtain ⟨before,hbefore⟩ := suffix_withoutCrate front.toList ('h' :: t.toList)
  refine ⟨String.ofList before,String.toList_inj.mp ?_⟩
  rw [label_of_not_endsInHash h, String.toList_ofList, htext, ← hbefore]
  simp

/-- Together with what it has lost, a label is the symbol again. -/
theorem exists_lost (symbol : String) :
    ∃ crate hash, symbol = crate ++ label symbol ++ hash ∧
      (crate = "" ∨ ∃ c, crate = c ++ "::" ∧ FirstBehind "::".toList c.toList) ∧
      (hash = "" ∧ ¬EndsInHash symbol ∨ ∃ x : Hash, hash = x.ending) := by
  obtain ⟨hash,hhash,hends⟩ := exists_hash symbol
  obtain hself | ⟨c,hcrate,hfirst⟩ := exists_crate (withoutHash symbol.toList)
  · refine ⟨"",hash,String.toList_inj.mp ?_,.inl rfl,hends⟩
    rw [String.empty_append, String.toList_append, toList_label, hself, ← hhash]
  · rw [← String.toList_ofList (l := c)] at hfirst
    refine ⟨String.ofList c ++ "::",hash,String.toList_inj.mp ?_,.inr ⟨_,rfl,hfirst⟩,hends⟩
    rw [String.toList_append, String.toList_append, String.toList_append, String.toList_ofList, toList_label,
      ← hcrate, ← hhash]

/-- **A label loses the hash and the crate, and nothing else.** A symbol is a crate with its separator, the label and a
hash, where the crate and the hash may be missing, and the label does not tell which hash it was. If a symbol ends in
no hash, one that is put behind it changes nothing, and its label is what follows the crate, or the whole symbol, if
that is a qualified path or has no separator. A segment that starts with `h` is kept, unless the digits of a hash are
all that follows. -/
theorem label_loses_hash_and_crate (symbol : String) :
    (∃ crate hash, symbol = crate ++ label symbol ++ hash ∧
      (crate = "" ∨ ∃ c, crate = c ++ "::" ∧ FirstBehind "::".toList c.toList) ∧
      (hash = "" ∧ ¬EndsInHash symbol ∨ ∃ x : Hash, hash = x.ending)) ∧
    (∀ x y : Hash, label (symbol ++ x.ending) = label (symbol ++ y.ending)) ∧
    (¬EndsInHash symbol →
      (∀ x : Hash, label (symbol ++ x.ending) = label symbol) ∧
      (∀ c r : String, symbol = c ++ "::" ++ r → ':' ∉ c.toList → c.toList.head? ≠ some '<' → r ≠ "" →
        label symbol = r) ∧
      (symbol.toList.head? = some '<' ∨ ¬"::".toList <:+: symbol.toList → label symbol = symbol) ∧
      (∀ front t : String, symbol = front ++ "::h" ++ t → ∃ before, label symbol = before ++ "h" ++ t)) ∧
    (∀ front t : String, symbol = front ++ "::h" ++ t → ':' ∉ t.toList → (∀ x : Hash, t ≠ x.digits) →
      ∃ before, label symbol = before ++ "h" ++ t ∧
        ∀ x : Hash, label (symbol ++ x.ending) = before ++ "h" ++ t) := by
  refine ⟨exists_lost symbol,?_,fun h => ⟨label_append_ending_of_not h,?_,label_eq_self h,?_⟩,?_⟩
  · intro x y
    rw [label_append_ending, label_append_ending]
  · rintro c r rfl hc hhead hr
    exact label_crate_append h hc hhead hr
  · rintro front t rfl
    exact exists_label_segment h
  · rintro front t rfl ht hnot
    have h : ¬EndsInHash (front ++ "::h" ++ t) := by
      rw [endsInHash_segment_iff ht]
      rintro ⟨x,hx⟩
      exact hnot x hx
    obtain ⟨before,hbefore⟩ := exists_label_segment h
    exact ⟨before,hbefore,fun x => (label_append_ending_of_not h x).trans hbefore⟩

/-- A segment one digit short of a hash, and the method of an impl, each in front of a hash in capitals. -/
theorem label_loses_hash_and_crate_of_short :
    let symbol := "demo::handler::h0123456789abcde"
    let method := "<demo::Order as core::fmt::Display>::fmt"
    let x : Hash := { digits := "0123456789ABCDEF" }
    ¬EndsInHash symbol ∧ label symbol = "handler::h0123456789abcde" ∧ label (symbol ++ x.ending) = label symbol ∧
      (∀ y : Hash, "0123456789abcde" ≠ y.digits) ∧
      (∃ before, label (symbol ++ x.ending) = before ++ "h" ++ "0123456789abcde") ∧
      ¬EndsInHash method ∧ label (method ++ x.ending) = method := by
  intro symbol method x
  have hsymbol : ¬EndsInHash symbol := by decide
  have hmethod : ¬EndsInHash method := by decide
  have hshort : ∀ y : Hash, "0123456789abcde" ≠ y.digits := by
    intro y hy
    have hlen := y.length_eq
    rw [← hy] at hlen
    exact absurd hlen (by decide)
  obtain ⟨-,-,hplain,hsegment⟩ := label_loses_hash_and_crate symbol
  obtain ⟨-,-,hqualified,-⟩ := label_loses_hash_and_crate method
  obtain ⟨hhash,hcrate,-⟩ := hplain hsymbol
  obtain ⟨hhash',-,hself,-⟩ := hqualified hmethod
  have hlabel : label symbol = "handler::h0123456789abcde" :=
    hcrate "demo" "handler::h0123456789abcde" (by decide) (by decide) (by decide) (by decide)
  obtain ⟨before,-,hbefore⟩ := hsegment "demo::handler" "0123456789abcde" (by decide) (by decide) hshort
  exact ⟨hsymbol,hlabel,hhash x,hshort,⟨before,hbefore x⟩,hmethod,(hhash' x).trans (hself (.inl (by decide)))⟩

end InvocationHost.Symbol
