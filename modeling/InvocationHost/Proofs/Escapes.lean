import InvocationHost.Http.Target
import InvocationHost.Proofs.Lines
import Mathlib.Data.List.Infix

/-! # Escapes in paths

A segment of a path may be written with escapes: a percent sign and two digits for a character that may not stand
there. Escaping leaves the percent sign itself as it is, so that two texts are escaped to one segment exactly if
they are the same once the escapes in them are undone.
-/
namespace InvocationHost.Http

/-- A segment of a path as it is sent. -/
def escape (s : List Char) : List Char := s.flatMap (percentChar isReservedInPath)

/-- The visible characters that a segment holds only escaped, with their escapes. -/
def escapes : List (Char × List Char) :=
  [(' ',['%','2','0']),('"',['%','2','2']),('<',['%','3','C']),('>',['%','3','E']),('\x60',['%','6','0']),
    ('\x7b',['%','7','B']),('\x7d',['%','7','D'])]

/-- Undoes the escapes of visible characters. -/
def unescape : List Char → List Char
  | c :: a :: b :: s =>
    match escapes.find? (·.2 == [c,a,b]) with
    | some e => e.1 :: unescape s
    | none => c :: unescape (a :: b :: s)
  | s => s

/-- No escape of a visible character stands in the text. -/
def EscapeFree (s : List Char) : Prop := ∀ e ∈ escapes, ¬e.2 <:+: s

/-- No escape stands at the beginning of the text. -/
def StartsPlain (s : List Char) : Prop := ∀ e ∈ escapes, ¬e.2 <+: s

/-- All that needs an escape is visible. -/
def Spelled (s : List Char) : Prop := ∀ c ∈ s, isReservedInPath c = true → ∃ e ∈ escapes, e.1 = c

variable {c : Char} {e : Char × List Char} {s ms : List Char}

theorem Spelled.tail (h : Spelled (c :: s)) : Spelled s := fun d hd => h d (List.mem_cons_of_mem c hd)

theorem escape_cons (c : Char) (s : List Char) : escape (c :: s) = percentChar isReservedInPath c ++ escape s := rfl

theorem percentChar_of_not (h : isReservedInPath c = false) : percentChar isReservedInPath c = [c] := by
  simp [percentChar, h]

theorem percentChar_of_mem_escapes (h : e ∈ escapes) : percentChar isReservedInPath e.1 = e.2 := by
  revert e
  decide +kernel

/-- An escape is a percent sign with two characters behind it, and is sent as it is. -/
theorem exists_digits (h : e ∈ escapes) :
    ∃ a b, e.2 = ['%',a,b] ∧ '%' ∉ [a,b] ∧ ∀ c ∈ e.2, isReservedInPath c = false := by
  have hall : ∀ e ∈ escapes, e.2 = ['%',e.2[1]!,e.2[2]!] ∧ '%' ∉ [e.2[1]!,e.2[2]!] ∧
      ∀ c ∈ e.2, isReservedInPath c = false := by decide
  exact ⟨_,_,hall e h⟩

theorem escape_eq_self (h : ∀ c ∈ s, isReservedInPath c = false) : escape s = s := by
  induction s with
  | nil => rfl
  | cons c s ih =>
    rw [escape_cons, percentChar_of_not (h c List.mem_cons_self), ih fun d hd => h d (List.mem_cons_of_mem c hd)]
    rfl

theorem escape_escaped (h : e ∈ escapes) (s : List Char) : escape (e.2 ++ s) = e.2 ++ escape s := by
  obtain ⟨a,b,-,-,hkept⟩ := exists_digits h
  rw [escape, List.flatMap_append, ← escape, ← escape, escape_eq_self hkept]

theorem unescape_escaped (h : e ∈ escapes) (s : List Char) : unescape (e.2 ++ s) = e.1 :: unescape s := by
  simp only [escapes, List.mem_cons, List.not_mem_nil, or_false] at h
  rcases h with rfl | rfl | rfl | rfl | rfl | rfl | rfl <;> rfl

theorem unescape_cons (h : StartsPlain (c :: s)) : unescape (c :: s) = c :: unescape s := by
  match s, h with
  | [], _ => rfl
  | [d], _ => rfl
  | a :: b :: s, h =>
    have hnone : escapes.find? (·.2 == [c,a,b]) = none := by
      rw [List.find?_eq_none]
      intro e he heq
      exact h e he ⟨s,by rw [eq_of_beq heq]; rfl⟩
    rw [unescape, hnone]

/-- A text is empty, or begins with an escape, or with a character that begins none. -/
theorem escape_cases {motive : List Char → Prop} (nil : motive [])
    (escaped : ∀ e ∈ escapes, ∀ s, motive s → motive (e.2 ++ s))
    (cons : ∀ c s, StartsPlain (c :: s) → motive s → motive (c :: s)) (s : List Char) : motive s := by
  induction h : s.length using Nat.strong_induction_on generalizing s with
  | _ n ih =>
    subst h
    cases s with
    | nil => exact nil
    | cons c s =>
      by_cases hplain : StartsPlain (c :: s)
      · exact cons c s hplain (ih _ (Nat.lt_succ_self _) s rfl)
      · obtain ⟨e,he,rest,hrest⟩ : ∃ e ∈ escapes, e.2 <+: c :: s := by simpa [StartsPlain] using hplain
        obtain ⟨a,b,hab,-⟩ := exists_digits he
        have hshorter : rest.length < (c :: s).length := by
          rw [← hrest, hab, List.length_append, List.length_cons]
          omega
        rw [← hrest]
        exact escaped e he rest (ih _ hshorter rest rfl)

/-- Escaping brings about only percent signs and digits. -/
theorem mem_escape (h : c ∈ escape s) : c ∈ s ∧ isReservedInPath c = false ∨ c ∈ "%0123456789ABCDEF".toList := by
  obtain ⟨d,hd,hc⟩ := List.mem_flatMap.mp h
  rw [percentChar] at hc
  split at hc
  · next hreserved =>
    obtain ⟨b,-,hb⟩ := List.mem_flatMap.mp hc
    have hdigit : ∀ n < 16, (Nat.digitChar n).toUpper ∈ "%0123456789ABCDEF".toList := by decide
    have hlt := b.toNat_lt
    simp only [percentByte, List.mem_cons, List.not_mem_nil, or_false] at hb
    rcases hb with rfl | rfl | rfl
    · exact .inr (by decide)
    · exact .inr (hdigit _ (by omega))
    · exact .inr (hdigit _ (by omega))
  · next hnot =>
    obtain rfl := List.mem_singleton.mp hc
    exact .inl ⟨hd,by simpa using hnot⟩

/-- What escaping leaves at the beginning has stood there before, if it holds no percent sign. -/
theorem prefix_of_prefix_escape (h : Spelled s) (hms : '%' ∉ ms) (hs : ms <+: escape s) : ms <+: s := by
  induction ms generalizing s with
  | nil => exact List.nil_prefix
  | cons m ms ih =>
    rw [List.mem_cons, not_or] at hms
    cases s with
    | nil => exact absurd hs.length_le (by simp [escape])
    | cons c s =>
      rw [escape_cons] at hs
      cases hc : isReservedInPath c with
      | true =>
        obtain ⟨e,he,rfl⟩ := h c List.mem_cons_self hc
        obtain ⟨a,b,hab,-⟩ := exists_digits he
        rw [percentChar_of_mem_escapes he, hab, List.cons_append, List.cons_prefix_cons] at hs
        exact absurd hs.1.symm hms.1
      | false =>
        rw [percentChar_of_not hc, List.singleton_append, List.cons_prefix_cons] at hs
        exact List.cons_prefix_cons.mpr ⟨hs.1,ih h.tail hms.2 hs.2⟩

/-- Before a character that begins no escape, none is brought about by escaping what follows. -/
theorem StartsPlain.escape (h : StartsPlain (c :: s)) (hs : Spelled s) : StartsPlain (c :: Http.escape s) := by
  intro e he hbegins
  obtain ⟨a,b,hab,hdigits,-⟩ := exists_digits he
  rw [hab, List.cons_prefix_cons] at hbegins
  have hrest := prefix_of_prefix_escape hs hdigits hbegins.2
  exact h e he (by rw [hab, List.cons_prefix_cons]; exact ⟨hbegins.1,hrest⟩)

/-- **Escaping makes no escape that undoing does not meet**: what is sent spells what has been there. -/
theorem unescape_escape (h : Spelled s) : unescape (escape s) = unescape s := by
  induction s using escape_cases with
  | nil => rfl
  | escaped e he s ih =>
    rw [escape_escaped he, unescape_escaped he, unescape_escaped he, ih fun c hc => h c (List.mem_append_right _ hc)]
  | cons c s hplain ih =>
    have hs := ih h.tail
    rw [escape_cons, unescape_cons hplain, ← hs]
    cases hc : isReservedInPath c with
    | true =>
      obtain ⟨e,he,rfl⟩ := h c List.mem_cons_self hc
      rw [percentChar_of_mem_escapes he, unescape_escaped he]
    | false => rw [percentChar_of_not hc, List.singleton_append, unescape_cons (hplain.escape h.tail)]

/-- An undone escape is made again. -/
theorem escape_unescape (s : List Char) : escape (unescape s) = escape s := by
  induction s using escape_cases with
  | nil => rfl
  | escaped e he s ih =>
    rw [unescape_escaped he, escape_cons, percentChar_of_mem_escapes he, escape_escaped he, ih]
  | cons c s hplain ih => rw [unescape_cons hplain, escape_cons, escape_cons, ih]

/-- Two texts are sent alike exactly if they are the same once their escapes are undone. -/
theorem escape_eq_escape_iff {t : List Char} (hs : Spelled s) (ht : Spelled t) :
    escape s = escape t ↔ unescape s = unescape t := by
  constructor
  · intro h
    rw [← unescape_escape hs, ← unescape_escape ht, h]
  · intro h
    rw [← escape_unescape s, ← escape_unescape t, h]

theorem mem_unescape (h : c ∈ unescape s) : c ∈ s ∨ ∃ e ∈ escapes, e.1 = c := by
  induction s using escape_cases with
  | nil => exact .inl h
  | escaped e he s ih =>
    rw [unescape_escaped he] at h
    rcases List.mem_cons.mp h with rfl | h
    · exact .inr ⟨e,he,rfl⟩
    · exact (ih h).imp_left (List.mem_append_right _)
  | cons d s hplain ih =>
    rw [unescape_cons hplain] at h
    rcases List.mem_cons.mp h with rfl | h
    · exact .inl List.mem_cons_self
    · exact (ih h).imp_left (List.mem_cons_of_mem d)

theorem length_unescape_le (s : List Char) : (unescape s).length ≤ s.length := by
  induction s using escape_cases with
  | nil => rfl
  | escaped e he s ih =>
    obtain ⟨a,b,hab,-⟩ := exists_digits he
    rw [unescape_escaped he, hab]
    simp only [List.length_cons, List.length_append]
    omega
  | cons c s hplain ih =>
    rw [unescape_cons hplain]
    exact Nat.succ_le_succ ih

/-- There is nothing to undo exactly where no escape stands. -/
theorem unescape_eq_self_iff : unescape s = s ↔ EscapeFree s := by
  induction s using escape_cases with
  | nil =>
    refine iff_of_true rfl fun e he hinfix => ?_
    obtain ⟨a,b,hab,-⟩ := exists_digits he
    exact absurd hinfix.length_le (by simp [hab])
  | escaped e he s ih =>
    obtain ⟨a,b,hab,-⟩ := exists_digits he
    refine iff_of_false (fun heq => ?_) fun hfree => hfree e he (List.prefix_append e.2 s).isInfix
    have hlength := congrArg List.length heq
    have hle := length_unescape_le s
    rw [unescape_escaped he, hab] at hlength
    simp only [List.length_cons, List.length_append] at hlength
    omega
  | cons c s hplain ih =>
    rw [unescape_cons hplain, List.cons_inj_right, ih]
    refine forall₂_congr fun e he => not_congr ?_
    rw [List.infix_cons_iff]
    exact (or_iff_right (hplain e he)).symm

end InvocationHost.Http
