import InvocationHost.Text.Blank
import InvocationHost.Text.Cut

/-! # Lines, marks and margins

Lines that are put together with a mark between them come apart at that mark again, a text is cut at a mark
that stands nowhere else in the part before it or behind it, and the blanks around a text are what trimming
takes away.
-/
namespace InvocationHost.Text
variable {m : Char} {ms s front back : List Char}

theorem pieces_eq_splitOnP (isMark : Char → Bool) (s : List Char) : pieces isMark s = s.splitOnP isMark := by
  induction s with
  | nil => rfl
  | cons c r ih =>
    rw [pieces, List.splitOnP_cons_eq_if_modifyHead, ih]
    split
    · rfl
    · cases h : r.splitOnP isMark with
      | nil => exact absurd h (List.splitOnP_ne_nil isMark r)
      | cons p ps => rfl

/-- Lines without the mark come apart as they were put together. -/
theorem pieces_intercalate {lines : List (List Char)} (h : ∀ l ∈ lines, m ∉ l) (hne : lines ≠ []) :
    pieces (· = m) ([m].intercalate lines) = lines := by
  rw [pieces_eq_splitOnP]
  have hsplit := List.splitOn_intercalate m h hne
  rwa [List.splitOn] at hsplit

theorem pieces_append_cons {isMark : Char → Bool} (hfront : ∀ c ∈ front, isMark c = false) (hm : isMark m = true) :
    pieces isMark (front ++ m :: s) = front :: pieces isMark s := by
  rw [pieces_eq_splitOnP, pieces_eq_splitOnP]
  exact List.splitOnP_append_cons_of_forall_mem hfront m hm s

theorem pieces_of_not {isMark : Char → Bool} (h : ∀ c ∈ s, isMark c = false) : pieces isMark s = [s] := by
  rw [pieces_eq_splitOnP]
  exact List.splitOnP_eq_singleton h

theorem isMark_of_mem_pieces {isMark : Char → Bool} {p : List Char} (hp : p ∈ pieces isMark s) :
    ∀ c ∈ p, isMark c = false := by
  fun_induction pieces isMark s generalizing p with
  | case1 => simp_all
  | case2 c r hc ih =>
    rcases List.mem_cons.mp hp with rfl | hp
    · simp
    · exact ih hp
  | case3 c r hc hnil ih => simp_all
  | case4 c r hc q qs hr ih =>
    rcases List.mem_cons.mp hp with rfl | hp
    · intro d hd
      rcases List.mem_cons.mp hd with rfl | hd
      · simpa using hc
      · exact ih (by simp [hr]) d hd
    · exact ih (by simp [hr, hp])

theorem mem_of_mem_pieces {isMark : Char → Bool} {p : List Char} {c : Char} (hp : p ∈ pieces isMark s) (hc : c ∈ p) :
    c ∈ s := by
  fun_induction pieces isMark s generalizing p with
  | case1 => simp_all
  | case2 d r hd ih =>
    rcases List.mem_cons.mp hp with rfl | hp
    · cases hc
    · exact List.mem_cons_of_mem d (ih hp hc)
  | case3 d r hd hnil ih => simp_all
  | case4 d r hd q qs hr ih =>
    rcases List.mem_cons.mp hp with rfl | hp
    · rcases List.mem_cons.mp hc with rfl | hc
      · exact List.mem_cons_self
      · exact List.mem_cons_of_mem d (ih (by simp [hr]) hc)
    · exact List.mem_cons_of_mem d (ih (by simp [hr, hp]) hc)

theorem intercalate_pieces (m : Char) (s : List Char) : [m].intercalate (pieces (· = m) s) = s := by
  rw [pieces_eq_splitOnP]
  exact List.intercalate_splitOn m

/-- In the form that `takeWhile` and `dropWhile` ask for. -/
theorem all_ne_of_notMem {α : Type} [DecidableEq α] {a : α} {l : List α} (h : a ∉ l) :
    ∀ b ∈ l, decide (b ≠ a) = true := by
  intro b hb
  rw [decide_eq_true_iff]
  rintro rfl
  exact h hb

/-- Scanning ends in front of what stops it, or before. -/
theorem takeWhile_append_cons {p : Char → Bool} {c : Char} (hc : p c = false) (s r : List Char) :
    (s ++ c :: r).takeWhile p = s.takeWhile p := by
  induction s with
  | nil => simp [hc]
  | cons d s ih => simp only [List.cons_append, List.takeWhile_cons, ih]

theorem dropWhile_append_cons {p : Char → Bool} {c : Char} (hc : p c = false) (s r : List Char) :
    (s ++ c :: r).dropWhile p = s.dropWhile p ++ c :: r := by
  induction s with
  | nil => simp [hc]
  | cons d s ih => by_cases hd : p d = true <;> simp [hd, ih]

theorem startsWith_append (mark rest : List Char) : startsWith mark (mark ++ rest) = true :=
  startsWith_iff.mpr ⟨rest,rfl⟩

theorem after?_eq_none_iff : after? ms s = none ↔ startsWith ms s = false := by
  simp [startsWith]

theorem startsWith_cons_of_ne {c : Char} (h : m ≠ c) : startsWith (m :: ms) (c :: s) = false := by
  simp [startsWith, after?, h]

/-- A text is cut at the first mark, and the part before it may hold the mark nowhere. -/
theorem cutFirst_append (h : m ∉ front) :
    cutFirst (m :: ms) (front ++ (m :: ms ++ back)) = some (front,back) := by
  induction front with
  | nil => rw [List.nil_append, List.cons_append, cutFirst, ← List.cons_append, after?_append]
  | cons c r ih =>
    rw [List.mem_cons, not_or] at h
    have hnone : after? (m :: ms) (c :: (r ++ (m :: ms ++ back))) = none :=
      after?_eq_none_iff.mpr (startsWith_cons_of_ne h.1)
    rw [List.cons_append, cutFirst, hnone, ih h.2]
    rfl

/-- A text is split in one way only at a mark that stands in neither front. -/
theorem append_cons_inj {front' back' : List Char} (h : m ∉ front) (h' : m ∉ front')
    (heq : front ++ m :: back = front' ++ m :: back') : front = front' ∧ back = back' := by
  have hcut : cutFirst [m] (front ++ m :: back) = some (front,back) := cutFirst_append h
  have hcut' : cutFirst [m] (front' ++ m :: back') = some (front',back') := cutFirst_append h'
  rw [heq, hcut'] at hcut
  cases hcut
  exact ⟨rfl,rfl⟩

theorem cutLast_eq_none_iff : cutLast [m] s = none ↔ m ∉ s := by
  induction s with
  | nil => simp [cutLast]
  | cons c r ih =>
    cases hr : cutLast [m] r with
    | some p =>
      have hmem : m ∈ r := Decidable.byContradiction fun hnot => by simp [ih.mpr hnot] at hr
      simp [cutLast, hr, hmem]
    | none => simp [cutLast, hr, after?, ih.mp hr]

/-- A text is cut at the last mark: behind it there is none. -/
theorem cutLast_eq_some_iff :
    cutLast [m] s = some (front,back) ↔ s = front ++ m :: back ∧ m ∉ back := by
  constructor
  · intro h
    refine ⟨by simpa using eq_of_cutLast h,?_⟩
    induction s generalizing front with
    | nil => cases h
    | cons c r ih =>
      cases hr : cutLast [m] r with
      | some p =>
        obtain ⟨-,rfl⟩ : c :: p.1 = front ∧ p.2 = back := by simpa [cutLast, hr] using h
        exact ih hr
      | none =>
        obtain ⟨-,-,rfl⟩ : m = c ∧ [] = front ∧ r = back := by simpa [cutLast, hr, after?] using h
        exact cutLast_eq_none_iff.mp hr
  · rintro ⟨rfl,h⟩
    induction front with
    | nil => simp [cutLast, cutLast_eq_none_iff.mpr h, after?]
    | cons c r ih => rw [List.cons_append, cutLast, ih]

/-- What holds no mark can stand before a text without moving the cut. -/
theorem cutLast_append_left (h : m ∉ front) (s : List Char) :
    cutLast (m :: ms) (front ++ s) = (cutLast (m :: ms) s).map fun p => (front ++ p.1,p.2) := by
  induction front with
  | nil => simp
  | cons c r ih =>
    rw [List.mem_cons, not_or] at h
    have hnone : after? (m :: ms) (c :: (r ++ s)) = none :=
      after?_eq_none_iff.mpr (startsWith_cons_of_ne h.1)
    rw [List.cons_append, cutLast, ih h.2, hnone]
    cases cutLast (m :: ms) s <;> rfl

theorem cutLast_of_notMem (h : m ∉ s) : cutLast (m :: ms) s = none := by
  have hcut : cutLast (m :: ms) (s ++ []) = none := cutLast_append_left h []
  rwa [List.append_nil] at hcut

/-- A text is cut at a mark if no other one begins behind its first character. -/
theorem cutLast_append (h : cutLast (m :: ms) (ms ++ back) = none) (front : List Char) :
    cutLast (m :: ms) (front ++ (m :: ms ++ back)) = some (front,back) := by
  induction front with
  | nil =>
    rw [List.nil_append, List.cons_append, cutLast, h, ← List.cons_append, after?_append]
    rfl
  | cons c r ih => rw [List.cons_append, cutLast, ih]

/-- A text holds what stands somewhere in it. -/
theorem holds_iff (mark s : List Char) (hne : mark ≠ []) : holds mark s = true ↔ mark <:+: s := by
  induction s with
  | nil => simp [holds, cutFirst, hne]
  | cons c r ih =>
    rw [List.infix_cons_iff, ← ih, holds, cutFirst]
    cases ha : after? mark (c :: r) with
    | some rest => simp [after?_eq_some_iff.mp ha]
    | none =>
      have hnot : ¬ mark <+: c :: r := by
        rintro ⟨rest,hrest⟩
        cases ha.symm.trans (after?_eq_some_iff.mpr hrest.symm)
      simp [holds, hnot]

section Deciding
variable (p : Char → Prop) [DecidablePred p]

/-- What is said of the characters of a text is decided on these, not on all characters. -/
instance decidableForallMemList (s : List Char) : Decidable (∀ c ∈ s, p c) := List.decidableBAll p s

instance decidableForallMemOption (s : Option Char) : Decidable (∀ c ∈ s, p c) := s.decidableForallMem

end Deciding

theorem isBlank_of_isDigit {c : Char} (h : c.isDigit = true) : isBlank c = false := by
  simp only [Char.isDigit, Bool.and_eq_true, decide_eq_true_eq, ge_iff_le, UInt32.le_iff_toNat_le] at h
  have hlow : 48 ≤ c.toNat := h.1
  have hhigh : c.toNat ≤ 57 := h.2
  rw [Bool.eq_false_iff, ne_eq, isBlank, CodeRanges.has_iff]
  simp only [blanks, List.mem_cons, List.not_mem_nil, or_false, exists_eq_or_imp, exists_eq_left, not_or]
  omega

/-- Trimming takes blanks at both ends and nothing else. -/
theorem exists_margins (s : List Char) :
    ∃ left right, (∀ c ∈ left, isBlank c = true) ∧ (∀ c ∈ right, isBlank c = true) ∧ s = left ++ (trim s ++ right) := by
  have hblank (t : List Char) : ∀ c ∈ t.takeWhile isBlank, isBlank c = true :=
    List.all_eq_true.mp List.all_takeWhile
  refine ⟨s.takeWhile isBlank,((trimStart s).reverse.takeWhile isBlank).reverse,hblank s,fun c hc => ?_,?_⟩
  · exact hblank _ c (List.mem_reverse.mp hc)
  · rw [trim, trimEnd, ← List.reverse_append, List.takeWhile_append_dropWhile, List.reverse_reverse, trimStart,
      List.takeWhile_append_dropWhile]

structure Trimmed (s : List Char) : Prop where
  head : ∀ c ∈ s.head?, isBlank c = false
  last : ∀ c ∈ s.getLast?, isBlank c = false

instance (s : List Char) : Decidable (Trimmed s) :=
  decidable_of_iff ((∀ c ∈ s.head?, isBlank c = false) ∧ ∀ c ∈ s.getLast?, isBlank c = false)
    ⟨fun h => ⟨h.1,h.2⟩,fun h => ⟨h.head,h.last⟩⟩

/-- Trimming at the end takes nothing from a part that ends in no blank, and nothing before it. -/
theorem trimEnd_append (h : ∀ c ∈ s.getLast?, isBlank c = false) (t : List Char) :
    trimEnd (s ++ t) = s ++ trimEnd t := by
  have hkeep : s.reverse.dropWhile isBlank = s.reverse := by
    rw [← List.head?_reverse] at h
    exact trimStart_eq_self h
  rw [trimEnd, trimEnd, List.reverse_append, List.dropWhile_append, hkeep]
  split
  · next hnil =>
    rw [List.isEmpty_iff.mp hnil, List.reverse_reverse, List.reverse_nil, List.append_nil]
  · rw [List.reverse_append, List.reverse_reverse]

theorem trim_indented {indent : List Char} (hi : ∀ c ∈ indent, isBlank c = true)
    (h : ∀ c ∈ s.head?, isBlank c = false) : trim (indent ++ s) = trimEnd s := by
  have hstart : trimStart (indent ++ s) = s := by
    rw [trimStart, List.dropWhile_append_of_pos hi]
    exact trimStart_eq_self h
  rw [trim, hstart]

theorem Trimmed.trimEnd_eq (h : Trimmed s) : trimEnd s = s := by
  have hs := trimEnd_append h.last []
  rwa [List.append_nil, show trimEnd [] = [] from rfl, List.append_nil] at hs

/-- Indentation is all that trimming takes from a line. -/
theorem Trimmed.trim_line {indent : List Char} (h : Trimmed s) (hi : ∀ c ∈ indent, isBlank c = true) :
    trim (indent ++ s) = s := by
  rw [trim_indented hi h.head, h.trimEnd_eq]

theorem Trimmed.trim_eq (h : Trimmed s) : trim s = s := by
  rw [trim, trimStart_eq_self h.head, h.trimEnd_eq]

/-- What stands between blanks is left by trimming. -/
theorem Trimmed.trim_between {left right : List Char} (h : Trimmed s) (hleft : ∀ c ∈ left, isBlank c = true)
    (hright : ∀ c ∈ right, isBlank c = true) : trim (left ++ (s ++ right)) = s := by
  have hend : trimEnd right = [] := by
    have hback : ∀ c ∈ right.reverse, isBlank c = true := fun c hc => hright c (List.mem_reverse.mp hc)
    have hdrop : (right.reverse ++ []).dropWhile isBlank = [] := List.dropWhile_append_of_pos hback
    rw [List.append_nil] at hdrop
    rw [trimEnd, hdrop]
    rfl
  cases s with
  | nil =>
    rw [trim_eq_nil_iff]
    intro c hc
    exact (List.mem_append.mp hc).elim (hleft c) (hright c)
  | cons d t =>
    have hhead : ∀ c ∈ (d :: t ++ right).head?, isBlank c = false := h.head
    rw [trim_indented hleft hhead, trimEnd_append h.last, hend, List.append_nil]

end InvocationHost.Text
