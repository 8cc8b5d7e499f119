import InvocationHost.Text.Numeral

/-! # Which texts are numerals

Reading a numeral accepts exactly a sign, which may be missing, and digits whose value lies within the
bounds, and gives that value. A text of digits printed from a number is read as this number.
-/
namespace InvocationHost.Text

/-- A decimal numeral of a number. A minus sign stands only where negative numbers are admitted. -/
inductive Numeral (negative : Prop) : List Char → Int → Prop
  | plain {ds : List Char} : ds ≠ [] → (∀ c ∈ ds, c.isDigit = true) →
      Numeral negative ds (Nat.ofDigitChars 10 ds 0)
  | plus {ds : List Char} : ds ≠ [] → (∀ c ∈ ds, c.isDigit = true) →
      Numeral negative ('+' :: ds) (Nat.ofDigitChars 10 ds 0)
  | minus {ds : List Char} : negative → ds ≠ [] → (∀ c ∈ ds, c.isDigit = true) →
      Numeral negative ('-' :: ds) (-(Nat.ofDigitChars 10 ds 0 : Int))

theorem le_ofDigitChars (s : List Char) (n : Nat) : n ≤ Nat.ofDigitChars 10 s n := by
  induction s generalizing n with
  | nil => simp
  | cons c r ih =>
    rw [Nat.ofDigitChars_cons]
    have hr := ih (10 * n + (c.toNat - '0'.toNat))
    omega

/-- Going on from a number within the limit, reading accepts digits that stay within it. -/
theorem readDigits_eq_ok_iff {limit n m : Nat} {outside : NumeralError} {s : List Char} (hn : n ≤ limit) :
    readDigits limit outside n s = .ok m ↔
      (∀ c ∈ s, c.isDigit = true) ∧ Nat.ofDigitChars 10 s n = m ∧ m ≤ limit := by
  induction s generalizing n with
  | nil =>
    simp only [readDigits, Except.ok.injEq, List.not_mem_nil, false_imp_iff, implies_true, true_and,
      Nat.ofDigitChars_nil]
    constructor
    · rintro rfl
      exact ⟨rfl,hn⟩
    · rintro ⟨rfl,-⟩
      rfl
  | cons c r ih =>
    rw [Nat.ofDigitChars_cons]
    by_cases hc : c.isDigit = true
    · have hd : digit? c = some (c.toNat - '0'.toNat) := by simp [digit?, hc]
      simp only [readDigits, hd]
      by_cases hle : 10 * n + (c.toNat - '0'.toNat) ≤ limit
      · rw [if_pos hle, ih hle]
        simp [hc]
      · rw [if_neg hle]
        have hlarge := le_ofDigitChars r (10 * n + (c.toNat - '0'.toNat))
        constructor
        · intro h
          cases h
        · rintro ⟨-,rfl,hm⟩
          omega
    · have hd : digit? c = none := by simp [digit?, hc]
      simp [readDigits, hd, hc]

/-- The value of digits alone, whatever the limit. -/
theorem map_readDigits_eq_ok_iff {limit : Nat} {outside : NumeralError} {s : List Char} {f : Nat → Int}
    {k : Int} : (readDigits limit outside 0 s).map f = .ok k ↔
      (∀ c ∈ s, c.isDigit = true) ∧ f (Nat.ofDigitChars 10 s 0) = k ∧ Nat.ofDigitChars 10 s 0 ≤ limit := by
  have hread : ∀ m, readDigits limit outside 0 s = .ok m ↔
      (∀ c ∈ s, c.isDigit = true) ∧ Nat.ofDigitChars 10 s 0 = m ∧ m ≤ limit :=
    fun m => readDigits_eq_ok_iff (Nat.zero_le limit)
  cases h : readDigits limit outside 0 s with
  | error e =>
    have hnot : ¬ ((∀ c ∈ s, c.isDigit = true) ∧ Nat.ofDigitChars 10 s 0 ≤ limit) := by
      rintro ⟨hs,hle⟩
      have hok := (hread _).mpr ⟨hs,rfl,hle⟩
      rw [h] at hok
      cases hok
    constructor
    · intro hm
      cases hm
    · rintro ⟨hs,-,hle⟩
      exact absurd ⟨hs,hle⟩ hnot
  | ok m =>
    obtain ⟨hs,rfl,hle⟩ := (hread m).mp h
    simp only [Except.map, Except.ok.injEq]
    exact ⟨fun hk => ⟨hs,hk,hle⟩,fun hk => hk.2.1⟩

section Signs
variable {negative : Prop} {c : Char} {r : List Char} {n : Int}

theorem numeral_plus_iff : Numeral negative ('+' :: r) n ↔
    r ≠ [] ∧ (∀ c ∈ r, c.isDigit = true) ∧ (Nat.ofDigitChars 10 r 0 : Int) = n := by
  constructor
  · intro h
    cases h with
    | plain _ hds => exact absurd (hds '+' List.mem_cons_self) (by decide)
    | plus hne hds => exact ⟨hne,hds,rfl⟩
  · rintro ⟨hne,hds,rfl⟩
    exact .plus hne hds

theorem numeral_minus_iff : Numeral negative ('-' :: r) n ↔
    negative ∧ r ≠ [] ∧ (∀ c ∈ r, c.isDigit = true) ∧ -(Nat.ofDigitChars 10 r 0 : Int) = n := by
  constructor
  · intro h
    cases h with
    | plain _ hds => exact absurd (hds '-' List.mem_cons_self) (by decide)
    | minus hneg hne hds => exact ⟨hneg,hne,hds,rfl⟩
  · rintro ⟨hneg,hne,hds,rfl⟩
    exact .minus hneg hne hds

theorem numeral_plain_iff (hplus : c ≠ '+') (hminus : c ≠ '-') : Numeral negative (c :: r) n ↔
    (∀ d ∈ c :: r, d.isDigit = true) ∧ (Nat.ofDigitChars 10 (c :: r) 0 : Int) = n := by
  constructor
  · intro h
    cases h with
    | plain _ hds => exact ⟨hds,rfl⟩
    | plus => exact absurd rfl hplus
    | minus => exact absurd rfl hminus
  · rintro ⟨hds,rfl⟩
    exact .plain (by simp) hds

variable {least greatest : Int}

theorem readInt_plus (hr : r ≠ []) :
    readInt least greatest ('+' :: r) = (readDigits greatest.toNat .tooLarge 0 r).map Int.ofNat := by
  obtain ⟨d,r,rfl⟩ := List.exists_cons_of_ne_nil hr
  rfl

theorem readInt_minus (hr : r ≠ []) : readInt least greatest ('-' :: r) = if least < 0 then
    (readDigits least.natAbs .tooSmall 0 r).map (fun m : Nat => -(m : Int)) else .error .invalidDigit := by
  obtain ⟨d,r,rfl⟩ := List.exists_cons_of_ne_nil hr
  simp only [readInt]
  cases readDigits least.natAbs .tooSmall 0 (d :: r) <;> rfl

theorem readInt_plain (hplus : c ≠ '+') (hminus : c ≠ '-') :
    readInt least greatest (c :: r) = (readDigits greatest.toNat .tooLarge 0 (c :: r)).map Int.ofNat := by
  unfold readInt
  split <;> simp_all

end Signs

/-- **Reading accepts exactly the numerals of the numbers within the bounds.** -/
theorem readInt_eq_ok_iff {least greatest n : Int} {s : List Char} (hl : least ≤ 0) (hg : 0 ≤ greatest) :
    readInt least greatest s = .ok n ↔ Numeral (least < 0) s n ∧ least ≤ n ∧ n ≤ greatest := by
  rcases s with _ | ⟨c,r⟩
  · have hnil : ¬ Numeral (least < 0) [] n := by
      rintro ⟨hne,-⟩
      exact hne rfl
    simp [readInt, hnil]
  by_cases hplus : c = '+'
  · subst hplus
    rw [numeral_plus_iff]
    cases r with
    | nil => simp [readInt]
    | cons d r =>
      simp only [readInt_plus (List.cons_ne_nil d r), map_readDigits_eq_ok_iff, Int.ofNat_eq_natCast]
      constructor
      · rintro ⟨hds,rfl,hle⟩
        exact ⟨⟨by simp,hds,rfl⟩,by omega,by omega⟩
      · rintro ⟨⟨-,hds,rfl⟩,-,hle⟩
        exact ⟨hds,rfl,by omega⟩
  by_cases hminus : c = '-'
  · subst hminus
    rw [numeral_minus_iff]
    cases r with
    | nil => simp [readInt]
    | cons d r =>
      rw [readInt_minus (List.cons_ne_nil d r)]
      split
      · next hneg =>
        rw [map_readDigits_eq_ok_iff]
        constructor
        · rintro ⟨hds,rfl,hle⟩
          exact ⟨⟨hneg,by simp,hds,rfl⟩,by omega,by omega⟩
        · rintro ⟨⟨-,-,hds,rfl⟩,hle,-⟩
          exact ⟨hds,rfl,by omega⟩
      · next hneg => simp [hneg]
  · rw [numeral_plain_iff hplus hminus]
    rw [readInt_plain hplus hminus, map_readDigits_eq_ok_iff]
    constructor
    · rintro ⟨hds,rfl,hle⟩
      exact ⟨⟨hds,rfl⟩,by simp only [Int.ofNat_eq_natCast]; omega,by simp only [Int.ofNat_eq_natCast]; omega⟩
    · rintro ⟨⟨hds,rfl⟩,-,hle⟩
      exact ⟨hds,rfl,by omega⟩

/-- Digits whose value goes beyond the limit are refused as outside of it. -/
theorem readDigits_eq_outside {limit n : Nat} {outside : NumeralError} {s : List Char} (hn : n ≤ limit)
    (hs : ∀ c ∈ s, c.isDigit = true) (hlarge : limit < Nat.ofDigitChars 10 s n) :
    readDigits limit outside n s = .error outside := by
  induction s generalizing n with
  | nil =>
    rw [Nat.ofDigitChars_nil] at hlarge
    omega
  | cons c r ih =>
    have hd : digit? c = some (c.toNat - '0'.toNat) := by simp [digit?, hs c List.mem_cons_self]
    simp only [readDigits, hd]
    split
    · next hle =>
      rw [Nat.ofDigitChars_cons] at hlarge
      exact ih hle (fun c hc => hs c (List.mem_cons_of_mem _ hc)) hlarge
    · rfl

section Bounds
variable {negative : Prop} {least greatest n m : Int} {s : List Char}

theorem Numeral.value_unique (h : Numeral negative s n) (h' : Numeral negative s m) : n = m := by
  cases h with
  | plain hne hds =>
    cases h' with
    | plain => rfl
    | plus => exact absurd (hds '+' List.mem_cons_self) (by decide)
    | minus => exact absurd (hds '-' List.mem_cons_self) (by decide)
  | plus => exact (numeral_plus_iff.mp h').2.2
  | minus => exact (numeral_minus_iff.mp h').2.2.2

theorem readInt_eq_tooLarge (h : Numeral negative s n) (hg : 0 ≤ greatest) (hn : greatest < n) :
    readInt least greatest s = .error .tooLarge := by
  have hread {ds : List Char} (hds : ∀ c ∈ ds, c.isDigit = true) (hlarge : greatest < Nat.ofDigitChars 10 ds 0) :
      (readDigits greatest.toNat .tooLarge 0 ds).map Int.ofNat = .error .tooLarge := by
    rw [readDigits_eq_outside (Nat.zero_le _) hds (by omega)]
    rfl
  cases h with
  | @plain ds hne hds =>
    obtain ⟨c,r,rfl⟩ := List.exists_cons_of_ne_nil hne
    have hc := hds c List.mem_cons_self
    rw [readInt_plain (by rintro rfl; cases hc) (by rintro rfl; cases hc)]
    exact hread hds hn
  | plus hne hds =>
    rw [readInt_plus hne]
    exact hread hds hn
  | minus => omega

theorem readInt_eq_tooSmall (h : Numeral negative s n) (hl : least < 0) (hn : n < least) :
    readInt least greatest s = .error .tooSmall := by
  cases h with
  | plain | plus => omega
  | minus _ hne hds =>
    rw [readInt_minus hne, if_pos hl, readDigits_eq_outside (Nat.zero_le _) hds (by omega)]
    rfl

end Bounds

theorem readUInt32_eq_ok_iff {s : List Char} {n : UInt32} :
    readUInt32 s = .ok n ↔ Numeral False s n.toNat := by
  have hread : ∀ k, readInt 0 (UInt32.size - 1) s = .ok k ↔
      Numeral False s k ∧ 0 ≤ k ∧ k ≤ UInt32.size - 1 := by
    intro k
    rw [readInt_eq_ok_iff (Int.le_refl 0) (by decide), eq_false (Int.lt_irrefl 0)]
  have hn : (n.toNat : Int) ≤ UInt32.size - 1 := by
    have hlt := n.toNat_lt
    simp only [UInt32.size]
    omega
  unfold readUInt32
  constructor
  · intro h
    cases hk : readInt 0 (UInt32.size - 1) s with
    | error e =>
      rw [hk] at h
      cases h
    | ok k =>
      obtain ⟨hnum,h0,hle⟩ := (hread k).mp hk
      rw [hk] at h
      obtain rfl : UInt32.ofNat k.toNat = n := by simpa [Except.map] using h
      have hlt : k.toNat < UInt32.size := by
        simp only [UInt32.size] at hle ⊢
        omega
      rwa [UInt32.toNat_ofNat_of_lt' hlt, Int.toNat_of_nonneg h0]
  · intro h
    rw [(hread n.toNat).mpr ⟨h,by omega,hn⟩]
    simp [Except.map]

/-- A number reads back from its digits. -/
theorem readUInt32_toDigits (n : UInt32) : readUInt32 (Nat.toDigits 10 n.toNat) = .ok n := by
  rw [readUInt32_eq_ok_iff]
  have hds : ∀ c ∈ Nat.toDigits 10 n.toNat, c.isDigit = true :=
    fun c hc => Nat.isDigit_of_mem_toDigits (by decide) (by decide) hc
  have h : Numeral False (Nat.toDigits 10 n.toNat) (Nat.ofDigitChars 10 (Nat.toDigits 10 n.toNat) 0) :=
    .plain Nat.toDigits_ne_nil hds
  rwa [Nat.ofDigitChars_ten_toDigits] at h

end InvocationHost.Text
