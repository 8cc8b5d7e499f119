import InvocationHost.Json.Tree
import InvocationHost.Json.Value
import InvocationHost.Proofs.Numerals

/-! # The lexemes of a written value

A value is written without blanks, so that its text falls into lexemes of which only a number needs to be told
where it ends. The text of a text is read back whatever characters it holds, that of an integer as long as it
fits 64 bits. All of this holds from every position on.
-/
namespace InvocationHost

namespace Text.Position
variable (p : Position)

/-- Behind these characters. -/
def behind (cs : List Char) : Position := p.pastAll (cs.map .char)

theorem behind_nil : p.behind [] = p := rfl

theorem behind_cons (c : Char) (cs : List Char) : p.behind (c :: cs) = (p.past (.char c)).behind cs := rfl

theorem behind_append (cs ds : List Char) : p.behind (cs ++ ds) = (p.behind cs).behind ds := by
  rw [behind, List.map_append, pastAll, List.foldl_append]
  rfl

/-- The part of a text that these characters are. -/
def span (cs : List Char) : Span := ⟨p,p.behind cs⟩

theorem into_eq_past {c : Char} (hc : c.utf8Size = 1) : p.into (.char c) = p.past (.char c) := by
  simp only [into, past, Glyph.width, hc]

end Text.Position

namespace Json
open Text

/-! ## Texts -/

theorem hexValue?_digitChar : ∀ n < 16, hexValue? (Nat.digitChar n) = some n := by decide

/-- A character stands in a text behind a backslash, or as its number, or as itself. -/
theorem escapeChar_cases (c : Char) :
    (∃ e, Value.escapeChar c = ['\\',e] ∧ e ≠ 'u' ∧ escaped? e = some c) ∨
    (c.toNat < 0x20 ∧ Value.escapeChar c = ['\\','u','0','0'] ++ Value.hexPair c.toNat) ∨
    (c ≠ '"' ∧ c ≠ '\\' ∧ ¬c.toNat < 0x20 ∧ Value.escapeChar c = [c]) := by
  unfold Value.escapeChar
  split
  case h_8 hquote hbackslash _ _ _ _ _ =>
    split
    · next hlt => exact .inr (.inl ⟨hlt,rfl⟩)
    · next hle => exact .inr (.inr ⟨hquote,hbackslash,hle,rfl⟩)
  all_goals exact .inl ⟨_,rfl,by decide,rfl⟩

/-- Inside of a text that starts there, with these characters read so far. -/
def inText (start : Position) (acc : List Char) : Mode := .text { start, chars := acc }

section
variable {here start : Position} {acc : List Char} {rest : List Glyph}

theorem lexFrom_char (here : Position) (mode : Mode) (c : Char) (rest : List Glyph) :
    lexFrom here mode (.char c :: rest) = (mode.step here (.char c) rest).1 ++
      lexFrom (here.past (.char c)) (mode.step here (.char c) rest).2 rest := rfl

theorem lexFrom_escape {e c : Char} (hu : e ≠ 'u') (he : escaped? e = some c) :
    lexFrom here (inText start acc) (.char '\\' :: .char e :: rest) =
      lexFrom (here.behind ['\\',e]) (inText start (c :: acc)) rest := by
  simp [lexFrom_char, inText, Mode.step, Mode.inText, hu, he, TextState.push, Position.behind_cons,
    Position.behind_nil]

theorem lexFrom_plain {c : Char} (hquote : c ≠ '"') (hbackslash : c ≠ '\\') (hle : ¬c.toNat < 0x20) :
    lexFrom here (inText start acc) (.char c :: rest) =
      lexFrom (here.behind [c]) (inText start (c :: acc)) rest := by
  simp [lexFrom_char, inText, Mode.step, Mode.inText, hquote, hbackslash, hle, TextState.push,
    Position.behind_cons, Position.behind_nil]

theorem lexFrom_hex {c : Char} (hlt : c.toNat < 0x20) :
    lexFrom here (inText start acc) ((['\\','u','0','0'] ++ Value.hexPair c.toNat).map .char ++ rest) =
      lexFrom (here.behind (['\\','u','0','0'] ++ Value.hexPair c.toNat)) (inText start (c :: acc)) rest := by
  have hhigh := hexValue?_digitChar (c.toNat / 16) (by omega)
  have hlow := hexValue?_digitChar (c.toNat % 16) (by omega)
  have hzero : hexValue? '0' = some 0 := rfl
  have hunit : 16 * (c.toNat / 16) + c.toNat % 16 = c.toNat := Nat.div_add_mod c.toNat 16
  -- the four digits are there
  have hbytes : ∀ rest : List Glyph, ¬Mode.bytesLeft (.char '0' :: .char '0' ::
      .char (Nat.digitChar (c.toNat / 16)) :: .char (Nat.digitChar (c.toNat % 16)) :: rest) < 4 := by
    intro rest
    have hwide := (Nat.digitChar (c.toNat / 16)).utf8Size_pos
    have hwide' := (Nat.digitChar (c.toNat % 16)).utf8Size_pos
    have hone : '0'.utf8Size = 1 := rfl
    simp only [Mode.bytesLeft, List.take_succ_cons, List.take_zero, List.foldl_cons, List.foldl_nil, Glyph.width,
      hone]
    omega
  have hnotLow : TextState.isLowSurrogate c.toNat = false := by
    simp only [TextState.isLowSurrogate, Bool.and_eq_false_iff, decide_eq_false_iff_not]
    omega
  have hnotHigh : TextState.isHighSurrogate c.toNat = false := by
    simp only [TextState.isHighSurrogate, Bool.and_eq_false_iff, decide_eq_false_iff_not]
    omega
  simp [lexFrom_char, inText, Mode.step, Mode.inText, Value.hexPair, hbytes, hzero, hhigh, hlow, hunit,
    TextState.pushUnit, hnotLow, hnotHigh, Position.behind_cons, Position.behind_nil]

theorem lexFrom_escapeChar (c : Char) :
    lexFrom here (inText start acc) ((Value.escapeChar c).map .char ++ rest) =
      lexFrom (here.behind (Value.escapeChar c)) (inText start (c :: acc)) rest := by
  obtain ⟨e,heq,hu,he⟩ | ⟨hlt,heq⟩ | ⟨hquote,hbackslash,hle,heq⟩ := escapeChar_cases c
  · rw [heq]
    exact lexFrom_escape hu he
  · rw [heq]
    exact lexFrom_hex hlt
  · rw [heq]
    exact lexFrom_plain hquote hbackslash hle

theorem lexFrom_escaped (here start : Position) (acc cs : List Char) (rest : List Glyph) :
    lexFrom here (inText start acc) ((cs.flatMap Value.escapeChar).map .char ++ .char '"' :: rest) =
      ⟨.text (.ok (String.ofList (acc.reverse ++ cs))),
          ⟨start,here.behind (cs.flatMap Value.escapeChar ++ ['"'])⟩⟩ ::
        lexFrom (here.behind (cs.flatMap Value.escapeChar ++ ['"'])) .between rest := by
  induction cs generalizing here acc with
  | nil =>
    have hquote : here.into (.char '"') = here.past (.char '"') := here.into_eq_past (by decide)
    simp [lexFrom_char, inText, Mode.step, Mode.inText, TextState.result, hquote, Position.behind_cons,
      Position.behind_nil]
  | cons c cs ih =>
    rw [List.flatMap_cons, List.map_append, List.append_assoc, lexFrom_escapeChar, ih, List.append_assoc,
      here.behind_append (Value.escapeChar c)]
    simp

/-- A text is read back. -/
theorem lexFrom_renderText (p : Position) (s : String) (rest : List Glyph) :
    lexFrom p .between ((Value.renderText s).map .char ++ rest) =
      ⟨.text (.ok s),p.span (Value.renderText s)⟩ ::
        lexFrom (p.behind (Value.renderText s)) .between rest := by
  have hs := lexFrom_escaped (p.past (.char '"')) p [] s.toList rest
  rw [List.reverse_nil, List.nil_append, String.ofList_toList, ← p.behind_cons] at hs
  rw [Value.renderText, List.cons_append, List.map_cons, List.map_append, List.cons_append, List.append_assoc]
  exact hs

end

/-! ## Integers -/

/-- A number that stands before this has come to its end. -/
def EndsNumber : List Glyph → Prop
  | .char c :: _ => c.isDigit = false ∧ c ≠ '.' ∧ Mode.isExponentMark c = false
  | _ => True

theorem endsNumber_char {c : Char} (h : c.isDigit = false ∧ c ≠ '.' ∧ Mode.isExponentMark c = false)
    (rest : List Glyph) : EndsNumber (.char c :: rest) := h

section
variable {here start : Position} {rest : List Glyph}

theorem lexFrom_endNumber {place : NumberPlace} {t : NumberText} (hplace : place = .zero ∨ place = .whole)
    (hr : EndsNumber rest) : lexFrom here (.number start place t) rest =
      ⟨.number (t.read here),⟨start,here⟩⟩ :: lexFrom here .between rest := by
  rcases rest with _ | ⟨_ | b,rest⟩
  · rcases hplace with rfl | rfl <;> rfl
  · obtain ⟨hdigit,hpoint,hmark⟩ := hr
    rcases hplace with rfl | rfl <;>
      simp [lexFrom_char, Mode.step, Mode.inNumber, hdigit, hpoint, hmark, Mode.endNumber]
  · rcases hplace with rfl | rfl <;> rfl

theorem lexFrom_digits {t : NumberText} {ds : List Char} (hds : ∀ c ∈ ds, c.isDigit = true) :
    lexFrom here (.number start .whole t) (ds.map .char ++ rest) =
      lexFrom (here.behind ds) (.number start .whole { t with whole := t.whole ++ ds }) rest := by
  induction ds generalizing here t with
  | nil => simp [Position.behind_nil]
  | cons c ds ih =>
    obtain ⟨hc,hds⟩ := List.forall_mem_cons.mp hds
    rw [List.map_cons, List.cons_append, lexFrom_char]
    simp only [Mode.step, Mode.inNumber, hc, if_true, List.nil_append]
    rw [ih hds]
    simp [Mode.addWhole, Position.behind_cons]

/-- The digits of a number begin with a zero only if there is no other. -/
theorem toDigits_cases (n : Nat) : (n = 0 ∧ Nat.toDigits 10 n = ['0']) ∨
    ∃ c ds, Nat.toDigits 10 n = c :: ds ∧ c ≠ '0' ∧ ∀ d ∈ c :: ds, d.isDigit = true := by
  by_cases hn : n = 0
  · exact .inl ⟨hn,by rw [hn, Nat.toDigits_zero]⟩
  right
  have hdigits : ∀ c ∈ Nat.toDigits 10 n, c.isDigit = true :=
    fun c hc => Nat.isDigit_of_mem_toDigits (by decide) (by decide) hc
  suffices h : ∃ c ds, Nat.toDigits 10 n = c :: ds ∧ c ≠ '0' by
    obtain ⟨c,ds,heq,hc⟩ := h
    exact ⟨c,ds,heq,hc,heq ▸ hdigits⟩
  clear hdigits
  induction n using Nat.strongRecOn with
  | ind n ih =>
    by_cases hlt : n < 10
    · refine ⟨Nat.digitChar n,[],Nat.toDigits_of_lt_base hlt,?_⟩
      have hne : ∀ m < 10, m ≠ 0 → Nat.digitChar m ≠ '0' := by decide
      exact hne n hlt hn
    · obtain ⟨c,ds,heq,hc⟩ := ih (n / 10) (by omega) (by omega)
      exact ⟨c,_,by rw [Nat.toDigits_of_base_le (by decide) (by omega), heq]; rfl,hc⟩

theorem start_of_isDigit {c : Char} (hdigit : c.isDigit = true) (hc : c ≠ '0') :
    Mode.start here c = ([],.number here .whole ⟨false,[c],none,none⟩) := by
  have hne : ∀ d : Char, d.isDigit = false → c ≠ d := by
    rintro d hd rfl
    simp [hd] at hdigit
  have hspace : Mode.isSpace c = false := by
    simp [Mode.isSpace, hne ' ' rfl, hne '\t' rfl, hne '\n' rfl, hne '\r' rfl]
  unfold Mode.start
  rw [hspace, if_neg Bool.false_ne_true]
  split
  case h_13 => rw [if_pos hdigit]
  case h_12 => exact absurd rfl hc
  all_goals exact absurd hdigit (by decide)

/-- The digits of a number are read up to the end of the number, behind a sign or without one. -/
theorem lexFrom_toDigits (p : Position) (n : Nat) (hr : EndsNumber rest) :
    lexFrom p .between ((Nat.toDigits 10 n).map .char ++ rest) =
      ⟨.number (NumberText.read ⟨false,Nat.toDigits 10 n,none,none⟩ (p.behind (Nat.toDigits 10 n))),
          p.span (Nat.toDigits 10 n)⟩ :: lexFrom (p.behind (Nat.toDigits 10 n)) .between rest ∧
    lexFrom p .between (('-' :: Nat.toDigits 10 n).map .char ++ rest) =
      ⟨.number (NumberText.read ⟨true,Nat.toDigits 10 n,none,none⟩ (p.behind ('-' :: Nat.toDigits 10 n))),
          p.span ('-' :: Nat.toDigits 10 n)⟩ :: lexFrom (p.behind ('-' :: Nat.toDigits 10 n)) .between rest := by
  obtain ⟨-,heq⟩ | ⟨c,ds,heq,hc,hdigits⟩ := toDigits_cases n
  · rw [heq]
    exact ⟨lexFrom_endNumber (.inl rfl) hr,lexFrom_endNumber (.inl rfl) hr⟩
  · obtain ⟨hdigit,hds⟩ := List.forall_mem_cons.mp hdigits
    rw [heq]
    constructor
    · rw [List.map_cons, List.cons_append, lexFrom_char]
      simp only [Mode.step, start_of_isDigit hdigit hc, List.nil_append]
      rw [lexFrom_digits hds, lexFrom_endNumber (.inr rfl) hr]
      rfl
    · have hsign : Mode.step p .between (.char '-') (.char c :: (ds.map .char ++ rest)) =
          ([],.number p .sign ⟨true,[],none,none⟩) := rfl
      rw [List.map_cons, List.map_cons, List.cons_append, List.cons_append, lexFrom_char, hsign, lexFrom_char]
      simp only [Mode.step, Mode.inNumber, hc, hdigit, if_false, if_true, List.nil_append]
      rw [lexFrom_digits hds, lexFrom_endNumber (.inr rfl) hr]
      rfl

end

namespace NumberText
variable {ds : List Char}

theorem absorb_eq (hds : ∀ c ∈ ds, c.isDigit = true) {n : Nat} (hn : Nat.ofDigitChars 10 ds n ≤ greatestWord) :
    absorb n ds = (Nat.ofDigitChars 10 ds n,ds.length) := by
  induction ds generalizing n with
  | nil => rfl
  | cons c ds ih =>
    obtain ⟨hc,hds⟩ := List.forall_mem_cons.mp hds
    have hd : (digit? c).getD 0 = c.toNat - '0'.toNat := by simp [digit?, hc]
    rw [Nat.ofDigitChars_cons] at hn ⊢
    have hle : 10 * n + (c.toNat - '0'.toNat) ≤ greatestWord :=
      Nat.le_trans (le_ofDigitChars ds (10 * n + (c.toNat - '0'.toNat))) hn
    simp only [absorb, hd, if_pos hle, ih hds hn, List.length_cons]

/-- The digits of a number that fits 64 bits are read as this number. -/
theorem absorb_toDigits {n : Nat} (hn : n ≤ greatestWord) :
    absorb 0 (Nat.toDigits 10 n) = (n,(Nat.toDigits 10 n).length) := by
  have hds : ∀ c ∈ Nat.toDigits 10 n, c.isDigit = true :=
    fun c hc => Nat.isDigit_of_mem_toDigits (by decide) (by decide) hc
  have habsorb := absorb_eq hds (n := 0) (by rwa [Nat.ofDigitChars_ten_toDigits])
  rwa [Nat.ofDigitChars_ten_toDigits] at habsorb

theorem read_toDigits {n : Nat} (hn : n ≤ greatestWord) (stop : Position) :
    read ⟨false,Nat.toDigits 10 n,none,none⟩ stop = .ok (.integer n) := by
  simp [read, value?, integer?, isWhole, absorb_toDigits hn]

theorem read_neg_toDigits {n : Nat} (hpos : n ≠ 0) (hn : n ≤ UInt64.size / 2) (stop : Position) :
    read ⟨true,Nat.toDigits 10 n,none,none⟩ stop = .ok (.integer (-(n : Int))) := by
  have hword : n ≤ greatestWord := by
    simp only [greatestWord, UInt64.size] at hn ⊢
    omega
  have hfits : ¬UInt64.size / 2 < n := by omega
  simp [read, value?, integer?, isWhole, absorb_toDigits hword, hpos, hfits]

end NumberText

/-- An integer of 64 bits is read back where its text has an end. -/
theorem lexFrom_integer {n : Int} (hleast : Text.leastInt64 ≤ n) (hgreatest : n ≤ NumberText.greatestWord)
    (p : Position) {rest : List Glyph} (hr : EndsNumber rest) :
    lexFrom p .between (((Number.integer n).render.toList).map .char ++ rest) =
      ⟨.number (.ok (.integer n)),p.span (Number.integer n).render.toList⟩ ::
        lexFrom (p.behind (Number.integer n).render.toList) .between rest := by
  cases n with
  | ofNat n =>
    have hdigits : (Number.integer (.ofNat n)).render.toList = Nat.toDigits 10 n := Nat.toList_repr
    rw [hdigits, (lexFrom_toDigits p n hr).1, NumberText.read_toDigits (Int.ofNat_le.mp hgreatest)]
    rfl
  | negSucc n =>
    have hdigits : (Number.integer (.negSucc n)).render.toList = '-' :: Nat.toDigits 10 (n + 1) := by
      have hrender : (Number.integer (.negSucc n)).render = "-" ++ Nat.repr (n + 1) := rfl
      rw [hrender, String.toList_append, Nat.toList_repr]
      rfl
    have hfits : n + 1 ≤ UInt64.size / 2 := by
      simp only [Text.leastInt64, UInt64.size] at hleast ⊢
      omega
    rw [hdigits, (lexFrom_toDigits p (n + 1) hr).2, NumberText.read_neg_toDigits (Nat.succ_ne_zero n) hfits]
    rfl

end Json
end InvocationHost
