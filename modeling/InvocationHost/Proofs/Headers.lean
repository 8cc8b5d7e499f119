import InvocationHost.Http.Message

/-! # Header values as texts

The first header of a name counts. Its value is read as a text if it is plain throughout: tabs and visible
ASCII. The text that is read is the one whose bytes the value is; a value with any other byte is not read,
even if it is a text in UTF-8.
-/
namespace InvocationHost

namespace Text

/-- The bytes that encode a text in UTF-8. -/
def utf8 (s : String) : List UInt8 := s.toUTF8.data.toList

theorem utf8_inj {s t : String} : utf8 s = utf8 t ↔ s = t := by
  rw [utf8, utf8, Array.toList_inj]
  refine ⟨fun h => ?_,fun h => by rw [h]⟩
  exact String.toByteArray_inj.mp (ByteArray.ext h)

theorem utf8_ofList_cons (c : Char) (cs : List Char) :
    utf8 (String.ofList (c :: cs)) = utf8 (String.ofList [c]) ++ utf8 (String.ofList cs) := by
  simp only [utf8, String.toUTF8_eq_toByteArray, String.toByteArray_ofList]
  rw [List.utf8Encode_cons, ByteArray.toList_data_append]

theorem toNat_ofNat_ascii {b : UInt8} (hb : b < 0x80) : (Char.ofNat b.toNat).val.toNat = b.toNat := by
  have hlt : b.toNat < 128 := UInt8.lt_iff_toNat_lt.mp hb
  have hvalid : b.toNat.isValidChar := .inl (by omega)
  rw [Char.ofNat, dif_pos hvalid]
  rfl

theorem utf8_ofList_ascii {b : UInt8} (hb : b < 0x80) : utf8 (String.ofList [Char.ofNat b.toNat]) = [b] := by
  have hlt : b.toNat < 128 := UInt8.lt_iff_toNat_lt.mp hb
  have hval := toNat_ofNat_ascii hb
  have hsize : (Char.ofNat b.toNat).utf8Size = 1 := by
    rw [Char.utf8Size_eq_one_iff, UInt32.le_iff_toNat_le, hval]
    exact Nat.le_of_lt_succ hlt
  have hbyte : (Char.ofNat b.toNat).val.toUInt8 = b := by
    apply UInt8.toNat_inj.mp
    rw [UInt32.toNat_toUInt8, hval]
    exact Nat.mod_eq_of_lt b.toNat_lt
  simp only [utf8, String.toUTF8_eq_toByteArray, String.toByteArray_ofList]
  rw [List.utf8Encode_singleton, String.utf8EncodeChar_eq_singleton hsize, hbyte, List.data_toByteArray]

/-- Bytes of ASCII are the text that they spell. -/
theorem utf8_ofList_of_ascii {bytes : List UInt8} (h : ∀ b ∈ bytes, b < 0x80) :
    utf8 (String.ofList (bytes.map fun b => Char.ofNat b.toNat)) = bytes := by
  induction bytes with
  | nil => rfl
  | cons b rest ih =>
    rw [List.map_cons, utf8_ofList_cons, utf8_ofList_ascii (h b List.mem_cons_self),
      ih fun c hc => h c (List.mem_cons_of_mem b hc)]
    rfl

end Text

namespace Http
open Text

/-- A tab or a visible character of ASCII. -/
def IsPlain (b : UInt8) : Prop := b = 0x09 ∨ 0x20 ≤ b ∧ b ≤ 0x7E

theorem IsPlain.lt {b : UInt8} (h : IsPlain b) : b < 0x80 := by
  rcases h with rfl | ⟨-,hle⟩
  · decide
  · exact UInt8.lt_of_le_of_lt hle (by decide)

/-- What is read is the text that the value spells, where the value is plain. -/
theorem readable?_eq_some_iff {value : List UInt8} {text : String} :
    readable? value = some text ↔ (∀ b ∈ value, IsPlain b) ∧ utf8 text = value := by
  have hplain : (value.all fun b => b == 0x09 || (0x20 ≤ b && b ≤ 0x7E)) = true ↔ ∀ b ∈ value, IsPlain b := by
    simp [IsPlain]
  by_cases h : ∀ b ∈ value, IsPlain b
  · have hspells := utf8_ofList_of_ascii fun b hb => (h b hb).lt
    rw [readable?, if_pos (hplain.mpr h), Option.some_inj]
    constructor
    · rintro rfl
      exact ⟨h,hspells⟩
    · rintro ⟨-,htext⟩
      exact utf8_inj.mp (hspells.trans htext.symm)
  · rw [readable?, if_neg (mt hplain.mp h)]
    simp [h]

/-- The characters of a text that is read are tabs and the visible ones of ASCII. -/
theorem visible_of_readable? {value : List UInt8} {text : String} (h : readable? value = some text) :
    ∀ c ∈ text.toList, c = '\t' ∨ 0x20 ≤ c.toNat ∧ c.toNat ≤ 0x7E := by
  obtain ⟨hplain,rfl⟩ := readable?_eq_some_iff.mp h
  have hspells := utf8_ofList_of_ascii fun b hb => (hplain b hb).lt
  rw [← utf8_inj.mp hspells, String.toList_ofList]
  intro c hc
  obtain ⟨b,hb,rfl⟩ := List.mem_map.mp hc
  have hnat : (Char.ofNat b.toNat).toNat = b.toNat := toNat_ofNat_ascii (hplain b hb).lt
  rcases hplain b hb with rfl | ⟨hle,hge⟩
  · exact .inl rfl
  · exact .inr (by rw [hnat]; exact ⟨UInt8.le_iff_toNat_le.mp hle,UInt8.le_iff_toNat_le.mp hge⟩)

namespace Reply
variable {r : Reply} {name : String} {value : List UInt8}

/-- The first header of that name has this value. -/
def Carries (r : Reply) (name : String) (value : List UInt8) : Prop :=
  ∃ before key after, r.headers = before ++ (key,value) :: after ∧ sameHeader key name = true ∧
    ∀ h ∈ before, sameHeader h.1 name = false

theorem carries_iff : r.Carries name value ↔
    ∃ key, r.headers.find? (fun h => sameHeader h.1 name) = some (key,value) := by
  simp only [List.find?_eq_some_iff_append, Bool.not_eq_true']
  constructor
  · rintro ⟨before,key,after,hheaders,hkey,hbefore⟩
    exact ⟨key,hkey,before,after,hheaders,hbefore⟩
  · rintro ⟨key,hkey,before,after,hheaders,hbefore⟩
    exact ⟨before,key,after,hheaders,hkey,hbefore⟩

theorem Carries.unique {value' : List UInt8} (h : r.Carries name value) (h' : r.Carries name value') :
    value = value' := by
  obtain ⟨key,hfind⟩ := carries_iff.mp h
  obtain ⟨key',hfind'⟩ := carries_iff.mp h'
  cases hfind.symm.trans hfind'
  rfl

/-- A header is read as a text if the first of its name has the bytes of that text, all of them plain. -/
theorem header?_eq_some_iff {text : String} :
    r.header? name = some text ↔ r.Carries name (utf8 text) ∧ ∀ b ∈ utf8 text, IsPlain b := by
  constructor
  · intro h
    obtain ⟨⟨key,value⟩,hfind,hread⟩ := Option.bind_eq_some_iff.mp h
    obtain ⟨hplain,rfl⟩ := readable?_eq_some_iff.mp hread
    exact ⟨carries_iff.mpr ⟨key,hfind⟩,hplain⟩
  · rintro ⟨hcarries,hplain⟩
    obtain ⟨key,hfind⟩ := carries_iff.mp hcarries
    rw [header?, hfind, Option.bind_some]
    exact readable?_eq_some_iff.mpr ⟨hplain,rfl⟩

/-- The first header of that name can be read, and is this text, which is not empty. -/
def Gives (r : Reply) (name text : String) : Prop :=
  text ≠ "" ∧ r.Carries name (utf8 text) ∧ ∀ b ∈ utf8 text, IsPlain b

theorem Gives.unique {text text' : String} (h : r.Gives name text) (h' : r.Gives name text') : text = text' :=
  utf8_inj.mp (h.2.1.unique h'.2.1)

/-- A plain value that is not empty is the text that it spells. -/
theorem Carries.gives (h : r.Carries name value) (hne : value ≠ []) (hplain : ∀ b ∈ value, IsPlain b) :
    ∃ text, r.Gives name text ∧ utf8 text = value := by
  have hspells := utf8_ofList_of_ascii fun b hb => (hplain b hb).lt
  generalize String.ofList (value.map fun b => Char.ofNat b.toNat) = text at hspells
  subst hspells
  have htext : text ≠ "" := by
    rintro rfl
    exact hne rfl
  exact ⟨text,⟨htext,h,hplain⟩,rfl⟩

theorem filter_header?_eq_some_iff {text : String} :
    (r.header? name).filter (!·.isEmpty) = some text ↔ r.Gives name text := by
  rw [Option.filter_eq_some_iff, header?_eq_some_iff, Gives, and_comm]
  simp

/-- What is made of a header that is needed: something of the text that it gives, or nothing. -/
theorem gives_or_none (r : Reply) (name : String) {β : Type} (make : String → β) :
    (∃ text, r.Gives name text ∧ ((r.header? name).filter (!·.isEmpty)).map make = some (make text)) ∨
      (∀ text, ¬r.Gives name text) ∧ ((r.header? name).filter (!·.isEmpty)).map make = none := by
  cases hread : (r.header? name).filter (!·.isEmpty) with
  | none =>
    refine .inr ⟨fun text hgives => ?_,rfl⟩
    cases hread.symm.trans (filter_header?_eq_some_iff.mpr hgives)
  | some text => exact .inl ⟨text,filter_header?_eq_some_iff.mp hread,rfl⟩

end Reply
end Http
end InvocationHost
