import InvocationHost.Json.Tree
import InvocationHost.Proofs.Headers

/-! # Texts on the wire

A text is sent as its bytes in UTF-8. Scanning these bytes gives the characters of the text again, so that a
JSON text may be read from the wire as well as from the text itself.
-/
namespace InvocationHost
namespace Text
variable {c : Char} {lead x y z : UInt8} {tail : List UInt8}

theorem tailLength_eq (lead : UInt8) : tailLength lead =
    if lead.toNat < 0x80 then 0 else if lead.toNat < 0xE0 then 1 else if lead.toNat < 0xF0 then 2 else 3 := by
  simp [tailLength, UInt8.lt_iff_toNat_lt]

theorem isContinuation_of_toNat {n : Nat} (hx : x.toNat = n % 64 + 128) : isContinuation x = true := by
  simp only [isContinuation, Bool.and_eq_true, decide_eq_true_eq, UInt8.le_iff_toNat_le, hx]
  simp
  omega

/-- A lead byte and its tail are the bytes of a character. -/
structure Spells (lead : UInt8) (tail : List UInt8) (c : Char) : Prop where
  length : tail.length = tailLength lead
  codePoint : codePoint? lead tail = some c.toNat

namespace Spells

theorem one (hlead : lead.toNat = c.toNat) (hc : c.toNat < 0x80) : Spells lead [] c := by
  have hlength : tailLength lead = 0 := by rw [tailLength_eq, if_pos (by omega)]
  exact ⟨hlength.symm,by simp [codePoint?, hlength, hlead]⟩

theorem two (hlead : lead.toNat = c.toNat / 64 + 192) (hx : x.toNat = c.toNat % 64 + 128)
    (hc : 0x80 ≤ c.toNat) (hc' : c.toNat < 0x800) : Spells lead [x] c := by
  have hlength : tailLength lead = 1 := by rw [tailLength_eq, if_neg (by omega), if_pos (by omega)]
  refine ⟨hlength.symm,?_⟩
  have hshort : (0xC2 : UInt8) ≤ lead := by
    rw [UInt8.le_iff_toNat_le, hlead]
    simp
    omega
  simp [codePoint?, hlength, isContinuation_of_toNat hx, tailBits, hshort, hlead, hx]
  omega

theorem three (hlead : lead.toNat = c.toNat / 4096 + 224) (hx : x.toNat = c.toNat / 64 % 64 + 128)
    (hy : y.toNat = c.toNat % 64 + 128) (hc : 0x800 ≤ c.toNat) (hc' : c.toNat < 0x10000) :
    Spells lead [x,y] c := by
  have hlength : tailLength lead = 2 := by
    rw [tailLength_eq, if_neg (by omega), if_neg (by omega), if_pos (by omega)]
  refine ⟨hlength.symm,?_⟩
  have hvalid : c.toNat < 0xD800 ∨ 0xDFFF < c.toNat ∧ c.toNat < 0x110000 := c.valid
  have hcode : (lead.toNat - 0xE0) * 4096 + tailBits [x,y] = c.toNat := by
    simp only [tailBits, List.foldl_cons, List.foldl_nil]
    omega
  simp [codePoint?, hlength, isContinuation_of_toNat hx, isContinuation_of_toNat hy, hcode]
  omega

theorem four (hlead : lead.toNat = c.toNat / 262144 + 240) (hx : x.toNat = c.toNat / 4096 % 64 + 128)
    (hy : y.toNat = c.toNat / 64 % 64 + 128) (hz : z.toNat = c.toNat % 64 + 128) (hc : 0x10000 ≤ c.toNat) :
    Spells lead [x,y,z] c := by
  have hlength : tailLength lead = 3 := by
    rw [tailLength_eq, if_neg (by omega), if_neg (by omega), if_neg (by omega)]
  refine ⟨hlength.symm,?_⟩
  have hvalid : c.toNat < 0xD800 ∨ 0xDFFF < c.toNat ∧ c.toNat < 0x110000 := c.valid
  have hcode : (lead.toNat - 0xF0) * 262144 + tailBits [x,y,z] = c.toNat := by
    simp only [tailBits, List.foldl_cons, List.foldl_nil]
    omega
  simp [codePoint?, hlength, isContinuation_of_toNat hx, isContinuation_of_toNat hy, isContinuation_of_toNat hz,
    hcode]
  omega

end Spells

theorem exists_spells (c : Char) : ∃ lead tail, String.utf8EncodeChar c = lead :: tail ∧ Spells lead tail c := by
  have hvalid : c.toNat < 0xD800 ∨ 0xDFFF < c.toNat ∧ c.toNat < 0x110000 := c.valid
  have hbyte : ∀ n < 256, (UInt8.ofNat n).toNat = n := fun n hn => by
    rw [UInt8.toNat_ofNat']
    omega
  simp only [String.utf8EncodeChar, show c.val.toNat = c.toNat from rfl]
  split
  · exact ⟨_,_,rfl,.one (hbyte _ (by omega)) (by omega)⟩
  split
  · refine ⟨_,_,rfl,.two ?_ (hbyte _ (by omega)) (by omega) (by omega)⟩
    rw [hbyte _ (by omega)]
    omega
  split
  · refine ⟨_,_,rfl,.three ?_ (hbyte _ (by omega)) (hbyte _ (by omega)) (by omega) (by omega)⟩
    rw [hbyte _ (by omega)]
    omega
  · refine ⟨_,_,rfl,.four ?_ (hbyte _ (by omega)) (hbyte _ (by omega)) (hbyte _ (by omega)) (by omega)⟩
    rw [hbyte _ (by omega)]
    omega

theorem scanFrom_length (tail rest : List UInt8) : scanFrom tail.length (tail ++ rest) = scanFrom 0 rest := by
  induction tail with
  | nil => rfl
  | cons b tail ih => exact ih

theorem Spells.scanFrom_eq (h : Spells lead tail c) (rest : List UInt8) :
    scanFrom 0 (lead :: (tail ++ rest)) = .char c :: scanFrom 0 rest := by
  have htake : (tail ++ rest).take (tailLength lead) = tail := by rw [← h.length, List.take_left]
  rw [scanFrom, htake, h.codePoint]
  simp only [Char.ofNat_toNat, ← h.length, scanFrom_length]

theorem utf8_singleton (c : Char) : utf8 (String.ofList [c]) = String.utf8EncodeChar c := by
  simp only [utf8, String.toUTF8_eq_toByteArray, String.toByteArray_ofList]
  rw [List.utf8Encode_singleton, List.data_toByteArray]

theorem scan_utf8_ofList (cs : List Char) : scan (utf8 (String.ofList cs)) = cs.map .char := by
  induction cs with
  | nil => rfl
  | cons c cs ih =>
    obtain ⟨lead,tail,hbytes,hspells⟩ := exists_spells c
    rw [utf8_ofList_cons, utf8_singleton, hbytes]
    change scanFrom 0 (lead :: (tail ++ _)) = _
    rw [hspells.scanFrom_eq, List.map_cons, ← ih]
    rfl

/-- The bytes of a text are scanned as its characters. -/
theorem scan_utf8 (s : String) : scan (utf8 s) = glyphs s := by
  have hs := scan_utf8_ofList s.toList
  rwa [String.ofList_toList] at hs

end Text

/-- From the wire a text is read as it is. -/
theorem Json.Document.ofBytes_utf8 (s : String) : ofBytes (Text.utf8 s) = ofString s := by
  rw [ofBytes, Text.scan_utf8]
  rfl

end InvocationHost
