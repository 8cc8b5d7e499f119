import InvocationHost.Backtrace.Parser
import InvocationHost.Proofs.Lines
import InvocationHost.Proofs.Numerals

/-! # The text of a backtrace

A backtrace is printed line by line. A frame has a number and the name of its function, the functions that
were inlined into it follow without a number, and each of them may have a line with its place. Indentation
is free, and blank lines and notes may stand anywhere. Reading such a text gives one frame for each function
named in it, in their order and with their places (`readFrames_text`).
-/
namespace InvocationHost.Backtrace
open Text
variable {σ τ : Type}

abbrev OneLine := {s : List Char // '\n' ∉ s}

abbrev Indent := {s : List Char // ∀ c ∈ s, isBlank c = true ∧ c ≠ '\n'}

def Indent.spaces (n : Nat) : Indent :=
  ⟨List.replicate n ' ',fun _ hc => List.eq_of_mem_replicate hc ▸ by decide⟩

def digits (n : Nat) : List Char := Nat.toDigits 10 n

structure FunctionName where
  text : List Char
  ne_nil : text ≠ [] := by decide
  oneLine : '\n' ∉ text := by decide
  trimmed : Trimmed text := by decide

/-- The text behind the last colon of a path is a number of 32 bits. -/
def EndsInNumber (path : List Char) : Prop :=
  ∃ (front last : List Char) (n : UInt32), path = front ++ ':' :: last ∧ ':' ∉ last ∧
    Numeral False last n.toNat

theorem endsInNumber_iff {path : List Char} :
    EndsInNumber path ↔ ((cutLast [':'] path).bind fun p => (readUInt32 p.2).toOption).isSome := by
  rw [Option.isSome_iff_exists]
  constructor
  · rintro ⟨front,last,n,hpath,hlast,hn⟩
    refine ⟨n,?_⟩
    rw [cutLast_eq_some_iff.mpr ⟨hpath,hlast⟩, Option.bind_some, readUInt32_eq_ok_iff.mpr hn]
    rfl
  · rintro ⟨n,hn⟩
    obtain ⟨⟨front,last⟩,hcut,hread⟩ := Option.bind_eq_some_iff.mp hn
    obtain ⟨hpath,hlast⟩ := cutLast_eq_some_iff.mp hcut
    cases h : readUInt32 last with
    | error e => simp [h, Except.toOption] at hread
    | ok k => exact ⟨front,last,k,hpath,hlast,readUInt32_eq_ok_iff.mp h⟩

instance (path : List Char) : Decidable (EndsInNumber path) := decidable_of_iff _ endsInNumber_iff.symm

/-- A place in the source, with or without a column. Where there is no column, the end of the path must
not look like the line. -/
inductive Location
  | column (path : OneLine) (row col : UInt32)
  | line (path : OneLine) (row : UInt32) (unnumbered : ¬ EndsInNumber path.val)

namespace Location

def path : Location → List Char
  | column path _ _ => path.val
  | line path _ _ => path.val

def row : Location → UInt32
  | column _ row _ => row
  | line _ row _ => row

def text : Location → List Char
  | column path row col => path.val ++ ':' :: (digits row.toNat ++ ':' :: digits col.toNat)
  | line path row _ => path.val ++ ':' :: digits row.toNat

end Location

/-- A line that names no function and no place. -/
inductive Filler
  | blank (indent : Indent)
  | note (indent : Indent) (text : OneLine)

def Filler.line : Filler → List Char
  | blank indent => indent.val
  | note indent text => indent.val ++ ("note:".toList ++ text.val)

/-- A function as it is named in a backtrace, with its place if it has one, and the fillers around that. -/
structure Mention (σ : Type) where
  indent : Indent
  name : σ
  before : List Filler
  place : Option (Indent × Location)
  after : List Filler

structure Numbered (σ : Type) where
  index : Nat
  outer : Mention σ
  inlined : List (Mention σ)

structure Rendering (σ : Type) where
  opening : List Filler
  frames : List (Numbered σ)

def Mention.map (f : σ → τ) (m : Mention σ) : Mention τ := { m with name := f m.name }

def Numbered.map (f : σ → τ) (n : Numbered σ) : Numbered τ :=
  ⟨n.index,n.outer.map f,n.inlined.map (·.map f)⟩

/-- The same backtrace with other names in it. -/
def Rendering.map (f : σ → τ) (r : Rendering σ) : Rendering τ := ⟨r.opening,r.frames.map (·.map f)⟩

namespace Mention
variable (m : Mention σ)

def placeLine (p : Indent × Location) : List Char := p.1.val ++ ("at ".toList ++ p.2.text)

/-- The lines that follow the one with the name. -/
def tail : List (List Char) :=
  m.before.map Filler.line ++ (m.place.map placeLine).toList ++ m.after.map Filler.line

def lines (mark : List Char) (m : Mention FunctionName) : List (List Char) :=
  (m.indent.val ++ (mark ++ m.name.text)) :: m.tail

def frame (m : Mention FunctionName) : RawFrame where
  symbol := String.ofList m.name.text
  file := m.place.map fun p => String.ofList p.2.path
  line := (m.place.map fun p => p.2.row).getD 0

end Mention

namespace Numbered

def mark (n : Numbered σ) : List Char := digits n.index ++ ": ".toList

def lines (n : Numbered FunctionName) : List (List Char) :=
  n.outer.lines n.mark ++ n.inlined.flatMap (·.lines [])

def frames (n : Numbered FunctionName) : List RawFrame := (n.outer :: n.inlined).map Mention.frame

end Numbered

namespace Rendering
variable (r : Rendering FunctionName)

def lines : List (List Char) := r.opening.map Filler.line ++ r.frames.flatMap Numbered.lines

def text : String := String.ofList (['\n'].intercalate r.lines)

def rawFrames : List RawFrame := r.frames.flatMap Numbered.frames

end Rendering

/-- The name of an inlined function that is not taken for a line of another kind. -/
structure FunctionName.Plain (s : FunctionName) : Prop where
  noPlace : startsWith "at ".toList s.text = false
  noNote : startsWith "note:".toList s.text = false
  noNumber : ∀ index rest, s.text = index ++ (": ".toList ++ rest) → index ≠ [] →
    ∃ c ∈ index, c.isDigit = false

/-! ## Places -/

theorem isDigit_of_mem_digits {n : Nat} {c : Char} (h : c ∈ digits n) : c.isDigit = true :=
  Nat.isDigit_of_mem_toDigits (by decide) (by decide) h

theorem digits_ne_nil (n : Nat) : digits n ≠ [] := Nat.toDigits_ne_nil

theorem not_mem_digits {n : Nat} {c : Char} (h : c.isDigit = false) : c ∉ digits n := by
  intro hc
  simp [isDigit_of_mem_digits hc] at h

theorem not_mem_digits_colon (n : Nat) : ':' ∉ digits n := not_mem_digits (by decide)

theorem toOption_readUInt32_digits (n : UInt32) : (readUInt32 (digits n.toNat)).toOption = some n := by
  rw [digits, readUInt32_toDigits]
  rfl

theorem readLocation_text (l : Location) : readLocation l.text = (l.path,l.row) := by
  cases l with
  | column path row col =>
    have houter : cutLast [':'] (Location.column path row col).text =
        some (path.val ++ ':' :: digits row.toNat,digits col.toNat) :=
      cutLast_eq_some_iff.mpr ⟨by simp [Location.text],not_mem_digits_colon _⟩
    have hinner : cutLast [':'] (path.val ++ ':' :: digits row.toNat) = some (path.val,digits row.toNat) :=
      cutLast_eq_some_iff.mpr ⟨rfl,not_mem_digits_colon _⟩
    simp [readLocation, houter, hinner, toOption_readUInt32_digits, Location.path, Location.row]
  | line path row unnumbered =>
    have houter : cutLast [':'] (Location.line path row unnumbered).text =
        some (path.val,digits row.toNat) := cutLast_eq_some_iff.mpr ⟨rfl,not_mem_digits_colon _⟩
    -- a number at the end of the path would be read as the line
    have hinner : ((cutLast [':'] path.val).bind fun p =>
        (readUInt32 p.2).toOption.map fun line => (p.1,line)) = none := by
      rw [endsInNumber_iff, Option.not_isSome_iff_eq_none] at unnumbered
      cases hcut : cutLast [':'] path.val with
      | none => rfl
      | some p => simpa [hcut] using unnumbered
    simp [readLocation, houter, hinner, toOption_readUInt32_digits, Location.path, Location.row]

/-! ## Lines -/

theorem Indent.oneLine (i : Indent) : '\n' ∉ i.val := fun hc => (i.property _ hc).2 rfl

theorem Indent.isBlank (i : Indent) : ∀ c ∈ i.val, Text.isBlank c = true := fun c hc => (i.property c hc).1

theorem getLast?_append_right {front back : List Char} (hb : back ≠ []) :
    (front ++ back).getLast? = back.getLast? := by
  rw [List.getLast?_append, List.getLast?_eq_some_getLast hb, Option.some_or]

/-- The ends of a text are those of its first and of its last part. -/
theorem trimmed_append {front back : List Char} (hf : front ≠ []) (hb : back ≠ [])
    (hhead : ∀ c ∈ front.head?, isBlank c = false) (hlast : ∀ c ∈ back.getLast?, isBlank c = false) :
    Trimmed (front ++ back) := by
  constructor
  · rwa [List.head?_append, List.head?_eq_some_head hf, Option.some_or, ← List.head?_eq_some_head hf]
  · rwa [getLast?_append_right hb]

theorem isBlank_head_digits (n : Nat) : ∀ c ∈ (digits n).head?, isBlank c = false :=
  fun _ hc => isBlank_of_isDigit (isDigit_of_mem_digits (List.mem_of_mem_head? hc))

theorem isBlank_last_digits (n : Nat) : ∀ c ∈ (digits n).getLast?, isBlank c = false :=
  fun _ hc => isBlank_of_isDigit (isDigit_of_mem_digits (List.mem_of_mem_getLast? hc))

theorem Location.text_eq (l : Location) : ∃ front n, l.text = front ++ digits n := by
  cases l with
  | column path row col =>
    exact ⟨path.val ++ ':' :: (digits row.toNat ++ [':']),col.toNat,by simp [text]⟩
  | line path row unnumbered => exact ⟨path.val ++ [':'],row.toNat,by simp [text]⟩

theorem readLine_filler (f : Filler) (frames : List RawFrame) : readLine frames f.line = frames := by
  cases f with
  | blank indent =>
    have htrim : trim indent.val = [] := trim_eq_nil_iff.mpr indent.isBlank
    simp [readLine, Filler.line, htrim]
  | note indent text =>
    have htrim : trim (indent.val ++ ("note:".toList ++ text.val)) = "note:".toList ++ trimEnd text.val := by
      have hhead : ∀ c ∈ ("note:".toList ++ text.val).head?, isBlank c = false := by
        rintro c ⟨⟩
        decide
      rw [trim_indented indent.isBlank hhead, trimEnd_append (by decide)]
    simp only [readLine, Filler.line, htrim, startsWith_append, Bool.or_true, if_true]

/-- What starts with a number starts with no word. -/
theorem not_startsWith_digits {m : Char} (ms : List Char) (hm : m.isDigit = false) (n : Nat)
    (rest : List Char) : startsWith (m :: ms) (digits n ++ rest) = false := by
  obtain ⟨d,ds,hd⟩ := List.exists_cons_of_ne_nil (digits_ne_nil n)
  have hdigit : d.isDigit = true := isDigit_of_mem_digits (n := n) (by simp [hd])
  rw [hd]
  apply startsWith_cons_of_ne
  rintro rfl
  simp [hdigit] at hm

theorem numbered?_digits (n : Nat) (s : FunctionName) :
    numbered? (digits n ++ (": ".toList ++ s.text)) = some s.text := by
  have hcut : cutFirst ": ".toList (digits n ++ (": ".toList ++ s.text)) = some (digits n,s.text) :=
    cutFirst_append (not_mem_digits_colon n)
  have hindex : (!(digits n).isEmpty && (digits n).all Char.isDigit) = true := by
    simp only [Bool.and_eq_true, Bool.not_eq_true', List.isEmpty_eq_false_iff, List.all_eq_true]
    exact ⟨digits_ne_nil n,fun _ hc => isDigit_of_mem_digits hc⟩
  simp only [numbered?, hcut, hindex, if_true, s.trimmed.trim_eq]

/-- What the rule for numbered names asks of a text, seen from its reader. -/
theorem FunctionName.plain_iff {s : FunctionName} : s.Plain ↔ startsWith "at ".toList s.text = false ∧
    startsWith "note:".toList s.text = false ∧ numbered? s.text = none := by
  constructor
  · intro hs
    refine ⟨hs.noPlace,hs.noNote,?_⟩
    unfold numbered?
    split
    · next index rest hcut =>
      rw [if_neg]
      intro hindex
      simp only [Bool.and_eq_true, Bool.not_eq_true', List.isEmpty_eq_false_iff, List.all_eq_true] at hindex
      obtain ⟨c,hc,hnot⟩ := hs.noNumber index rest (by simpa using eq_of_cutFirst hcut) hindex.1
      simp [hindex.2 c hc] at hnot
    · rfl
  · rintro ⟨hplace,hnote,hnone⟩
    refine ⟨hplace,hnote,?_⟩
    intro index rest htext hne
    cases hall : index.all Char.isDigit with
    | false => simpa using hall
    | true =>
      have hcolon : ':' ∉ index := fun hc => absurd (List.all_eq_true.mp hall _ hc) (by decide)
      have hcut : cutFirst ": ".toList s.text = some (index,rest) := htext ▸ cutFirst_append hcolon
      have hindex : (!index.isEmpty && index.all Char.isDigit) = true := by simp [hne, hall]
      simp only [numbered?, hcut, hindex, if_true, reduceCtorEq] at hnone

instance (s : FunctionName) : Decidable s.Plain := decidable_of_iff _ FunctionName.plain_iff.symm

theorem readLine_numbered (i : Indent) (n : Nat) (s : FunctionName) (frames : List RawFrame) :
    readLine frames (i.val ++ (digits n ++ (": ".toList ++ s.text))) =
      { symbol := String.ofList s.text } :: frames := by
  have htrimmed : Trimmed (digits n ++ (": ".toList ++ s.text)) := by
    refine trimmed_append (digits_ne_nil n) (by simp) (isBlank_head_digits n) ?_
    rw [getLast?_append_right s.ne_nil]
    exact s.trimmed.last
  have htrim := htrimmed.trim_line i.isBlank
  have hempty : (digits n ++ (": ".toList ++ s.text)).isEmpty = false := by simp
  have hnote : startsWith "note:".toList (digits n ++ (": ".toList ++ s.text)) = false :=
    not_startsWith_digits _ (by decide) n _
  have hat : after? "at ".toList (digits n ++ (": ".toList ++ s.text)) = none :=
    after?_eq_none_iff.mpr (not_startsWith_digits _ (by decide) n _)
  simp only [readLine, htrim, hempty, hnote, hat, numbered?_digits, Bool.or_self, Bool.false_eq_true,
    if_false]

/-- A line with a plain name adds a frame to those that are there. -/
theorem readLine_inlined (i : Indent) {s : FunctionName} (hs : s.Plain) (frames : List RawFrame) :
    readLine frames (i.val ++ s.text) =
      if frames.isEmpty then [] else { symbol := String.ofList s.text } :: frames := by
  have htrim := s.trimmed.trim_line i.isBlank
  have hempty : s.text.isEmpty = false := by simp [s.ne_nil]
  obtain ⟨hplace,hnote,hnumbered⟩ := FunctionName.plain_iff.mp hs
  have hat : after? "at ".toList s.text = none := after?_eq_none_iff.mpr hplace
  simp only [readLine, htrim, hempty, hnote, hat, hnumbered, Bool.or_self, Bool.false_eq_true, if_false]

/-- A line with a place is that of the frame before it. -/
theorem readLine_place (p : Indent × Location) (f : RawFrame) (hf : f.file = none) (frames : List RawFrame) :
    readLine (f :: frames) (Mention.placeLine p) =
      { f with file := some (String.ofList p.2.path), line := p.2.row } :: frames := by
  obtain ⟨front,n,htext⟩ := p.2.text_eq
  have htrimmed : Trimmed ("at ".toList ++ p.2.text) := by
    rw [htext]
    refine trimmed_append (by decide) (by simp [digits_ne_nil n]) (by decide) ?_
    rw [getLast?_append_right (digits_ne_nil n)]
    exact isBlank_last_digits n
  have htrim := htrimmed.trim_line p.1.isBlank
  have hempty : ("at ".toList ++ p.2.text).isEmpty = false := by simp
  have hnote : startsWith "note:".toList ("at ".toList ++ p.2.text) = false :=
    startsWith_cons_of_ne (by decide)
  have hat : after? "at ".toList ("at ".toList ++ p.2.text) = some p.2.text := after?_append _ _
  have hplace : place f p.2.text = { f with file := some (String.ofList p.2.path), line := p.2.row } := by
    simp [place, hf, readLocation_text]
  simp only [readLine, Mention.placeLine, htrim, hempty, hnote, hat, hplace, Bool.or_self,
    Bool.false_eq_true, if_false]

/-! ## Texts -/

theorem foldl_readLine_fillers (fs : List Filler) (frames : List RawFrame) :
    (fs.map Filler.line).foldl readLine frames = frames := by
  induction fs with
  | nil => rfl
  | cons f fs ih => rw [List.map_cons, List.foldl_cons, readLine_filler, ih]

/-- The lines behind a name give its frame the place. -/
theorem Mention.foldl_readLine_tail (m : Mention FunctionName) (frames : List RawFrame) :
    m.tail.foldl readLine ({ symbol := String.ofList m.name.text } :: frames) = m.frame :: frames := by
  rw [tail, List.foldl_append, List.foldl_append, foldl_readLine_fillers, foldl_readLine_fillers]
  cases hp : m.place with
  | none => simp [frame, hp]
  | some p => simp [frame, hp, readLine_place p]

theorem Numbered.foldl_readLine_lines (n : Numbered FunctionName) (h : ∀ m ∈ n.inlined, m.name.Plain)
    (frames : List RawFrame) : n.lines.foldl readLine frames = n.frames.reverse ++ frames := by
  have houter : (n.outer.lines n.mark).foldl readLine frames = n.outer.frame :: frames := by
    rw [Mention.lines, mark, List.append_assoc, List.foldl_cons, readLine_numbered,
      Mention.foldl_readLine_tail]
  -- behind the first function there always is a frame, so that no inlined one is passed over
  have hinlined : ∀ (ms : List (Mention FunctionName)) (frames : List RawFrame), (∀ m ∈ ms, m.name.Plain) →
      frames ≠ [] → (ms.flatMap (·.lines [])).foldl readLine frames =
        (ms.map Mention.frame).reverse ++ frames := by
    intro ms
    induction ms with
    | nil => intro frames _ _; rfl
    | cons m ms ih =>
      intro frames hplain hne
      have hline : (m.lines []).foldl readLine frames = m.frame :: frames := by
        rw [Mention.lines, List.nil_append, List.foldl_cons, readLine_inlined m.indent (hplain m (by simp)),
          if_neg (by simpa using hne), Mention.foldl_readLine_tail]
      rw [List.flatMap_cons, List.foldl_append, hline, ih _ (fun m hm => hplain m (by simp [hm])) (by simp)]
      simp
  rw [lines, List.foldl_append, houter, hinlined _ _ h (by simp)]
  simp [Numbered.frames]

theorem Filler.oneLine (f : Filler) : '\n' ∉ f.line := by
  cases f with
  | blank indent => exact indent.oneLine
  | note indent text =>
    simp only [line, List.mem_append, not_or]
    exact ⟨indent.oneLine,by decide,text.property⟩

theorem Location.oneLine (l : Location) : '\n' ∉ l.text := by
  have hdigits : ∀ n, '\n' ∉ digits n := fun n => not_mem_digits (by decide)
  cases l with
  | column path row col => simp [text, path.property, hdigits]
  | line path row unnumbered => simp [text, path.property, hdigits]

theorem Mention.oneLine_tail (m : Mention σ) : ∀ l ∈ m.tail, '\n' ∉ l := by
  intro l hl
  simp only [tail, List.mem_append, List.mem_map, Option.mem_toList, Option.map_eq_some_iff] at hl
  obtain (⟨f,-,rfl⟩ | ⟨p,-,rfl⟩) | ⟨f,-,rfl⟩ := hl
  · exact f.oneLine
  · simp only [placeLine, List.mem_append, not_or]
    exact ⟨p.1.oneLine,by decide,p.2.oneLine⟩
  · exact f.oneLine

theorem Mention.oneLine_lines {mark : List Char} (hmark : '\n' ∉ mark) (m : Mention FunctionName) :
    ∀ l ∈ m.lines mark, '\n' ∉ l := by
  intro l hl
  obtain rfl | hl := List.mem_cons.mp hl
  · simp only [List.mem_append, not_or]
    exact ⟨m.indent.oneLine,hmark,m.name.oneLine⟩
  · exact m.oneLine_tail l hl

theorem Numbered.oneLine_lines (n : Numbered FunctionName) : ∀ l ∈ n.lines, '\n' ∉ l := by
  intro l hl
  have hmark : '\n' ∉ n.mark := by
    simp only [mark, List.mem_append, not_or]
    exact ⟨not_mem_digits (by decide),by decide⟩
  obtain hl | hl := List.mem_append.mp hl
  · exact n.outer.oneLine_lines hmark l hl
  · obtain ⟨m,-,hl⟩ := List.mem_flatMap.mp hl
    exact m.oneLine_lines (by simp) l hl

theorem Rendering.oneLine_lines (r : Rendering FunctionName) : ∀ l ∈ r.lines, '\n' ∉ l := by
  intro l hl
  obtain hl | hl := List.mem_append.mp hl
  · obtain ⟨f,-,rfl⟩ := List.mem_map.mp hl
    exact f.oneLine
  · obtain ⟨n,-,hl⟩ := List.mem_flatMap.mp hl
    exact n.oneLine_lines l hl

/-- Reading a text goes through its lines. -/
theorem Rendering.readFrames_text_eq (r : Rendering FunctionName) :
    readFrames r.text = (r.lines.foldl readLine []).reverse := by
  rw [readFrames, text, String.toList_ofList]
  by_cases hne : r.lines = []
  · rw [hne]
    rfl
  · rw [pieces_intercalate r.oneLine_lines hne]

/-- **Reading a backtrace gives back what was printed**, one frame for each function that is named, in
order, under its name and with its place: whatever the numbers, the indentation and the fillers, if only
no inlined name looks like a line of another kind. -/
theorem readFrames_text (r : Rendering FunctionName) (h : ∀ n ∈ r.frames, ∀ m ∈ n.inlined, m.name.Plain) :
    readFrames r.text = r.rawFrames := by
  have hframes : ∀ (ns : List (Numbered FunctionName)) (frames : List RawFrame),
      (∀ n ∈ ns, ∀ m ∈ n.inlined, m.name.Plain) →
      (ns.flatMap Numbered.lines).foldl readLine frames = (ns.flatMap Numbered.frames).reverse ++ frames := by
    intro ns
    induction ns with
    | nil => intro frames _; rfl
    | cons n ns ih =>
      intro frames hplain
      rw [List.flatMap_cons, List.foldl_append, n.foldl_readLine_lines (hplain n (by simp)),
        ih _ fun n hn => hplain n (by simp [hn])]
      simp
  rw [r.readFrames_text_eq, Rendering.lines, List.foldl_append, foldl_readLine_fillers,
    hframes r.frames [] h, List.append_nil, List.reverse_reverse]
  rfl

def Numbered.panicEntry (outer : FunctionName → σ) : Numbered σ where
  index := 0
  outer := { indent := .spaces 3, name := outer { text := "core::panicking::panic_fmt".toList },
             before := [], place := none, after := [] }
  inlined := []

/-- Two frames, with a path that holds colons and blanks, an inlined function without a column, and fillers
in between. -/
def Rendering.sample : Rendering FunctionName where
  opening := [.blank (.spaces 0)]
  frames := [.panicEntry id,
    { index := 1
      outer := { indent := .spaces 3, name := { text := "2: at demo".toList }, before := [],
                 place := some (⟨"\t".toList,by decide⟩,.column ⟨"C:\\my src\\lib.rs:7".toList,by decide⟩ 21 9),
                 after := [] }
      inlined := [
        { indent := .spaces 6, name := { text := "notes::at: home".toList },
          before := [.blank (.spaces 1)],
          place := some (.spaces 0,.line ⟨"a:b".toList,by decide⟩ 4294967295 (by decide)),
          after := [.note (.spaces 0) ⟨" at demo".toList,by decide⟩] }] }]

theorem readFrames_text_sample :
    (∀ n ∈ Rendering.sample.frames, ∀ m ∈ n.inlined, m.name.Plain) ∧
    readFrames Rendering.sample.text =
      [⟨"core::panicking::panic_fmt",none,0⟩,⟨"2: at demo",some "C:\\my src\\lib.rs:7",21⟩,
        ⟨"notes::at: home",some "a:b",4294967295⟩] := by
  have hplain : ∀ n ∈ Rendering.sample.frames, ∀ m ∈ n.inlined, m.name.Plain := by decide
  exact ⟨hplain,(readFrames_text Rendering.sample hplain).trans (by decide)⟩

end InvocationHost.Backtrace
