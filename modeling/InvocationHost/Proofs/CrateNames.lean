import Mathlib.Data.List.Forall2
import InvocationHost.Backtrace.Selection
import InvocationHost.Proofs.Labels
import InvocationHost.Proofs.Rendering

/-! # Reports and the name of the crate

The functions of a crate are named by the crate and a path in it, and a report shows the path. So a report does
not tell what the crate is called, with one exception: a crate called `note`, whose inlined functions look
like notes.
-/
namespace InvocationHost.Backtrace
open Text InvocationHost.Symbol

/-- A word that can stand before a path: an identifier is one. -/
structure CrateName where
  text : List Char
  ne_nil : text ≠ [] := by decide
  word : ∀ c ∈ text, isBlank c = false ∧ c ≠ ':' ∧ c ≠ '<' := by decide

/-- The path of a function in its crate: more than the hash of a symbol, and no part of the separator. -/
structure CratePath where
  text : List Char
  ne_nil : text ≠ [] := by decide
  oneLine : '\n' ∉ text := by decide
  last : ∀ c ∈ text.getLast?, isBlank c = false := by decide
  head : text.head? ≠ some ':' := by decide
  not_hash : ¬ (text.head? = some 'h' ∧ isHash text.tail = true) := by decide

/-- A function of the crate, or one of another origin. -/
inductive Origin
  | own (path : CratePath)
  | other (name : FunctionName)

def CrateName.note : CrateName where
  text := "note".toList

namespace CrateName
variable (c : CrateName) (path : CratePath)

def qualify : List Char := c.text ++ ("::".toList ++ path.text)

theorem not_mem_colon : ':' ∉ c.text := fun h => (c.word _ h).2.1 rfl

theorem not_mem_blank {b : Char} (hb : isBlank b = true) : b ∉ c.text := by
  intro h
  simp [(c.word b h).1] at hb

theorem exists_cons : ∃ d ds, c.text = d :: ds ∧ isBlank d = false ∧ d ≠ '<' := by
  obtain ⟨d,ds,hd⟩ := List.exists_cons_of_ne_nil c.ne_nil
  have hword := c.word d (by simp [hd])
  exact ⟨d,ds,hd,hword.1,hword.2.2⟩

def functionName : FunctionName where
  text := c.qualify path
  ne_nil := by simp [qualify]
  oneLine := by
    simp only [qualify, List.mem_append, not_or]
    exact ⟨c.not_mem_blank (by decide),by decide,path.oneLine⟩
  trimmed := by
    obtain ⟨d,ds,hd,hblank,-⟩ := c.exists_cons
    refine trimmed_append c.ne_nil (by simp) (by simpa [hd] using hblank) ?_
    rw [getLast?_append_right path.ne_nil]
    exact path.last

variable {c path}

/-- The first colon ends the name of the crate. -/
theorem eq_of_qualify_eq {front back : List Char} (h : ':' ∉ front)
    (heq : c.qualify path = front ++ ':' :: back) : c.text = front ∧ ':' :: path.text = back := by
  have hname : cutFirst [':'] (c.qualify path) = some (c.text,':' :: path.text) :=
    cutFirst_append c.not_mem_colon
  have hfront : cutFirst [':'] (c.qualify path) = some (front,back) := heq ▸ cutFirst_append h
  simpa using hname.symm.trans hfront

/-- Only the functions of a crate called `note` look like another kind of line. -/
theorem plain_functionName (h : c.text ≠ CrateName.note.text) : (c.functionName path).Plain := by
  refine ⟨?_,?_,?_⟩
  · -- the blank of the mark would stand in the name, or the colons in the mark
    rw [Bool.eq_false_iff, ne_eq, startsWith_iff]
    rintro ⟨rest,heq⟩
    have hblank : ' ' ∉ c.text := c.not_mem_blank (by decide)
    change c.text ++ ':' :: ':' :: path.text = 'a' :: 't' :: ' ' :: rest at heq
    rcases hc : c.text with _ | ⟨x,_ | ⟨y,_ | ⟨z,r⟩⟩⟩ <;> simp [hc] at heq hblank
    exact hblank.2.2.1 heq.2.2.1.symm
  · rw [Bool.eq_false_iff, ne_eq, startsWith_iff]
    rintro ⟨rest,heq⟩
    have hnote : c.qualify path = "note".toList ++ ':' :: rest := heq
    exact h (eq_of_qualify_eq (by decide) hnote).1
  · intro index rest heq _
    cases hall : index.all Char.isDigit with
    | false => simpa using hall
    | true =>
      have hcolon : ':' ∉ index := fun hc => absurd (List.all_eq_true.mp hall _ hc) (by decide)
      have hrest : c.qualify path = index ++ ':' :: (' ' :: rest) := heq
      have hcolons := (eq_of_qualify_eq hcolon hrest).2
      simp at hcolons

theorem isQualified_append (c : CrateName) (s : List Char) : isQualified (c.text ++ s) = false := by
  obtain ⟨d,ds,hd,-,hne⟩ := c.exists_cons
  simp [isQualified, hd, hne]

theorem withoutCrate_append (c : CrateName) {r : List Char} (hr : r ≠ []) :
    withoutCrate (c.text ++ ("::".toList ++ r)) = r := by
  obtain ⟨d,ds,hd,-,hne⟩ := c.exists_cons
  exact Symbol.withoutCrate_append c.not_mem_colon (by simpa [hd] using hne) hr

/-- The mark of a hash stands behind the separator of crate and path, and something is between them. -/
theorem exists_front (path : CratePath) {front hash : List Char} (hhash : isHash hash = true)
    (h : "::".toList ++ path.text = front ++ hashMark ++ hash) : ∃ r ≠ [], front = "::".toList ++ r := by
  have hhead := path.head
  have hnot := path.not_hash
  change ':' :: ':' :: path.text = front ++ [':',':','h'] ++ hash at h
  rcases front with _ | ⟨x,_ | ⟨y,_ | ⟨z,r⟩⟩⟩
  · have hpath : path.text = 'h' :: hash := by simpa using h
    simp [hpath, hhash] at hnot
  · have hpath : path.text = ':' :: 'h' :: hash := by simpa using (List.cons.inj h).2
    simp [hpath] at hhead
  · have hpath : path.text = ':' :: ':' :: 'h' :: hash := by
      simpa using (List.cons.inj (List.cons.inj h).2).2
    simp [hpath] at hhead
  · obtain ⟨hx,hrest⟩ := List.cons.inj h
    obtain ⟨hy,-⟩ := List.cons.inj hrest
    exact ⟨z :: r,by simp,by simp [← hx, ← hy]⟩

/-- Without its hash a path is still there, and it is the same in every crate. -/
theorem exists_withoutHash (path : CratePath) :
    ∃ r ≠ [], ∀ c : CrateName, withoutHash (c.qualify path) = c.text ++ ("::".toList ++ r) := by
  have hcut : ∀ c : CrateName, cutLast hashMark (c.qualify path) =
      (cutLast hashMark ("::".toList ++ path.text)).map fun p => (c.text ++ p.1,p.2) :=
    fun c => cutLast_append_left c.not_mem_colon _
  cases hp : cutLast hashMark ("::".toList ++ path.text) with
  | none =>
    refine ⟨path.text,path.ne_nil,fun c => ?_⟩
    rw [withoutHash, hcut, hp]
    rfl
  | some p =>
    obtain ⟨front,hash⟩ := p
    by_cases hhash : isHash hash = true
    · obtain ⟨r,hr,rfl⟩ := exists_front path hhash (eq_of_cutLast hp)
      refine ⟨r,hr,fun c => ?_⟩
      rw [withoutHash, hcut, hp]
      simp [hhash]
    · refine ⟨path.text,path.ne_nil,fun c => ?_⟩
      rw [withoutHash, hcut, hp]
      simp [hhash, qualify]

/-- The label of a function does not tell its crate. -/
theorem label_qualify (c d : CrateName) (path : CratePath) :
    label (String.ofList (c.qualify path)) = label (String.ofList (d.qualify path)) := by
  obtain ⟨r,hr,hpath⟩ := exists_withoutHash path
  simp only [label, String.toList_ofList, hpath, withoutCrate_append _ hr]

end CrateName

def Origin.path? : Origin → Option CratePath
  | .own path => some path
  | .other _ => none

/-- The function as it is named where the crate is called `c`. -/
def Origin.under (c : CrateName) : Origin → FunctionName
  | .own path => c.functionName path
  | .other name => name

def Rendering.under (r : Rendering Origin) (c : CrateName) : Rendering FunctionName := r.map (Origin.under c)

/-- A symbol that starts neither like those of the runtime nor like those of the host. -/
structure StandsApart (boundaries : List String) (symbol : List Char) : Prop where
  runtime : startsWithAny RawFrame.runtimeStarts symbol = false
  host : startsWithAny boundaries symbol = false

instance (boundaries : List String) (symbol : List Char) : Decidable (StandsApart boundaries symbol) :=
  decidable_of_iff (startsWithAny RawFrame.runtimeStarts symbol = false ∧ startsWithAny boundaries symbol = false)
    ⟨fun h => ⟨h.1,h.2⟩,fun h => ⟨h.runtime,h.host⟩⟩

/-- Where unwinding starts, there is the runtime. -/
theorem startsWithAny_runtime_of_panicEntry {symbol : List Char}
    (h : startsWithAny RawFrame.panicEntryStarts symbol = true) :
    startsWithAny RawFrame.runtimeStarts symbol = true := by
  simp only [startsWithAny, List.any_eq_true, startsWith_iff] at h ⊢
  obtain ⟨m,hm,rest,rfl⟩ := h
  simp only [RawFrame.panicEntryStarts, List.mem_cons, List.not_mem_nil, or_false] at hm
  obtain rfl | rfl | rfl | rfl := hm
  · exact ⟨"std::",by decide,"panicking::".toList ++ rest,rfl⟩
  · exact ⟨"core::",by decide,"panicking::".toList ++ rest,rfl⟩
  · exact ⟨"rust_begin_unwind",by decide,rest,rfl⟩
  · exact ⟨"__rust",by decide,"c::rust_begin_unwind".toList ++ rest,rfl⟩

section Renaming
variable (boundaries : List String) (c d : CrateName)

/-- Two frames that differ at most in the name of the crate. -/
inductive Alike : RawFrame → RawFrame → Prop
  | same (f : RawFrame) : Alike f f
  | renamed {path : CratePath} (file : Option String) (line : UInt32) :
      StandsApart boundaries (c.qualify path) → StandsApart boundaries (d.qualify path) →
      Alike ⟨String.ofList (c.qualify path),file,line⟩ ⟨String.ofList (d.qualify path),file,line⟩

/-- Two lines that differ at most in the name of the crate, and are read as lines of the same kind. -/
inductive LineAlike : List Char → List Char → Prop
  | same (l : List Char) : LineAlike l l
  | numbered (i : Indent) (n : Nat) {path : CratePath} :
      StandsApart boundaries (c.qualify path) → StandsApart boundaries (d.qualify path) →
      LineAlike (i.val ++ (digits n ++ (": ".toList ++ c.qualify path)))
        (i.val ++ (digits n ++ (": ".toList ++ d.qualify path)))
  | inlined (i : Indent) {path : CratePath} :
      StandsApart boundaries (c.qualify path) → StandsApart boundaries (d.qualify path) →
      c.text ≠ CrateName.note.text → d.text ≠ CrateName.note.text →
      LineAlike (i.val ++ c.qualify path) (i.val ++ d.qualify path)

variable {boundaries c d}

/-! ## What a name decides -/

theorem CrateName.belongsTo_qualify {starts : List String} {path : CratePath}
    (h : startsWithAny starts (c.qualify path) = false) :
    belongsTo starts (String.ofList (c.qualify path)) = false := by
  have hq : isQualified (c.qualify path) = false := c.isQualified_append _
  have hdrop : dropOpening (c.qualify path) = c.qualify path := by
    obtain ⟨x,xs,hx,-,hne⟩ := c.exists_cons
    simp [dropOpening, qualify, hx, hne]
  simp [belongsTo, trait?, hq, hdrop, h]

namespace Alike
variable {f g : RawFrame}

theorem isRuntime_eq (h : Alike boundaries c d f g) : f.isRuntime = g.isRuntime := by
  cases h with
  | same => rfl
  | renamed file line hc hd => simp [RawFrame.isRuntime, hc.runtime, hd.runtime]

theorem isPanicEntry_eq (h : Alike boundaries c d f g) : f.isPanicEntry = g.isPanicEntry := by
  have hnone : ∀ {symbol : List Char}, StandsApart boundaries symbol →
      startsWithAny RawFrame.panicEntryStarts symbol = false := by
    intro symbol hs
    rw [Bool.eq_false_iff]
    intro hentry
    have hruntime := startsWithAny_runtime_of_panicEntry hentry
    simp [hs.runtime] at hruntime
  cases h with
  | same => rfl
  | renamed file line hc hd => simp [RawFrame.isPanicEntry, hnone hc, hnone hd]

theorem isBoundary_eq (h : Alike boundaries c d f g) : f.isBoundary boundaries = g.isBoundary boundaries := by
  cases h with
  | same => rfl
  | renamed file line hc hd =>
    simp only [RawFrame.isBoundary, CrateName.belongsTo_qualify hc.host, CrateName.belongsTo_qualify hd.host]

theorem report_eq (h : Alike boundaries c d f g) : f.report = g.report := by
  cases h with
  | same => rfl
  | renamed file line hc hd => simp only [RawFrame.report, CrateName.label_qualify c d]

theorem place (h : Alike boundaries c d f g) (location : List Char) :
    Alike boundaries c d (Backtrace.place f location) (Backtrace.place g location) := by
  cases h with
  | same => exact .same _
  | renamed file line hc hd =>
    cases file with
    | none => exact .renamed _ _ hc hd
    | some file => exact .renamed _ _ hc hd

end Alike

/-! ## Reading alike lines -/

/-- One line, read after frames that are alike, leaves frames that are alike. -/
theorem readLine_same (l : List Char) {fs gs : List RawFrame}
    (h : List.Forall₂ (Alike boundaries c d) fs gs) :
    List.Forall₂ (Alike boundaries c d) (readLine fs l) (readLine gs l) := by
  have hempty : fs.isEmpty = gs.isEmpty := by cases h <;> rfl
  unfold readLine
  dsimp only
  split
  · exact h
  · split
    · next location _ =>
      cases h with
      | nil => exact .nil
      | cons hf hrest => exact .cons (hf.place location) hrest
    · split
      · exact .cons (.same _) h
      · rw [hempty]
        split
        · exact .nil
        · exact .cons (.same _) h

theorem readLine_alike {l m : List Char} {fs gs : List RawFrame}
    (h : List.Forall₂ (Alike boundaries c d) fs gs) (hl : LineAlike boundaries c d l m) :
    List.Forall₂ (Alike boundaries c d) (readLine fs l) (readLine gs m) := by
  cases hl with
  | same => exact readLine_same l h
  | @numbered i n path hc hd =>
    have hread : ∀ (q : CrateName) frames,
        readLine frames (i.val ++ (digits n ++ (": ".toList ++ q.qualify path))) =
          { symbol := String.ofList (q.qualify path) } :: frames :=
      fun q => readLine_numbered i n (q.functionName path)
    rw [hread c, hread d]
    exact .cons (.renamed none 0 hc hd) h
  | @inlined i path hc hd hcnote hdnote =>
    have hempty : fs.isEmpty = gs.isEmpty := by cases h <;> rfl
    have hread : ∀ (q : CrateName), q.text ≠ CrateName.note.text → ∀ frames,
        readLine frames (i.val ++ q.qualify path) =
          if frames.isEmpty then [] else { symbol := String.ofList (q.qualify path) } :: frames :=
      fun q hq => readLine_inlined i (CrateName.plain_functionName hq)
    rw [hread c hcnote, hread d hdnote, hempty]
    split
    · exact .nil
    · exact .cons (.renamed none 0 hc hd) h

/-! ## Texts of alike lines -/

theorem forall₂_flatMap {α β : Type} {R : β → β → Prop} {xs : List α} {f g : α → List β}
    (h : ∀ x ∈ xs, List.Forall₂ R (f x) (g x)) : List.Forall₂ R (xs.flatMap f) (xs.flatMap g) := by
  induction xs with
  | nil => exact .nil
  | cons x xs ih =>
    rw [List.flatMap_cons, List.flatMap_cons]
    exact List.rel_append (h x (by simp)) (ih fun x hx => h x (by simp [hx]))

theorem lineAlike_same (ls : List (List Char)) : List.Forall₂ (LineAlike boundaries c d) ls ls :=
  List.forall₂_same.mpr fun l _ => .same l

theorem numbered_alike (i : Indent) (n : Nat) {o : Origin}
    (h : ∀ path ∈ o.path?, StandsApart boundaries (c.qualify path) ∧ StandsApart boundaries (d.qualify path)) :
    LineAlike boundaries c d (i.val ++ ((digits n ++ ": ".toList) ++ (o.under c).text))
      (i.val ++ ((digits n ++ ": ".toList) ++ (o.under d).text)) := by
  cases o with
  | own path =>
    obtain ⟨hc,hd⟩ := h path rfl
    rw [List.append_assoc, List.append_assoc]
    exact .numbered i n hc hd
  | other name => exact .same _

theorem inlined_alike (i : Indent) {o : Origin}
    (h : ∀ path ∈ o.path?, StandsApart boundaries (c.qualify path) ∧ StandsApart boundaries (d.qualify path))
    (hnote : ∀ path ∈ o.path?, c.text ≠ CrateName.note.text ∧ d.text ≠ CrateName.note.text) :
    LineAlike boundaries c d (i.val ++ (o.under c).text) (i.val ++ (o.under d).text) := by
  cases o with
  | own path =>
    obtain ⟨hc,hd⟩ := h path rfl
    obtain ⟨hcnote,hdnote⟩ := hnote path rfl
    exact .inlined i hc hd hcnote hdnote
  | other name => exact .same _

variable (boundaries c d) in
/-- No function of the crate starts like one of the runtime or of the host, under either name. -/
def Rendering.OwnStandApart (r : Rendering Origin) : Prop :=
  ∀ n ∈ r.frames, ∀ m ∈ n.outer :: n.inlined, ∀ path ∈ m.name.path?,
    StandsApart boundaries (c.qualify path) ∧ StandsApart boundaries (d.qualify path)

variable (c d) in
/-- Neither name is `note` where functions of the crate are inlined. -/
def Rendering.NoNote (r : Rendering Origin) : Prop :=
  ∀ n ∈ r.frames, ∀ m ∈ n.inlined, ∀ path ∈ m.name.path?,
    c.text ≠ CrateName.note.text ∧ d.text ≠ CrateName.note.text

instance (r : Rendering Origin) : Decidable (r.OwnStandApart boundaries c d) :=
  inferInstanceAs (Decidable (∀ n ∈ r.frames, ∀ m ∈ n.outer :: n.inlined, ∀ path ∈ m.name.path?,
    StandsApart boundaries (c.qualify path) ∧ StandsApart boundaries (d.qualify path)))

instance (r : Rendering Origin) : Decidable (r.NoNote c d) :=
  inferInstanceAs (Decidable (∀ n ∈ r.frames, ∀ m ∈ n.inlined, ∀ path ∈ m.name.path?,
    c.text ≠ CrateName.note.text ∧ d.text ≠ CrateName.note.text))

theorem lines_alike {r : Rendering Origin} (hapart : r.OwnStandApart boundaries c d) (hnote : r.NoNote c d) :
    List.Forall₂ (LineAlike boundaries c d) (r.under c).lines (r.under d).lines := by
  have htail : ∀ m : Mention Origin,
      List.Forall₂ (LineAlike boundaries c d) (m.map (Origin.under c)).tail (m.map (Origin.under d)).tail :=
    fun m => lineAlike_same m.tail
  simp only [Rendering.lines, Rendering.under, Rendering.map, List.flatMap_map]
  refine List.rel_append (lineAlike_same _) (forall₂_flatMap fun n hn => ?_)
  simp only [Numbered.lines, Numbered.map, List.flatMap_map]
  refine List.rel_append ?_ (forall₂_flatMap fun m hm => ?_)
  · exact .cons (numbered_alike n.outer.indent n.index (hapart n hn n.outer (by simp))) (htail n.outer)
  · exact .cons (inlined_alike m.indent (hapart n hn m (by simp [hm])) (hnote n hn m hm)) (htail m)

theorem foldl_readLine_alike {ls ms : List (List Char)}
    (hl : List.Forall₂ (LineAlike boundaries c d) ls ms) {fs gs : List RawFrame}
    (h : List.Forall₂ (Alike boundaries c d) fs gs) :
    List.Forall₂ (Alike boundaries c d) (ls.foldl readLine fs) (ms.foldl readLine gs) := by
  induction hl generalizing fs gs with
  | nil => exact h
  | cons hline _ ih => exact ih (readLine_alike h hline)

theorem readFrames_alike {r : Rendering Origin} (hapart : r.OwnStandApart boundaries c d) (hnote : r.NoNote c d) :
    List.Forall₂ (Alike boundaries c d) (readFrames (r.under c).text) (readFrames (r.under d).text) := by
  rw [Rendering.readFrames_text_eq, Rendering.readFrames_text_eq, List.forall₂_reverse_iff]
  exact foldl_readLine_alike (lines_alike hapart hnote) .nil

/-! ## Selecting from alike frames -/

section Lists
variable {α : Type} {R : α → α → Prop} {p : α → Bool} {xs ys : List α}

theorem forall₂_dropWhile (hp : ∀ {a b}, R a b → p a = p b) (h : List.Forall₂ R xs ys) :
    List.Forall₂ R (xs.dropWhile p) (ys.dropWhile p) := by
  induction h with
  | nil => exact .nil
  | cons hab hrest ih =>
    rw [List.dropWhile_cons, List.dropWhile_cons, hp hab]
    split
    · exact ih
    · exact .cons hab hrest

theorem forall₂_takeWhile (hp : ∀ {a b}, R a b → p a = p b) (h : List.Forall₂ R xs ys) :
    List.Forall₂ R (xs.takeWhile p) (ys.takeWhile p) := by
  induction h with
  | nil => exact .nil
  | cons hab hrest ih =>
    rw [List.takeWhile_cons, List.takeWhile_cons, hp hab]
    split
    · exact .cons hab ih
    · exact .nil

theorem map_eq_of_forall₂ {β : Type} {f : α → β} (hf : ∀ {a b}, R a b → f a = f b)
    (h : List.Forall₂ R xs ys) : xs.map f = ys.map f := by
  induction h with
  | nil => rfl
  | cons hab _ ih => rw [List.map_cons, List.map_cons, hf hab, ih]

end Lists

theorem userBlock_alike {fs gs : List RawFrame} (h : List.Forall₂ (Alike boundaries c d) fs gs) :
    List.Forall₂ (Alike boundaries c d) (userBlock boundaries fs) (userBlock boundaries gs) := by
  have hentry : List.Forall₂ (Alike boundaries c d) (fromPanicEntry fs) (fromPanicEntry gs) := by
    have hdrop := forall₂_dropWhile (p := fun f => !f.isPanicEntry)
      (fun hab => by rw [Alike.isPanicEntry_eq hab]) h
    unfold fromPanicEntry
    cases hf : fs.dropWhile (!·.isPanicEntry) with
    | nil =>
      rw [hf] at hdrop
      rw [List.forall₂_nil_left_iff.mp hdrop]
      exact h
    | cons f rest =>
      rw [hf] at hdrop
      cases hg : gs.dropWhile (!·.isPanicEntry) with
      | nil =>
        rw [hg] at hdrop
        cases hdrop
      | cons g rest' => rwa [hg] at hdrop
  have hbegin := forall₂_dropWhile (p := RawFrame.isRuntime) Alike.isRuntime_eq hentry
  have hstop := forall₂_takeWhile (p := fun f => !f.isBoundary boundaries)
    (fun hab => by rw [Alike.isBoundary_eq hab]) hbegin
  have htrailing := forall₂_dropWhile (p := RawFrame.isRuntime) Alike.isRuntime_eq
    (List.rel_reverse hstop)
  exact List.rel_reverse htrailing

end Renaming

/-- **A report hides the name of the crate.** Of one backtrace, printed with the crate under two names, the
same frames are reported, in number, order, labels, paths and lines, if under neither name a function of
the crate starts like one of the runtime or of the host. The name `note` is excepted where functions of
the crate are inlined. -/
theorem userFrames_under_eq (boundaries : List String) (r : Rendering Origin) (c d : CrateName)
    (hapart : r.OwnStandApart boundaries c d) (hnote : r.NoNote c d) :
    userFrames boundaries (r.under c).text = userFrames boundaries (r.under d).text := by
  have hframes := readFrames_alike hapart hnote
  have hblock := List.forall₂_take maxFrames (userBlock_alike hframes)
  exact map_eq_of_forall₂ Alike.report_eq hblock

def CrateName.demo : CrateName where
  text := "demo".toList

def CrateName.notes : CrateName where
  text := "notes".toList

/-- A handler and a function inlined into it. -/
def Rendering.twoOwn : Rendering Origin where
  opening := []
  frames := [.panicEntry .other,
    { index := 1
      outer := { indent := .spaces 3, name := .own { text := "handler".toList },
                 before := [], place := none, after := [] }
      inlined := [
        { indent := .spaces 6, name := .own { text := "helper".toList }, before := [],
          place := some (.spaces 13,.column ⟨"./src/main.rs".toList,by decide⟩ 30 5),
          after := [] }] }]

theorem userFrames_twoOwn_under_eq :
    Rendering.twoOwn.OwnStandApart ["ferrule_engine::"] .demo .notes ∧ Rendering.twoOwn.NoNote .demo .notes ∧
    userFrames ["ferrule_engine::"] (Rendering.twoOwn.under .notes).text =
      [⟨"",0,"handler"⟩,⟨"src/main.rs",30,"helper"⟩] := by
  have hapart : Rendering.twoOwn.OwnStandApart ["ferrule_engine::"] .demo .notes := by decide
  have hnote : Rendering.twoOwn.NoNote .demo .notes := by decide
  have heq := userFrames_under_eq ["ferrule_engine::"] Rendering.twoOwn .demo .notes hapart hnote
  exact ⟨hapart,hnote,heq.symm.trans (by decide +kernel)⟩

/-- In a crate called `note` the line of the inlined function is passed over, so that its place becomes that
of the function around it. -/
theorem userFrames_under_note_ne :
    Rendering.twoOwn.OwnStandApart ["ferrule_engine::"] .demo .note ∧
    userFrames ["ferrule_engine::"] (Rendering.twoOwn.under .demo).text =
      [⟨"",0,"handler"⟩,⟨"src/main.rs",30,"helper"⟩] ∧
    userFrames ["ferrule_engine::"] (Rendering.twoOwn.under .note).text = [⟨"src/main.rs",30,"handler"⟩] := by
  decide +kernel

end InvocationHost.Backtrace
