import InvocationHost.Json.Access
import InvocationHost.Proofs.Characters
import InvocationHost.Proofs.Lexemes

/-! # Written values as documents

What is written for a value is a document: its lexemes are those of the value, and they build the tree of the
value. Read as any value, it is the value again, but for the order of the members of its objects.
-/
namespace InvocationHost.Json
open Text

namespace Value

/-- A value that can be read back: its numbers are integers of 64 bits, and lists and objects are not nested
deeper than this. -/
inductive Readable : Nat → Value → Prop
  | null {depth : Nat} : Readable depth .null
  | bool {depth : Nat} (b : Bool) : Readable depth (.bool b)
  | integer {depth : Nat} {n : Int} : Text.leastInt64 ≤ n → n ≤ NumberText.greatestWord →
      Readable depth (.integer n)
  | text {depth : Nat} (s : String) : Readable depth (.text s)
  | list {depth : Nat} {items : List Value} : (∀ v ∈ items, Readable depth v) →
      Readable (depth + 1) (.list items)
  | object {depth : Nat} {members : List (String × Value)} : (∀ m ∈ members, Readable depth m.2) →
      Readable (depth + 1) (.object members)

/-! ## Lexemes -/

mutual
/-- The lexemes of a value that is written from this position on. -/
def lexemes (p : Position) : Value → List Lexeme
  | .null => [⟨.null,p.span (chars .null)⟩]
  | .bool b => [⟨.bool b,p.span (chars (.bool b))⟩]
  | .number n => [⟨.number (.ok n),p.span (chars (.number n))⟩]
  | .text s => [⟨.text (.ok s),p.span (chars (.text s))⟩]
  | .list items => ⟨.openList,p.span ['[']⟩ :: (itemLexemes (p.behind ['[']) items ++
      [⟨.closeList,((p.behind ['[']).behind (itemChars items)).span [']']⟩])
  | .object members => ⟨.openObject,p.span ['\x7b']⟩ :: (memberLexemes (p.behind ['\x7b']) members ++
      [⟨.closeObject,((p.behind ['\x7b']).behind (memberChars members)).span ['\x7d']⟩])

def itemLexemes (p : Position) : List Value → List Lexeme
  | [] => []
  | [v] => lexemes p v
  | v :: vs =>
    let comma := p.behind (chars v)
    lexemes p v ++ ⟨.comma,comma.span [',']⟩ :: itemLexemes (comma.behind [',']) vs

def memberLexemes (p : Position) : List (String × Value) → List Lexeme
  | [] => []
  | [(k, v)] =>
    let colon := p.behind (renderText k)
    ⟨.text (.ok k),p.span (renderText k)⟩ :: ⟨.colon,colon.span [':']⟩ :: lexemes (colon.behind [':']) v
  | (k, v) :: ms =>
    let colon := p.behind (renderText k)
    let comma := (colon.behind [':']).behind (chars v)
    ⟨.text (.ok k),p.span (renderText k)⟩ :: ⟨.colon,colon.span [':']⟩ ::
      (lexemes (colon.behind [':']) v ++ ⟨.comma,comma.span [',']⟩ :: memberLexemes (comma.behind [',']) ms)
end

/-- Characters fall into these lexemes wherever they stand, if a number has an end behind them. -/
def Lexes (cs : List Char) (ls : Position → List Lexeme) : Prop := ∀ p rest, EndsNumber rest →
  lexFrom p .between (cs.map .char ++ rest) = ls p ++ lexFrom (p.behind cs) .between rest

/-- A character that is a lexeme and ends a number before it. -/
structure Marks (c : Char) (t : Token) : Prop where
  start : ∀ p, Mode.start p c = Mode.single p c t
  ends : c.isDigit = false ∧ c ≠ '.' ∧ Mode.isExponentMark c = false

namespace Lexes
variable {cs ds : List Char} {ls ms : Position → List Lexeme} {c : Char} {t : Token}

theorem nil : Lexes [] fun _ => [] := fun _ _ _ => rfl

theorem cons (hc : Marks c t) (hcs : Lexes cs ls) :
    Lexes (c :: cs) fun p => ⟨t,p.span [c]⟩ :: ls (p.behind [c]) := by
  intro p rest hr
  rw [List.map_cons, List.cons_append, lexFrom_char]
  simp only [Mode.step, hc.start, Mode.single]
  exact congrArg (⟨t,p.span [c]⟩ :: ·) (hcs (p.behind [c]) rest hr)

theorem append_cons (hcs : Lexes cs ls) (hc : Marks c t) (hds : Lexes ds ms) : Lexes (cs ++ c :: ds)
    fun p => ls p ++ ⟨t,(p.behind cs).span [c]⟩ :: ms ((p.behind cs).behind [c]) := by
  intro p rest hr
  have hend : EndsNumber ((c :: ds).map .char ++ rest) := endsNumber_char hc.ends _
  rw [List.map_append, List.append_assoc, hcs p _ hend, cons hc hds (p.behind cs) rest hr, p.behind_append,
    List.append_assoc]

theorem text (s : String) : Lexes (renderText s) fun p => [⟨.text (.ok s),p.span (renderText s)⟩] :=
  fun p rest _ => lexFrom_renderText p s rest

theorem items {items : List Value} (h : ∀ v ∈ items, Lexes v.chars (lexemes · v)) :
    Lexes (itemChars items) (itemLexemes · items) := by
  induction items with
  | nil => exact nil
  | cons v vs ih =>
    obtain ⟨hv,hvs⟩ := List.forall_mem_cons.mp h
    cases vs with
    | nil => exact hv
    | cons w ws => exact hv.append_cons ⟨fun _ => rfl,by decide⟩ (ih hvs)

theorem members {members : List (String × Value)} (h : ∀ m ∈ members, Lexes m.2.chars (lexemes · m.2)) :
    Lexes (memberChars members) (memberLexemes · members) := by
  induction members with
  | nil => exact nil
  | cons m ms ih =>
    obtain ⟨k,v⟩ := m
    obtain ⟨hv,hms⟩ := List.forall_mem_cons.mp h
    have hcolon : Marks ':' .colon := ⟨fun _ => rfl,by decide⟩
    cases ms with
    | nil => exact (text k).append_cons hcolon hv
    | cons n ns =>
      simp only [memberChars, List.append_assoc, List.cons_append]
      exact (text k).append_cons hcolon (hv.append_cons ⟨fun _ => rfl,by decide⟩ (ih hms))

end Lexes

/-- The text of a value that can be read back falls into the lexemes of the value. -/
theorem Readable.lexes {depth : Nat} {v : Value} (h : v.Readable depth) : Lexes v.chars (lexemes · v) := by
  induction h with
  | null => exact fun p rest _ => rfl
  | bool b => exact fun p rest _ => by cases b <;> rfl
  | integer hleast hgreatest => exact fun p rest hr => lexFrom_integer hleast hgreatest p hr
  | text s => exact .text s
  | list _ ih => exact .cons ⟨fun _ => rfl,by decide⟩ ((Lexes.items ih).append_cons ⟨fun _ => rfl,by decide⟩ .nil)
  | object _ ih =>
    exact .cons ⟨fun _ => rfl,by decide⟩ ((Lexes.members ih).append_cons ⟨fun _ => rfl,by decide⟩ .nil)

/-! ## Trees -/

mutual
/-- The tree of a value that is written from this position on. -/
def tree (p : Position) : Value → Tree
  | .null => .null (p.span (chars .null))
  | .bool b => .bool (p.span (chars (.bool b))) b
  | .number n => .number (p.span (chars (.number n))) (.ok n)
  | .text s => .text (p.span (chars (.text s))) (.ok s)
  | .list items => .list (p.span (chars (.list items))) (itemTrees (p.behind ['[']) items) .proper
  | .object members =>
    .object (p.span (chars (.object members))) (memberTrees (p.behind ['\x7b']) members) .proper

def itemTrees (p : Position) : List Value → List Tree
  | [] => []
  | v :: vs => tree p v :: itemTrees ((p.behind (chars v)).behind [',']) vs

def memberTrees (p : Position) : List (String × Value) → List Member
  | [] => []
  | (k, v) :: ms =>
    let colon := p.behind (renderText k)
    (⟨.ok k,colon⟩, tree (colon.behind [':']) v) ::
      memberTrees (((colon.behind [':']).behind (chars v)).behind [',']) ms
end

end Value

namespace Builder
open Value
variable {stack : List Frame} {start p : Position} {ls : List Lexeme}

theorem run_cons (b : Builder) (l : Lexeme) (ls : List Lexeme) : b.run (l :: ls) = (b.step l).run ls := rfl

theorem run_append (b : Builder) (ls ms : List Lexeme) : b.run (ls ++ ms) = (b.run ls).run ms := List.foldl_append

/-- The lexemes of the value build its tree. -/
def Builds (v : Value) : Prop :=
  ∀ p stack, (Builder.building stack .value).run (v.lexemes p) = place (v.tree p) stack

/-- No value begins as a list ends, so that an item is read as a value is. -/
theorem run_item (v : Value) (done : List Tree) :
    (Builder.building stack (.item start done)).run (v.lexemes p ++ ls) =
      (Builder.building (.list start done :: stack) .value).run (v.lexemes p ++ ls) := by
  cases v <;> rfl

theorem run_firstItem (v : Value) : (Builder.building stack (.firstItem start)).run (v.lexemes p ++ ls) =
    (Builder.building stack (.item start [])).run (v.lexemes p ++ ls) := by
  cases v <;> rfl

theorem run_items {items : List Value} (h : ∀ v ∈ items, Builds v) (hne : items ≠ []) (done : List Tree)
    (p : Position) (span : Span) :
    (Builder.building stack (.item start done)).run (itemLexemes p items ++ [⟨.closeList,span⟩]) =
      place (.list ⟨start,span.stop⟩ (done.reverse ++ itemTrees p items) .proper) stack := by
  induction items generalizing done p with
  | nil => exact absurd rfl hne
  | cons v vs ih =>
    obtain ⟨hv,hvs⟩ := List.forall_mem_cons.mp h
    have hplace : ∀ ls, (Builder.building stack (.item start done)).run (v.lexemes p ++ ls) =
        (Builder.building stack (.afterItem start (v.tree p :: done))).run ls := by
      intro ls
      rw [run_item, run_append, hv]
      rfl
    cases vs with
    | nil =>
      simp only [itemLexemes, itemTrees]
      rw [hplace, ← List.reverse_cons]
      rfl
    | cons w ws =>
      simp only [itemLexemes, List.append_assoc, List.cons_append]
      rw [hplace, run_cons]
      refine (ih hvs (List.cons_ne_nil w ws) (v.tree p :: done) _).trans ?_
      rw [List.reverse_cons, List.append_assoc]
      rfl

theorem run_members {members : List (String × Value)} (h : ∀ m ∈ members, Builds m.2) (hne : members ≠ [])
    (done : List Member) (p : Position) (span : Span) :
    (Builder.building stack (.key start done)).run (memberLexemes p members ++ [⟨.closeObject,span⟩]) =
      place (.object ⟨start,span.stop⟩ (done.reverse ++ memberTrees p members) .proper) stack := by
  induction members generalizing done p with
  | nil => exact absurd rfl hne
  | cons m ms ih =>
    obtain ⟨k,v⟩ := m
    obtain ⟨hv,hms⟩ := List.forall_mem_cons.mp h
    let colon := p.behind (renderText k)
    have hplace : ∀ ls, (Builder.building stack (.key start done)).run (⟨.text (.ok k),p.span (renderText k)⟩ ::
        ⟨.colon,colon.span [':']⟩ :: (v.lexemes (colon.behind [':']) ++ ls)) =
          (Builder.building stack
            (.afterMember start ((⟨.ok k,colon⟩,v.tree (colon.behind [':'])) :: done))).run ls := by
      intro ls
      change (Builder.building (.object start done ⟨.ok k,colon⟩ :: stack) .value).run
        (v.lexemes (colon.behind [':']) ++ ls) = _
      rw [run_append, hv]
      rfl
    cases ms with
    | nil =>
      simp only [memberLexemes, memberTrees, List.cons_append]
      rw [hplace, ← List.reverse_cons]
      rfl
    | cons n ns =>
      simp only [memberLexemes, List.append_assoc, List.cons_append]
      rw [hplace, run_cons]
      refine (ih hms (List.cons_ne_nil n ns) ((⟨.ok k,colon⟩,v.tree (colon.behind [':'])) :: done) _).trans ?_
      rw [List.reverse_cons, List.append_assoc]
      rfl

theorem builds {depth : Nat} {v : Value} (h : v.Readable depth) : Builds v := by
  induction h with
  | null => exact fun _ _ => rfl
  | bool b => exact fun _ _ => rfl
  | integer _ _ => exact fun _ _ => rfl
  | text s => exact fun _ _ => rfl
  | @list _ items _ ih =>
    intro p stack
    have hspan : ((p.behind ['[']).behind (itemChars items)).behind [']'] = p.behind (chars (.list items)) := by
      rw [← Position.behind_append, ← Position.behind_append]
      rfl
    rw [tree, Position.span, ← hspan]
    cases items with
    | nil => rfl
    | cons v vs =>
      have hfirst (ls : List Lexeme) :
          (Builder.building stack (.firstItem p)).run (itemLexemes (p.behind ['[']) (v :: vs) ++ ls) =
            (Builder.building stack (.item p [])).run (itemLexemes (p.behind ['[']) (v :: vs) ++ ls) := by
        cases vs with
        | nil => exact run_firstItem v
        | cons w ws =>
          simp only [itemLexemes, List.append_assoc]
          exact run_firstItem v
      exact (hfirst _).trans (run_items ih (List.cons_ne_nil v vs) [] _ _)
  | @object _ members _ ih =>
    intro p stack
    have hspan : ((p.behind ['\x7b']).behind (memberChars members)).behind ['\x7d'] =
        p.behind (chars (.object members)) := by
      rw [← Position.behind_append, ← Position.behind_append]
      rfl
    rw [tree, Position.span, ← hspan]
    rcases members with _ | ⟨⟨k,v⟩,_ | ⟨m,ms⟩⟩
    · rfl
    · exact run_members ih (List.cons_ne_nil _ _) [] _ _
    · exact run_members ih (List.cons_ne_nil _ _) [] _ _

end Builder

/-- **What is written for a value is its tree and nothing else.** -/
theorem Document.ofString_render {depth : Nat} {v : Value} (h : v.Readable depth) :
    ofString v.render = ⟨v.tree {},none⟩ := by
  have hlex : lex (glyphs v.render) = v.lexemes {} := by
    have hl := h.lexes {} [] trivial
    rwa [List.append_nil, lexFrom, Mode.finish, List.append_nil, ← String.toList_ofList (l := v.chars)] at hl
  rw [ofString, ofGlyphs, hlex, Builder.builds h]
  rfl

theorem Document.ofBytes_render {depth : Nat} {v : Value} (h : v.Readable depth) :
    ofBytes (utf8 v.render) = ⟨v.tree {},none⟩ := by
  rw [ofBytes_utf8, ofString_render h]

/-! ## Reading a value back -/

namespace Value

mutual
/-- The value with the members of its objects in the order of their keys. -/
def sorted : Value → Value
  | .list items => .list (sortedItems items)
  | .object members => .object (Dictionary.ofEntries (sortedMembers members))
  | v => v

def sortedItems : List Value → List Value
  | [] => []
  | v :: vs => sorted v :: sortedItems vs

def sortedMembers : List (String × Value) → List (String × Value)
  | [] => []
  | (k, v) :: ms => (k, sorted v) :: sortedMembers ms
end

theorem decodeItems_itemTrees {depth : Nat} {items : List Value}
    (h : ∀ v ∈ items, ∀ p, decode depth (v.tree p) = .ok v.sorted) (p : Position) :
    decodeItems depth (itemTrees p items) = .ok (sortedItems items) := by
  induction items generalizing p with
  | nil => rfl
  | cons v vs ih =>
    obtain ⟨hv,hvs⟩ := List.forall_mem_cons.mp h
    simp only [itemTrees, decodeItems, hv, ih hvs, sortedItems]
    rfl

theorem decodeMembers_memberTrees {depth : Nat} {members : List (String × Value)}
    (h : ∀ m ∈ members, ∀ p, decode depth (m.2.tree p) = .ok m.2.sorted) (p : Position) :
    decodeMembers depth (memberTrees p members) = .ok (sortedMembers members) := by
  induction members generalizing p with
  | nil => rfl
  | cons m ms ih =>
    obtain ⟨k,v⟩ := m
    obtain ⟨hv,hms⟩ := List.forall_mem_cons.mp h
    simp only [memberTrees, decodeMembers, hv, ih hms, sortedMembers]
    rfl

theorem decode_tree {depth : Nat} {v : Value} (h : v.Readable depth) (p : Position) :
    decode depth (v.tree p) = .ok v.sorted := by
  induction h generalizing p with
  | null => rfl
  | bool b => rfl
  | integer _ _ => rfl
  | text s => rfl
  | list _ ih =>
    simp only [tree, decode, Decoder.deeper, decodeItems_itemTrees ih]
    rfl
  | object _ ih =>
    simp only [tree, decode, Decoder.deeper, decodeMembers_memberTrees ih]
    rfl

end Value

/-- A document that was written is decoded as the decoder takes the value it was written for. -/
theorem Document.decode_written {α : Type} {d : Decoder α} {v : Value} {a : α} (hv : v.Readable maxDepth)
    (h : ∀ p, d maxDepth (v.tree p) = .ok a) : (ofBytes (utf8 v.render)).decode d = .ok a := by
  rw [ofBytes_render hv]
  simp only [Document.decode, h]
  rfl

namespace Dictionary
variable {α : Type} {key k : String} {a : α}

theorem any_insert (d : Dictionary α) :
    (insert k a d).any (·.1 == key) = (k == key || d.any (·.1 == key)) := by
  induction d with
  | nil => rfl
  | cons e d ih =>
    obtain ⟨k',b⟩ := e
    unfold insert
    split
    · next heq =>
      subst heq
      simp
    · split
      · simp
      · simp [ih, Bool.or_left_comm]

theorem any_ofEntries (entries : List (String × α)) :
    (ofEntries entries).any (·.1 == key) = entries.any (·.1 == key) := by
  have hfold : ∀ d : Dictionary α, (entries.foldl (fun d e => insert e.1 e.2 d) d).any (·.1 == key) =
      (entries.any (·.1 == key) || d.any (·.1 == key)) := by
    induction entries with
    | nil => simp
    | cons e entries ih =>
      intro d
      rw [List.foldl_cons, ih, any_insert, List.any_cons, Bool.or_left_comm, Bool.or_assoc]
  rw [ofEntries, hfold, List.any_nil, Bool.or_false]

end Dictionary

/-- A value that is read back has the members that were written. -/
theorem Value.hasMember_sorted (members : List (String × Value)) (key : String) :
    (Value.object members).sorted.hasMember key = members.any (·.1 == key) := by
  have hkeys : (sortedMembers members).any (·.1 == key) = members.any (·.1 == key) := by
    induction members with
    | nil => rfl
    | cons m ms ih => simp [sortedMembers, ih]
  rw [sorted, hasMember, Dictionary.any_ofEntries, hkeys]

/-- **A value reads back from its text**, with the members of its objects in the order of their keys. -/
theorem Document.decode_render {v : Value} (h : v.Readable maxDepth) :
    (ofBytes (utf8 v.render)).decode Value.decoder = .ok v.sorted :=
  decode_written h (Value.decode_tree h)

end InvocationHost.Json
