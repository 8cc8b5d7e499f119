/-! # Cutting a text at a mark

`after?` takes a mark from the front, `cutFirst` and `cutLast` split at the first and at the last
place where the mark stands, `pieces` splits at every character of a class. Nothing is lost: the
parts with the mark between them give the text back (`eq_of_cutFirst`, `eq_of_cutLast`).
-/
namespace InvocationHost.Text

/-- What follows the mark, if the text starts with it. -/
def after? : List Char → List Char → Option (List Char)
  | [], s => some s
  | m :: ms, c :: s => if m = c then after? ms s else none
  | _ :: _, [] => none

def startsWith (mark s : List Char) : Bool := (after? mark s).isSome

def cutFirst (mark : List Char) : List Char → Option (List Char × List Char)
  | [] => none
  | c :: r =>
    match after? mark (c :: r) with
    | some rest => some ([], rest)
    | none => (cutFirst mark r).map fun p => (c :: p.1, p.2)

def cutLast (mark : List Char) : List Char → Option (List Char × List Char)
  | [] => none
  | c :: r =>
    match cutLast mark r with
    | some p => some (c :: p.1, p.2)
    | none => (after? mark (c :: r)).map fun rest => ([], rest)

def holds (mark s : List Char) : Bool := (cutFirst mark s).isSome

/-- Takes the mark from the front as often as it stands there. -/
def dropRepeated (mark s : List Char) : List Char :=
  match after? mark s with
  | some rest => if rest.length < s.length then dropRepeated mark rest else s
  | none => s
  termination_by s.length

def pieces (isMark : Char → Bool) : List Char → List (List Char)
  | [] => [[]]
  | c :: r =>
    if isMark c then [] :: pieces isMark r
    else match pieces isMark r with
      | [] => [[c]]
      | p :: ps => (c :: p) :: ps

theorem after?_eq_some_iff {mark s rest : List Char} :
    after? mark s = some rest ↔ s = mark ++ rest := by
  induction mark generalizing s with
  | nil => simp [after?, eq_comm]
  | cons m ms ih =>
    cases s with
    | nil => simp [after?]
    | cons c s =>
      by_cases h : m = c
      · simp [after?, h, ih]
      · simp [after?, h, Ne.symm h]

theorem after?_append (mark rest : List Char) : after? mark (mark ++ rest) = some rest :=
  after?_eq_some_iff.2 rfl

theorem startsWith_iff {mark s : List Char} :
    startsWith mark s = true ↔ ∃ rest, s = mark ++ rest := by
  simp [startsWith, Option.isSome_iff_exists, after?_eq_some_iff]

theorem eq_of_cutFirst {mark s before rest : List Char}
    (h : cutFirst mark s = some (before, rest)) : s = before ++ mark ++ rest := by
  induction s generalizing before with
  | nil => simp [cutFirst] at h
  | cons c r ih =>
    unfold cutFirst at h
    split at h
    · next rest' hr =>
      obtain ⟨rfl,rfl⟩ : [] = before ∧ rest' = rest := by simpa using h
      simpa using after?_eq_some_iff.1 hr
    · obtain ⟨p,hp,heq⟩ := Option.map_eq_some_iff.1 h
      obtain ⟨rfl,rfl⟩ : c :: p.1 = before ∧ p.2 = rest := by simpa using heq
      simp [ih hp]

theorem eq_of_cutLast {mark s before rest : List Char}
    (h : cutLast mark s = some (before, rest)) : s = before ++ mark ++ rest := by
  induction s generalizing before with
  | nil => simp [cutLast] at h
  | cons c r ih =>
    unfold cutLast at h
    split at h
    · next p hp =>
      obtain ⟨rfl,rfl⟩ : c :: p.1 = before ∧ p.2 = rest := by simpa using h
      simp [ih hp]
    · obtain ⟨rest',hr,heq⟩ := Option.map_eq_some_iff.1 h
      obtain ⟨rfl,rfl⟩ : [] = before ∧ rest' = rest := by simpa using heq
      simpa using after?_eq_some_iff.1 hr

end InvocationHost.Text
