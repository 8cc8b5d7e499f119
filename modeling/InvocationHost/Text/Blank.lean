import InvocationHost.Text.Ranges

/-! # Blank characters and trimming

The blanks are the characters with the Unicode property White_Space. Trimming drops them at the
two ends of a text and nowhere else.
-/
namespace InvocationHost.Text

def blanks : CodeRanges :=
  [(0x09, 0x0D), (0x20, 0x20), (0x85, 0x85), (0xA0, 0xA0), (0x1680, 0x1680), (0x2000, 0x200A),
   (0x2028, 0x2029), (0x202F, 0x202F), (0x205F, 0x205F), (0x3000, 0x3000)]

def isBlank (c : Char) : Bool := blanks.has c

def trimStart (s : List Char) : List Char := s.dropWhile isBlank

def trimEnd (s : List Char) : List Char := (s.reverse.dropWhile isBlank).reverse

def trim (s : List Char) : List Char := trimEnd (trimStart s)

/-- A text that holds blanks only. -/
def isAllBlank (s : String) : Bool := s.toList.all isBlank

theorem trimStart_eq_self {s : List Char} (h : ∀ c ∈ s.head?, isBlank c = false) :
    trimStart s = s := by
  cases s with
  | nil => rfl
  | cons c r => simp [trimStart, h c (by simp)]

theorem trim_eq_nil_iff {s : List Char} : trim s = [] ↔ ∀ c ∈ s, isBlank c = true := by
  have drop_nil : ∀ t : List Char, t.dropWhile isBlank = [] ↔ ∀ c ∈ t, isBlank c = true := by
    intro t
    induction t with
    | nil => simp
    | cons c r ih => by_cases h : isBlank c = true <;> simp [List.dropWhile, h, ih]
  unfold trim trimEnd trimStart
  rw [List.reverse_eq_nil_iff, drop_nil]
  constructor
  · intro h
    apply (drop_nil s).1
    cases hs : s.dropWhile isBlank with
    | nil => rfl
    | cons c r =>
      have hc : isBlank c = true := h c (by simp [hs])
      have := List.head?_dropWhile_not isBlank s
      simp [hs, hc] at this
  · intro h
    simp [(drop_nil s).2 h]

end InvocationHost.Text
