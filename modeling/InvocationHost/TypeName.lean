import InvocationHost.Text.Blank
import InvocationHost.Text.Cut

/-! # Names of types

A type name is a path of segments with `::` between them, perhaps behind references and in front of
generic arguments. `short` keeps the last segment; `isText` recognises the text types, borrowed or
owned, behind any chain of references; `isWrapper` recognises types that only carry another failure.
-/
namespace InvocationHost.TypeName
open Text

def mutMark : List Char := "mut ".toList

def dynMark : List Char := "dyn ".toList

def pathMark : List Char := "::".toList

/-- The part of a name that names the type itself: no references, no generic arguments, no path. -/
def shortChars (name : List Char) : List Char :=
  let bare := dropRepeated dynMark (dropRepeated mutMark (name.dropWhile (· = '&')))
  let base := bare.takeWhile (· ≠ '<')
  trim (((cutLast pathMark base).map Prod.snd).getD base)

def short (name : String) : String := String.ofList (shortChars name.toList)

theorem length_dropRepeated_le (mark s : List Char) : (dropRepeated mark s).length ≤ s.length := by
  fun_induction dropRepeated mark s <;> omega

theorem length_trimStart_le (s : List Char) : (trimStart s).length ≤ s.length :=
  (List.dropWhile_sublist isBlank).length_le

/-- Drops a chain of references, each an ampersand with any number of `mut ` and blanks after it. -/
def dropReferences : List Char → List Char
  | [] => []
  | c :: r =>
    if c = '&' then dropReferences (trimStart (dropRepeated mutMark r)) else c :: r
  termination_by s => s.length
  decreasing_by
    have h := length_trimStart_le (dropRepeated mutMark r)
    have h' := length_dropRepeated_le mutMark r
    simp only [List.length_cons]
    omega

def textTypes : List (List Char) := ["alloc::string::String".toList, "str".toList]

def cowMark : List Char := "alloc::borrow::Cow<".toList

def isLifetime (argument : List Char) : Bool := argument.head? == some '\''

/-- The arguments between a `Cow`'s brackets, if the name is that of a `Cow`. -/
def cowArguments? (name : List Char) : Option (List (List Char)) :=
  match after? cowMark name with
  | some rest =>
    if rest.getLast? = some '>' then some ((pieces (· = ',') rest.dropLast).map trim) else none
  | none => none

/-- A text type, or a `Cow` whose only argument besides lifetimes is `str`. -/
def isText (name : String) : Bool :=
  let bare := dropReferences (trim name.toList)
  textTypes.contains bare ||
    match cowArguments? bare with
    | some arguments => (arguments.filter (!isLifetime ·)) == ["str".toList]
    | none => false

def wrapperMarks : List (List Char) :=
  ["Box<dyn ".toList, "anyhow::Error".toList, "eyre::Report".toList]

def isWrapper (name : String) : Bool :=
  wrapperMarks.any (holds · name.toList) ||
    holds "wrap".toList ((short name).toList.map Char.toLower)

end InvocationHost.TypeName
