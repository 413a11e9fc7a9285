set_option autoImplicit false

/-! # Splitting at a separator

`split?` cuts a text at every occurrence of a separator, found from left to right without overlap.
There is one piece more than there are occurrences. The empty separator splits nothing.
-/

namespace JvmDeps.Text

/-- Puts a character in front of the first piece. -/
def consPiece (c : Char) : List (List Char) → List (List Char)
  | [] => [[c]]
  | piece :: pieces => (c :: piece) :: pieces

/-- The pieces of a text between occurrences of `sep`, where `skip` characters of an occurrence
are still to be passed over. -/
def splitFrom (sep : List Char) : Nat → List Char → List (List Char)
  | _, [] => [[]]
  | skip + 1, _ :: cs => splitFrom sep skip cs
  | 0, c :: cs =>
    if sep.isPrefixOf (c :: cs) then [] :: splitFrom sep (sep.length - 1) cs
    else consPiece c (splitFrom sep 0 cs)

/-- The pieces of `s` between occurrences of `sep`; `none` if `sep` is empty. -/
def split? (sep s : String) : Option (List String) :=
  if sep = "" then none
  else some ((splitFrom sep.toList 0 s.toList).map String.ofList)

end JvmDeps.Text
