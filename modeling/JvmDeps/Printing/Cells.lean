import JvmDeps.Printing.CellTable
import JvmDeps.Text.Ranges

set_option autoImplicit false

/-! # Terminal cells

How many columns of a terminal a text takes (`cells`). On its own a character takes one cell, or two
if it is wide, or none if it is a mark or a control (`charCells`). Two characters act on their
neighbours: the joiner merges the character behind it into the one in front, and the picture
selector widens a sign that is also drawn as a picture.

A grapheme is a part of a text that is not taken apart: a character with all that is merged into it.
`fit` cuts or pads a text to a number of cells, and `chop` cuts it into pieces of at most a number
of cells, both between graphemes.
-/

namespace JvmDeps.Text

/-- Merges the character behind it into the one in front. -/
def joiner : Char := '\u200d'

/-- Asks for the sign in front as a picture. -/
def pictureSelector : Char := '\ufe0f'

/-- The sign is wide as a picture, and narrow otherwise. -/
def isPicture (c : Char) : Bool := inRanges pictureRanges c.toNat

/-- The cells of one character on its own. -/
def charCells (c : Char) : Nat :=
  if 0x20 ≤ c.toNat && c.toNat < 0x7f then 1
  else if c.toNat < 0xa0 || inRanges zeroWidthRanges c.toNat then 0
  else if inRanges wideRanges c.toNat then 2
  else 1

theorem charCells_le_two (c : Char) : charCells c ≤ 2 := by
  unfold charCells
  repeat' split
  all_goals decide

/-- The cells of a text that follows `base`, the last character that took a cell and was not
widened. -/
def cellsAfter : (base : Option Char) → List Char → Nat
  | _, [] => 0
  | base, c :: cs =>
    if c = joiner then
      match cs with
      | [] => 0
      | _ :: cs => cellsAfter base cs
    else if c = pictureSelector then
      (if base.any isPicture then 1 else 0) + cellsAfter none cs
    else if charCells c = 0 then cellsAfter base cs
    else charCells c + cellsAfter (some c) cs

/-- The cells of a text. -/
def cells (cs : List Char) : Nat := cellsAfter none cs

/-! ## Graphemes -/

/-- Characters that stand together, and the cells they take. -/
structure Grapheme where
  chars : List Char
  cells : Nat
deriving DecidableEq, Repr

/-- The graphemes of a text that continues `part`, a grapheme in reversed order of `size` cells,
where `base` is the last character that took a cell and was not widened. -/
def graphemesAfter (part : List Char) (size : Nat) (base : Option Char) :
    List Char → List Grapheme
  | [] => if part.isEmpty then [] else [⟨part.reverse, size⟩]
  | c :: cs =>
    if c = joiner && !part.isEmpty then
      match cs with
      | [] => [⟨(c :: part).reverse, size⟩]
      | d :: cs => graphemesAfter (d :: c :: part) size base cs
    else if c = pictureSelector && base.any isPicture then
      graphemesAfter (c :: part) (size + 1) none cs
    else if charCells c = 0 then graphemesAfter (c :: part) size base cs
    else if part.isEmpty then graphemesAfter [c] (charCells c) (some c) cs
    else ⟨part.reverse, size⟩ :: graphemesAfter [c] (charCells c) (some c) cs

/-- The graphemes of a text. -/
def graphemes (cs : List Char) : List Grapheme := graphemesAfter [] 0 none cs

theorem flatMap_graphemesAfter (cs part : List Char) (size : Nat) (base : Option Char) :
    (graphemesAfter part size base cs).flatMap Grapheme.chars = part.reverse ++ cs := by
  fun_induction graphemesAfter part size base cs <;> simp_all

/-- Nothing of a text is lost between its graphemes. -/
theorem flatMap_graphemes (cs : List Char) : (graphemes cs).flatMap Grapheme.chars = cs :=
  flatMap_graphemesAfter cs [] 0 none

/-! ## Cutting -/

/-- As many graphemes as `total` cells hold; a blank stands for one that would need more. -/
def takeCells : (total : Nat) → List Grapheme → List Char
  | _, [] => []
  | 0, _ :: _ => []
  | total + 1, g :: gs =>
    if g.cells ≤ total + 1 then g.chars ++ takeCells (total + 1 - g.cells) gs else [' ']

/-- A text in `total` cells, cut or filled up with blanks. -/
def fit (total : Nat) (cs : List Char) : List Char :=
  if cells cs ≤ total then cs ++ List.replicate (total - cells cs) ' '
  else takeCells total (graphemes cs)

/-- Puts characters in front of the first piece. -/
def extendFirst (front : List Char) : List (List Char) → List (List Char)
  | [] => [front]
  | piece :: pieces => (front ++ piece) :: pieces

theorem flatten_extendFirst (front : List Char) (pieces : List (List Char)) :
    (extendFirst front pieces).flatten = front ++ pieces.flatten := by
  cases pieces <;> simp [extendFirst]

/-- Cuts graphemes into pieces of at most `width` cells, given the cells `used` in the piece that is
being filled; the first piece of the result continues it. -/
def chopAfter (width used : Nat) : List Grapheme → List (List Char)
  | [] => [[]]
  | g :: gs =>
    if used + g.cells > width then [] :: extendFirst g.chars (chopAfter width g.cells gs)
    else extendFirst g.chars (chopAfter width (used + g.cells) gs)

theorem flatten_chopAfter (width used : Nat) (gs : List Grapheme) :
    (chopAfter width used gs).flatten = gs.flatMap Grapheme.chars := by
  induction gs generalizing used with
  | nil => rfl
  | cons g gs ih =>
    rw [chopAfter]
    split <;> simp [flatten_extendFirst, ih]

/-- Cuts a text into pieces, each as long as `width` cells admit. -/
def chop (width : Nat) (cs : List Char) : List (List Char) :=
  chopAfter width 0 (graphemes cs)

/-- Nothing of a text is lost between its pieces. -/
theorem flatten_chop (width : Nat) (cs : List Char) : (chop width cs).flatten = cs := by
  rw [chop, flatten_chopAfter, flatMap_graphemes]

end JvmDeps.Text
