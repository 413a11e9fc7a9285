import JvmDeps.Data.Rounding
import JvmDeps.Printing.Markup
import JvmDeps.Printing.Wrapping
import JvmDeps.Report.Printer

set_option autoImplicit false

/-! # Lines and columns

How texts and tables are laid out on a console. If the columns of a table are wider than the
console, the wider one gives way first, then both alike; content that does not fit is broken into
lines between words, and a line that is still too long ends in an ellipsis. A text that is no part
of a table is chopped instead.
-/

namespace JvmDeps

namespace Console

/-- Pieces as one line. -/
def line (console : Console) (pieces : List Piece) : String :=
  Piece.renderAll console.color pieces ++ "\n"

/-- A text as lines. -/
def textLines (console : Console) (text : StyledText) : String :=
  String.join ((text.wrap .chopped console.width).map fun part =>
    console.line (Piece.crop console.width part.pieces))

/-! ## Columns -/

/-- The widths of two columns after the wider one has given way by at most `excess`, and no further
than the other. -/
def narrowWider (excess : Nat) (widths : Nat × Nat) : Nat × Nat :=
  if widths.2 < widths.1 then (widths.1 - min excess (widths.1 - widths.2), widths.2)
  else (widths.1, widths.2 - min excess (widths.2 - widths.1))

/-- The widths of two columns after both have given way, by `excess` together. -/
def narrowBoth (excess : Nat) (widths : Nat × Nat) : Nat × Nat :=
  (widths.1 - roundDiv excess 2, widths.2 - (excess - roundDiv excess 2))

/-- The widths of two columns in `total` cells. -/
def narrow (total : Nat) (widths : Nat × Nat) : Nat × Nat :=
  let widths := narrowWider (widths.1 + widths.2 - total) widths
  narrowBoth (widths.1 + widths.2 - total) widths

/-- A row of a table. -/
abbrev Row := StyledText × StyledText

/-- A character that ends a line where the width of a text is measured. -/
def isLineEnd (c : Char) : Bool :=
  c = '\n' || (0x1c ≤ c.toNat && c.toNat ≤ 0x1e) || c.toNat == 0x85 || c.toNat == 0x2028 ||
    c.toNat == 0x2029

/-- The cells that a text takes if its lines are not broken. -/
def textWidth (t : StyledText) : Nat :=
  ((Text.cutWhere isLineEnd t.chars).map Text.cells).foldl max 0

/-- The width of a column: its widest content with a blank on each side. -/
def columnWidth (contents : List StyledText) : Nat := 2 + (contents.map textWidth).foldl max 0

/-- The widths of the two columns of some rows, if there is room for both. -/
def columnWidths (rows : List Row) : Nat × Nat :=
  (columnWidth (rows.map Prod.fst), columnWidth (rows.map Prod.snd))

/-- A piece of blanks. -/
def blanks (style : Style) (n : Nat) : Piece := ⟨style, List.replicate n ' '⟩

/-- The lines of a cell over a style, each with a blank on both sides. -/
def cellLines (style : Style) (width : Nat) (content : StyledText) : List (List Piece) :=
  (content.wrap .ellipsis (width - 2)).map fun part =>
    let pieces := Piece.fit (width - 2) (part.pad (width - 2)).pieces
    blanks style 1 :: Piece.overStyle style pieces ++ [blanks style 1]

/-- Two cells side by side; the shorter one is filled up with blank lines. -/
def besides (first second : Piece) : List (List Piece) → List (List Piece) → List (List Piece)
  | [], rs => rs.map (first :: ·)
  | l :: ls, [] => (l ++ [second]) :: besides first second ls []
  | l :: ls, r :: rs => (l ++ r) :: besides first second ls rs

/-- The lines of a row whose columns have the given styles and widths. -/
def rowLines (console : Console) (styles : Style × Style) (widths : Nat × Nat) (row : Row) :
    String :=
  String.join ((besides (blanks styles.1 widths.1) (blanks styles.2 widths.2)
    (cellLines styles.1 widths.1 row.1) (cellLines styles.2 widths.2 row.2)).map fun pieces =>
      console.line (Piece.crop console.width pieces))

/-- The lines of a table of headings and rows. -/
def tableLines (console : Console) (headingStyle : Style) (styles : Style × Style)
    (headings : Row) (rows : List Row) : String :=
  let widths := narrow console.width (columnWidths (headings :: rows))
  console.rowLines (headingStyle, headingStyle) widths headings ++
    String.join (rows.map (console.rowLines styles widths))

/-! ## Rules -/

/-- A line across the console with a title in its middle. -/
def rule (console : Console) (title : StyledText) : String :=
  let size := Text.cells title.chars
  let side := (console.width - size) / 2
  let dashes (n : Nat) : List Char := List.replicate n '─'
  let green := Style.ofColor "bright_green" 10
  console.line (⟨green, dashes (side - 1) ++ [' ']⟩ :: title.pieces ++
    [⟨green, ' ' :: dashes (console.width - side - size - 1)⟩])

end Console

end JvmDeps
