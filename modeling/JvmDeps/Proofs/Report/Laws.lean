import JvmDeps.Proofs.Text.Ink
import JvmDeps.Report.Printer
import Mathlib.Data.List.Forall2

set_option autoImplicit false

/-! # Laws of printers

What terminal reports rely on of the printer that writes them (`Printer.Lawful`): what markup stands
for, and what is left of a text that is broken into lines or laid out in a table. Nothing is said of
colors, of rules, or of text outside of these laws.

Of markup two things are told. A tag is consumed as a style and not shown (`Markup.Stands`), and a
closing tag that closes nothing is refused (`Markup.Unmatched`).

A text across the console loses nothing but blanks. The cell of a table has a blank on both sides;
what does not fit is broken between words, and a word that is too wide is cut, with an ellipsis at
its end (`Printer.Shows`). The columns are as wide as their contents if there is room for that.
-/

namespace JvmDeps

open Text

/-! ## Markup -/

namespace Markup

/-- The character takes no part in markup: it is no opening bracket, no colon, which could belong to
the name of an emoji, and none of the controls that are dropped, such as the bell. -/
def isInert (c : Char) : Bool :=
  c ≠ '[' && c ≠ ':' && !([7, 8, 11, 12, 13] : List Nat).contains c.toNat

/-- No character of the text takes part in markup. -/
def Inert (s : String) : Prop := s.toList.all isInert = true

instance (s : String) : Decidable (Inert s) := inferInstanceAs (Decidable (_ = true))

/-- Inert text that can stand in front of a tag: a backslash at its end would escape the tag. -/
structure Leading (s : String) : Prop where
  inert : Inert s
  unescaping : s.toList.getLast? ≠ some '\\'

/-- A word of small letters, as a tag. -/
structure IsTag (tag : String) : Prop where
  nonempty : tag ≠ ""
  letters : tag.toList.all Char.isLower = true

/-- The markup stands for the text. -/
inductive Stands : (markup shown : String) → Prop where
  /-- What is no markup stands for itself. -/
  | inert {s : String} (h : Inert s) : Stands s s
  /-- A style that is closed again. -/
  | styled {style s rest : String} (hstyle : style ∈ ["bold cyan", "dim"]) (h : Leading s)
      (hrest : Inert rest) :
      Stands ("[" ++ style ++ "]" ++ s ++ "[/" ++ style ++ "]" ++ rest) (s ++ rest)
  /-- A tag that is left open, whether there is such a style or not. -/
  | tagged {s tag rest : String} (h : Leading s) (htag : IsTag tag) (hrest : Inert rest) :
      Stands (s ++ "[" ++ tag ++ "]" ++ rest) (s ++ rest)

/-- The markup closes a tag that was not opened. -/
def Unmatched (markup : String) : Prop :=
  ∃ s tag rest, Leading s ∧ IsTag tag ∧ markup = s ++ "[/" ++ tag ++ "]" ++ rest

end Markup

/-! ## Lines -/

/-- Lines as they are written. -/
def unlines (lines : List (List Char)) : String :=
  String.join (lines.map fun line => String.ofList line ++ "\n")

theorem unlines_append (lines more : List (List Char)) :
    unlines (lines ++ more) = unlines lines ++ unlines more := by
  simp [unlines]

/-- The headings of a table and its rows. -/
def Table.grid (table : Table) : List (String × String) :=
  (table.first.heading, table.second.heading) :: table.rows

namespace Printer

variable (p : Printer)

/-- The markup can be read. -/
def Reads (markup : String) : Prop := ∃ shown, p.markup markup = .ok shown

/-- Every character of the text stands for itself and takes cells. -/
def Visible (cs : List Char) : Prop := Independent cs ∧ ∀ c ∈ cs, 0 < p.cells [c]

/-- Every character of the text takes one cell, or none is blank. In other texts a line can be cut
although only the blanks at its end are too many: as many of them are dropped as there are too many
characters, not cells. -/
def Uniform (cs : List Char) : Prop := Solid cs ∨ ∀ c ∈ cs, p.cells [c] = 1

/-- Every word of a uniform text has room in a line. -/
def Fits (room : Nat) (cs : List Char) : Prop :=
  p.Uniform cs ∧ ∀ word ∈ lineWords cs, p.cells (trimEnd word) ≤ room

/-- The text fits, or is one word, which can be cut. -/
def Orderly (room : Nat) (cs : List Char) : Prop :=
  Independent cs ∧ (p.Fits room cs ∨ Solid cs)

/-- The ink that is left of an orderly text in a cell with some room. -/
structure Shows (room : Nat) (cs ink : List Char) : Prop where
  /-- What fits is there as a whole. -/
  whole : p.Fits room cs → ink = inked cs
  /-- A word that is too wide ends in an ellipsis. -/
  cut : Solid cs → room < p.cells cs → ∃ front, front <+: cs ∧ ink = front ++ ['…']

/-- The lines of a column leave some ink, and each of them fills its width. -/
structure Fills (width : Nat) (ink : List Char) (lines : List (List Char)) : Prop where
  cells : ∀ line ∈ lines, p.cells line = width
  ink : inked lines.flatten = ink

/-- Lines leave two inks side by side, in columns of the given widths. -/
def SideBySide (widths : Nat × Nat) (first second : List Char) (lines : List (List Char)) : Prop :=
  ∃ left right, left.length = right.length ∧ lines = List.zipWith (· ++ ·) left right ∧
    p.Fills widths.1 first left ∧ p.Fills widths.2 second right

/-- Lines show two texts side by side. A blank stands on both sides of each. -/
def ShowsRow (widths : Nat × Nat) (first second : List Char) (lines : List (List Char)) : Prop :=
  ∃ left right, p.SideBySide widths left right lines ∧ p.Shows (widths.1 - 2) first left ∧
    p.Shows (widths.2 - 2) second right

/-- What the markup stands for takes at most some cells. -/
def Within (room : Nat) (markup : String) : Prop :=
  ∀ shown, p.markup markup = .ok shown →
    Independent shown.toList ∧ p.Uniform shown.toList ∧ p.cells shown.toList ≤ room

/-- What the markup stands for fits. -/
def HasRoom (room : Nat) (markup : String) : Prop :=
  ∀ shown, p.markup markup = .ok shown → p.Fits room shown.toList

/-- A table is laid out in columns of the given widths, as blocks of lines. -/
structure LaysOut (console : Console) (table : Table) (widths : Nat × Nat)
    (blocks : List (List (List Char))) : Prop where
  /-- The columns keep to the console. -/
  within : widths.1 + widths.2 ≤ console.width
  /-- There is a block for the headings, and one for each row. -/
  rows : List.Forall₂ (fun row lines => ∀ first second, p.markup row.1 = .ok first →
      p.markup row.2 = .ok second → p.Orderly (widths.1 - 2) first.toList →
        p.Orderly (widths.2 - 2) second.toList → p.ShowsRow widths first.toList second.toList lines)
    table.grid blocks
  /-- If the widest contents of both columns have room together, all contents have room. -/
  roomy : ∀ first second, first + second + 4 ≤ console.width →
    (∀ row ∈ table.grid, p.Within first row.1 ∧ p.Within second row.2) →
      ∀ row ∈ table.grid, p.HasRoom (widths.1 - 2) row.1 ∧ p.HasRoom (widths.2 - 2) row.2

/-- The laws of a printer. -/
structure Lawful : Prop where
  /-- Tags are consumed as styles. -/
  stands : ∀ {markup shown : String}, Markup.Stands markup shown → p.markup markup = .ok shown
  /-- A closing tag that closes nothing is refused, also under a style of another name. -/
  unmatched : ∀ {markup : String}, Markup.Unmatched markup →
    p.markup markup = .error (.misuse .badMarkup) ∧
      p.markup ("[bold cyan]" ++ markup) = .error (.misuse .badMarkup)
  /-- The printable characters of ASCII take one cell each. -/
  ascii : ∀ {cs : List Char}, Ascii cs → p.cells cs = cs.length
  newline : ∀ console, p.print console .newline = .ok "\n"
  /-- A text that cannot be read is not printed. -/
  unreadable : ∀ console markup fault, p.markup markup = .error fault →
    p.print console (.markup markup) = .error fault
  /-- A text is broken into lines, and shows everything if every character takes cells. -/
  text : ∀ (console : Console) (markup shown : String), console.color = false →
    20 ≤ console.width → p.markup markup = .ok shown →
      ∃ lines, p.print console (.markup markup) = .ok (unlines lines) ∧
        (p.Visible shown.toList → inked lines.flatten = inked shown.toList)
  /-- A table is printed if all its texts can be read. -/
  table_iff : ∀ (console : Console) (table : Table),
    (∃ text, p.print console (.table table) = .ok text) ↔
      ∀ row ∈ table.grid, p.Reads row.1 ∧ p.Reads row.2
  table : ∀ (console : Console) (table : Table) (text : String), console.color = false →
    20 ≤ console.width → p.print console (.table table) = .ok text →
      ∃ widths blocks, text = unlines blocks.flatten ∧ p.LaysOut console table widths blocks

end Printer

end JvmDeps
