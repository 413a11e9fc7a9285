import JvmDeps.Printing.Layout

set_option autoImplicit false

/-! # The standard printer

A printer for consoles of 256 colors. Markup that is refused is a fault of the call, which then
writes nothing; a style that is none is the plain one.
-/

namespace JvmDeps

/-- The fault of markup with a defect. -/
def MarkupDefect.fault : MarkupDefect → Fault
  | .malformed => .misuse .badMarkup
  | .badPart text => .misuse (.badNumber text)

namespace Printer

/-- Reads markup. -/
def readMarkup (text : String) : Except Fault StyledText :=
  (Markup.render text).mapError MarkupDefect.fault

/-- The style of a name; the plain one if it is none. -/
def styleNamed (name : String) : Style := (Style.find name).toOption.getD .plain

/-- Writes a table. The markup is read column by column, each with its heading first. -/
def printTable (console : Console) (table : Table) : Except Fault String := do
  let firstHeading ← readMarkup table.first.heading
  let first ← table.rows.mapM fun row => readMarkup row.1
  let secondHeading ← readMarkup table.second.heading
  let second ← table.rows.mapM fun row => readMarkup row.2
  return console.tableLines (styleNamed table.headingStyle)
    (styleNamed table.first.style, styleNamed table.second.style)
    (firstHeading, secondHeading) (first.zip second)

/-- Writes what a call asks for. In a plain text only emoji are replaced. -/
def printCall (console : Console) : Call → Except Fault String
  | .markup text => (readMarkup text).map console.textLines
  | .plain text => .ok (console.textLines ⟨Markup.shown text.toList, []⟩)
  | .newline => .ok "\n"
  | .rule title => (readMarkup title).map console.rule
  | .table content => printTable console content

/-- The standard printer. -/
def standard : Printer where
  print := printCall
  markup text := (readMarkup text).map fun shown => String.ofList shown.chars
  cells := Text.cells

end Printer

end JvmDeps
