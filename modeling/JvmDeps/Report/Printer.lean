import JvmDeps.Fault

set_option autoImplicit false

/-! # Printers

What writes a report to a console: texts and tables of two columns, in which styles are asked for by
markup and by name. The printer is a library that the reports only use, so it is a parameter
(`Printer`); `Printer.printAll` is what some calls write together.
-/

namespace JvmDeps

/-- What is known of the device that is written to. -/
structure Console where
  color : Bool
  /-- The cells of a line. -/
  width : Nat
deriving DecidableEq, Repr

/-- A column of a table. -/
structure Column where
  /-- The markup of its heading. -/
  heading : String
  /-- The name of the style of its cells; empty for none. -/
  style : String
deriving DecidableEq, Repr

/-- A table of two columns, without lines around its cells. -/
structure Table where
  /-- The name of the style of the headings. -/
  headingStyle : String
  first : Column
  second : Column
  /-- The markup of the cells, row by row. -/
  rows : List (String × String)
deriving DecidableEq, Repr

/-- What can be asked of a printer. -/
inductive Call where
  /-- A text that is read as markup. -/
  | markup (text : String)
  /-- A text as it is. -/
  | plain (text : String)
  /-- An empty line. -/
  | newline
  /-- A line across the console with a title in its middle, which is read as markup. -/
  | rule (title : String)
  | table (content : Table)
deriving DecidableEq, Repr

/-- A printer, by what it writes for each call, or the fault that it raises. -/
structure Printer where
  print : Console → Call → Except Fault String
  /-- The text that markup stands for. -/
  markup : String → Except Fault String
  /-- The cells of a text on the console. -/
  cells : List Char → Nat

namespace Printer

/-- What is written for some calls in turn; a fault ends them, and nothing is left. -/
def printAll (p : Printer) (console : Console) : List Call → Except Fault String
  | [] => .ok ""
  | call :: calls => do
    let text ← p.print console call
    let more ← p.printAll console calls
    return text ++ more

end Printer

end JvmDeps
