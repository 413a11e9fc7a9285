import JvmDeps.Dependency.Batch
import JvmDeps.Report.Printer

set_option autoImplicit false

/-! # Terminal reports

What a printer is asked for to show tables and batches on a terminal of a given width. A class is a
line with its name and the number of its dependencies, and a table of two columns: the category and
the name. A batch is a headed list of classes, followed by the failures.

Class names and table cells are handed over as markup; the lines of failures are not.
-/

namespace JvmDeps

/-- How a terminal report is made. -/
structure Terminal where
  /-- Categories that found nothing are shown. -/
  showEmpty : Bool
  color : Bool
  /-- The cells of a line. -/
  width : Nat
  /-- There is room for the headings. -/
  wide : 20 ≤ width
deriving Repr

namespace Terminal

/-- A terminal of a width, which must not be too narrow. -/
def make (showEmpty color : Bool) (width : Int) : Except Fault Terminal :=
  if h : 20 ≤ width then .ok ⟨showEmpty, color, width.toNat, by omega⟩
  else .error (.misuse (.narrowWidth width))

/-- The device that is written to. -/
def console (t : Terminal) : Console := ⟨t.color, t.width⟩

/-! ## Classes -/

/-- The markup of the line about a class. -/
def titleMarkup (table : DependencyTable) : String :=
  "[bold cyan]" ++ table.className ++ "[/bold cyan] (" ++ toString table.size ++ " dependencies)"

/-- The rows of some names; only the first shows the category. -/
def labelled (label : String) : List String → List (String × String)
  | [] => []
  | name :: names => (label, name) :: labelled "" names

/-- The rows of a category. -/
def categoryRows (t : Terminal) (category : Category) (names : NameSet) : List (String × String) :=
  if names.toList.isEmpty then if t.showEmpty then [(category.word, "[dim]-[/dim]")] else []
  else labelled category.word names.toList

/-- The rows of a table: of the computed categories, in the order of all categories. -/
def rows (t : Terminal) (table : DependencyTable) : List (String × String) :=
  Category.all.flatMap fun category => (table.get? category).elim [] (t.categoryRows category)

/-- The table of the names of a class. -/
def listing (t : Terminal) (table : DependencyTable) : Table where
  headingStyle := "bold"
  first := ⟨"Category", "yellow"⟩
  second := ⟨"Type", ""⟩
  rows := t.rows table

/-- What is printed about a class. -/
def classCalls (t : Terminal) (table : DependencyTable) : List Call :=
  [.markup (titleMarkup table), .table (t.listing table), .newline]

/-! ## Batches -/

/-- How many classes there are, and how many of each outcome. -/
def summary (b : Batch) : String :=
  "[bold]Classes:[/bold] " ++ toString b.outcomes.size ++ "  [green]ok:[/green] " ++
    toString b.succeeded.size ++ "  [red]failed:[/red] " ++ toString b.failed.size

/-- The line of a failure. -/
def failureText (failure : String × Fault) : String :=
  "  " ++ failure.1 ++ ": " ++ failure.2.kindName ++ ": " ++ failure.2.message

/-- What is printed about the failures, one line each. -/
def failureCalls (failures : List (String × Fault)) : List Call :=
  if failures.isEmpty then []
  else
    .markup ("[bold red]ERRORS[/bold red] (" ++ toString failures.length ++ ")") ::
      failures.map (fun failure => .plain (failureText failure)) ++ [.newline]

/-- What is printed about a batch. -/
def batchCalls (t : Terminal) (b : Batch) : List Call :=
  [.rule "[bold]DEPENDENCIES[/bold]", .markup (summary b), .newline] ++
    b.succeeded.values.flatMap t.classCalls ++ failureCalls b.failed.entries

end Terminal

end JvmDeps
