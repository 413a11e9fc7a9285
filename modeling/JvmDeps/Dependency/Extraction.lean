import JvmDeps.Dependency.Analysis
import JvmDeps.Dependency.Table

set_option autoImplicit false

/-! # Extraction from one class

`extract` computes the requested categories of a class and stops at the first failure. `survey`
computes them independently and keeps what each came to (`Survey`).

A request is a list of categories, or none for all of them. It is checked as a whole before
anything is computed, and a category that is asked for twice is computed once.
-/

namespace JvmDeps

/-- The requested categories, each once, in the order in which they were first asked for. -/
def selectCategories : Option (List Requested) → Except Fault (List Category)
  | none => .ok Category.all
  | some requested => (go requested).map List.eraseDups
where
  /-- The categories of a request, unless it asks for something else. -/
  go : List Requested → Except Fault (List Category)
    | [] => .ok []
    | .category c :: rest => (go rest).map (c :: ·)
    | .other value :: _ => .error (.misuse (.notACategory value.shown))

/-- The option that keeps a class among its own dependencies. It must be a flag. -/
def includeSelfOf : RawValue → Except Fault Bool
  | .flag b => .ok b
  | _ => .error (.misuse .includeSelfNotFlag)

namespace ClassDecl

/-- The dependencies of some categories, in order, up to the first failure. -/
def dependenciesOf (c : ClassDecl) (includeSelf : Bool) :
    List Category → Except DependencyError (List (Category × NameSet))
  | [] => .ok []
  | category :: rest => do
    let names ← c.dependenciesIn includeSelf category
    let more ← c.dependenciesOf includeSelf rest
    return (category, names) :: more

/-- The table of the requested categories. The names are checked after all were computed. -/
def extract (c : ClassDecl) (includeSelf : Bool) (requested : Option (List Requested)) :
    Except Fault DependencyTable := do
  let selected ← selectCategories requested
  let entries ← (c.dependenciesOf includeSelf selected).mapError .failure
  DependencyTable.make c.dottedName (.ofList entries)

/-- All dependencies, of every category. -/
def allDependencies (c : ClassDecl) (includeSelf : Bool) : Except Fault NameSet :=
  (c.extract includeSelf none).map (·.merged)

end ClassDecl

/-! ## Surveys -/

/-- What each category of a class came to. -/
structure Survey where
  /-- The dotted name of the class. -/
  className : String
  /-- The names of each category, or why there are none, in the order of computation. -/
  outcomes : OrderedMap Category (Except Fault NameSet)

namespace Survey

/-- The survey of a class, unless the class lacks a name. -/
def make (className : String) (outcomes : OrderedMap Category (Except Fault NameSet)) :
    Except Fault Survey :=
  if className = "" then .error (.misuse .emptyTableName) else .ok ⟨className, outcomes⟩

/-- The categories that failed, with their faults. -/
def errors (s : Survey) : OrderedMap Category Fault :=
  s.outcomes.filterMapValues fun
    | .ok _ => none
    | .error e => some e

/-- Every category succeeded. -/
def complete (s : Survey) : Bool := s.errors.entries.isEmpty

/-- The table of the categories that succeeded. -/
def table (s : Survey) : Except Fault DependencyTable :=
  DependencyTable.make s.className (s.outcomes.filterMapValues Except.toOption)

end Survey

/-- What each requested category of a class comes to. -/
def ClassDecl.survey (c : ClassDecl) (includeSelf : Bool) (requested : Option (List Requested)) :
    Except Fault Survey := do
  let selected ← selectCategories requested
  Survey.make c.dottedName <| .ofList <| selected.map fun category =>
    (category, (c.dependenciesIn includeSelf category).mapError .failure)

end JvmDeps
