import JvmDeps.Data.OrderedMap
import JvmDeps.Data.SortedSet
import JvmDeps.Dependency.Category
import JvmDeps.Fault

set_option autoImplicit false

/-! # Dependency tables

The dependencies of one class, by category. Only categories that were computed are there; one that
was computed and found nothing has an empty set. Every name is a valid dotted name, and the class
has a name: both are part of the type, and `DependencyTable.make` is the check.

Tables of one class can be united (`union`), category by category.
-/

namespace JvmDeps

/-- The dependencies of one class, by category. -/
structure DependencyTable where
  /-- The dotted name of the class. -/
  className : String
  /-- The names of each computed category, in the order of computation. -/
  byCategory : OrderedMap Category NameSet
  /-- The class has a name. -/
  named : className ≠ ""
  /-- Every name is valid. -/
  valid : ∀ e ∈ byCategory.entries, ∀ name ∈ e.2.toList, Name.defect? name = none

namespace DependencyTable

/-- The failure of a name that is no dependency. -/
def nameFailure? (name : String) : Option DependencyError :=
  (Name.defect? name).map (.ofNameDefect name)

/-- The first invalid name, category by category. -/
def firstFailure? (m : OrderedMap Category NameSet) : Option DependencyError :=
  m.entries.findSome? fun e => e.2.toList.findSome? nameFailure?

theorem defect?_eq_none_of_firstFailure? {m : OrderedMap Category NameSet}
    (h : firstFailure? m = none) :
    ∀ e ∈ m.entries, ∀ name ∈ e.2.toList, Name.defect? name = none := by
  intro e he name hname
  have := List.findSome?_eq_none_iff.1 (List.findSome?_eq_none_iff.1 h e he) name hname
  simpa [nameFailure?] using this

/-- The table of a class, unless the class lacks a name or one of the names is invalid. -/
def make (className : String) (byCategory : OrderedMap Category NameSet) :
    Except Fault DependencyTable :=
  if hname : className = "" then .error (.misuse .emptyTableName)
  else
    match hfail : firstFailure? byCategory with
    | some e => .error (.failure e)
    | none => .ok ⟨className, byCategory, hname, defect?_eq_none_of_firstFailure? hfail⟩

/-- The categories among requested entries, each with its names. -/
def knownEntries (entries : List (Requested × List String)) : List (Category × NameSet) :=
  entries.filterMap fun
    | (.category c, names) => some (c, .ofList names)
    | (.other _, _) => none

/-- What is requested first that is no category. -/
def firstOther? (entries : List (Requested × List String)) : Option RawValue :=
  entries.findSome? fun
    | (.category _, _) => none
    | (.other value, _) => some value

/-- The requested entries in front of the first that is no category. -/
def leadingEntries : List (Requested × List String) → List (Requested × List String)
  | (.category c, names) :: entries => (.category c, names) :: leadingEntries entries
  | _ => []

/-- What is requested must be a key. -/
def checkKey : Requested → Except Fault Unit
  | .category _ => .ok ()
  | .other value => if value.isKey then .ok () else .error (.misuse (.notAKey value.kindName))

/-- The table of requested entries, which must all be under keys. What is no category is refused at
its turn, after the names of the categories in front of it. -/
def ofRequested (className : String) (entries : List (Requested × List String)) :
    Except Fault DependencyTable := do
  entries.forM fun e => checkKey e.1
  let known := OrderedMap.ofList (knownEntries entries)
  match firstOther? entries with
  | none => make className known
  | some value => do
    let leading := OrderedMap.ofList (knownEntries (leadingEntries entries))
    let _ ← make className
      (OrderedMap.ofList (known.entries.filter fun e => leading.contains e.1))
    .error (.misuse (.notACategory value.shown))

/-- The categories that were computed, in the order of computation. -/
def categories (t : DependencyTable) : List Category := t.byCategory.keys

/-- The names of a category; none if it was not computed. -/
def get? (t : DependencyTable) (c : Category) : Option NameSet := t.byCategory.get? c

/-- The names of a category, no names if it was not computed. -/
def get (t : DependencyTable) (c : Category) : NameSet := (t.get? c).getD ∅

/-- The names of what is requested, which must be a category that was computed. -/
def find (t : DependencyTable) (requested : Requested) : Except Fault NameSet := do
  checkKey requested
  match requested with
  | .category c => (t.get? c).elim (.error (.misuse .noEntry)) .ok
  | .other _ => .error (.misuse .noEntry)

/-- The names of what is requested, no names if it is not a category that was computed. -/
def findD (t : DependencyTable) (requested : Requested) : Except Fault NameSet := do
  checkKey requested
  match requested with
  | .category c => return t.get c
  | .other _ => return ∅

/-- The names of all categories. -/
def merged (t : DependencyTable) : NameSet :=
  t.byCategory.values.foldl (· ∪ ·) ∅

/-- The number of different names. -/
def size (t : DependencyTable) : Nat := t.merged.size

/-- The name is in some category. -/
def contains (t : DependencyTable) (name : String) : Bool :=
  t.byCategory.values.any fun names => names.toList.contains name

/-- Two tables agree: the same class, and the same names for the same categories, in whatever order
they were computed. -/
def agrees (s t : DependencyTable) : Bool :=
  s.className == t.className && Category.all.all fun c => s.get? c == t.get? c

/-- Adds the names of a category to those it has. -/
def addNames (m : OrderedMap Category NameSet) (e : Category × NameSet) :
    OrderedMap Category NameSet :=
  m.insert e.1 ((m.get? e.1).getD ∅ ∪ e.2)

/-- Unites two tables of one class, category by category: first the categories of the left table,
then those that only the right one has. -/
def union (s t : DependencyTable) : Except Fault DependencyTable :=
  if s.className = t.className then
    make s.className (t.byCategory.entries.foldl addNames s.byCategory)
  else .error (.misuse (.unionOfOther s.className t.className))

end DependencyTable

end JvmDeps
