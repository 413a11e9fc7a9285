import JvmDeps.Data.RawValue
import JvmDeps.Fault
import JvmDeps.Files.Path
import JvmDeps.Text.Split

set_option autoImplicit false

/-! # Search paths

The places in which classes are looked for, in order: directories and archives. There is at least
one. A search path is read from a text with separators (`SearchPath.ofText`), from a setting
(`SearchPath.ofSetting`), or from the places themselves (`SearchPath.ofArguments`).

Blank entries of a text or a setting are dropped, and relative ones start from a base directory.
-/

namespace JvmDeps

/-- The places in which classes are looked for, in order. -/
structure SearchPath where
  entries : List Path
  /-- There is at least one place. -/
  nonempty : entries ≠ []

namespace SearchPath

/-- The search path of some places. -/
def ofEntries (entries : List Path) : Except Fault SearchPath :=
  if h : entries = [] then .error (.misuse .emptySearchPath) else .ok ⟨entries, h⟩

/-- What a caller hands over as a place. -/
inductive Argument where
  | path (p : Path)
  | other (value : RawValue)

/-- The places among some arguments, which must all be places. -/
def pathsOf : List Argument → Except Fault (List Path)
  | [] => .ok []
  | .path p :: rest => (pathsOf rest).map (p :: ·)
  | .other value :: _ => .error (.misuse (.notAPath value.kindName))

/-- The search path of some arguments. -/
def ofArguments (arguments : List Argument) : Except Fault SearchPath := do
  let entries ← pathsOf arguments
  ofEntries entries

/-- The places of the entries of a text, one after the other. A blank entry is passed over, and a
relative one starts from the base, if there is one. -/
def placesOf (base : Option Path) : List String → List Path
  | [] => []
  | entry :: entries =>
    let written := Text.trim entry
    if written = "" then placesOf base entries
    else
      let path := Path.ofText written
      let place :=
        match base with
        | some directory => if path.isAbsolute then path else directory.join path
        | none => path
      place :: placesOf base entries

/-- Reads a search path from a text with separators. -/
def ofText (text separator : String) (base : Option Path) : Except Fault SearchPath :=
  match Text.split? separator text with
  | none => .error (.misuse .emptySeparator)
  | some entries => ofEntries (placesOf base entries)

/-- The entries of a setting: the items of a list, or the words of a text. -/
def settingEntries : RawValue → List String
  | .list items => items.map RawValue.plain
  | value => if value.truth then Text.words value.plain else []

/-- The paths in the entries of a setting, without the blank ones. -/
def settingPaths (entries : List String) : List Path :=
  (entries.filter fun s => Text.trim s ≠ "").map fun s => Path.ofText (Text.trim s)

/-- Reads a search path from a setting, which must have an entry that is not blank. Relative entries
start from the root. -/
def ofSetting (value : RawValue) (root : Path) : Except Fault SearchPath :=
  let entries := settingEntries value
  if entries.any fun s => Text.trim s ≠ "" then
    ofEntries ((settingPaths entries).map fun path =>
      if path.isAbsolute then path else root.join path)
  else .error (.misuse .notConfigured)

/-- The places, written. -/
def scope (s : SearchPath) : List String := s.entries.map Path.text

end SearchPath

end JvmDeps
