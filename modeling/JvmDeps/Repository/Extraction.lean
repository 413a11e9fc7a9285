import JvmDeps.Dependency.Batch
import JvmDeps.Dependency.Extraction
import JvmDeps.Repository.Basic

set_option autoImplicit false

/-! # Extraction from a repository

Every operation leases the class of a name, works on its declaration, and gives the class back,
whatever the work came to (`Repository.withClass`). An operation takes the repository before it and
gives what it came to, and the repository after it.
-/

namespace JvmDeps.Repository

/-- Works on the class of a name and gives it back. -/
def withClass {α : Type} (host : Host) (name : String) (work : ClassDecl → Except Fault α)
    (r : Repository) : Except Fault α × Repository :=
  match r.resolve host name with
  | (.error fault, r) => (.error fault, r)
  | (.ok o, r) => (work o.decl, r.release o)

/-- The table of the requested categories of a class. -/
def extract (host : Host) (includeSelf : Bool) (name : String)
    (requested : Option (List Requested)) :
    Repository → Except Fault DependencyTable × Repository :=
  withClass host name fun c => c.extract includeSelf requested

/-- What each requested category of a class comes to. -/
def survey (host : Host) (includeSelf : Bool) (name : String)
    (requested : Option (List Requested)) : Repository → Except Fault Survey × Repository :=
  withClass host name fun c => c.survey includeSelf requested

/-- Keeps a failure of the analysis as an outcome; any other fault remains one. -/
def keepFailure {α : Type} : Except Fault α → Except Fault (Except Fault α)
  | .error (.failure e) => .ok (.error (.failure e))
  | .error fault => .error fault
  | .ok a => .ok (.ok a)

/-- The table of the requested categories of a class, or why there is none. -/
def tryExtract (host : Host) (includeSelf : Bool) (name : String)
    (requested : Option (List Requested)) (r : Repository) :
    Except Fault (Except Fault DependencyTable) × Repository :=
  match r.extract host includeSelf name requested with
  | (result, r) => (keepFailure result, r)

/-! ## By category -/

/-- The names of a single category of a class. -/
def namesIn (host : Host) (includeSelf : Bool) (category : Category) (name : String) :
    Repository → Except Fault NameSet × Repository :=
  withClass host name fun c =>
    (c.extract includeSelf (some [.category category])).map (·.get category)

/-- All dependencies of a class. -/
def allDependencies (host : Host) (includeSelf : Bool) (name : String) :
    Repository → Except Fault NameSet × Repository :=
  withClass host name fun c => c.allDependencies includeSelf

/-- The superclass of a class; the root class has none. -/
def superclass (host : Host) (name : String) :
    Repository → Except Fault (Option String) × Repository :=
  withClass host name fun c => .ok c.superclass?

/-- The classes in the types of the selected methods of a class. -/
def signatureNames (host : Host) (includeSelf : Bool) (name : String)
    (method descriptor : Option String) : Repository → Except Fault NameSet × Repository :=
  withClass host name fun c => (c.selectedNames method descriptor).map (c.dropSelf includeSelf)

/-! ## Batches -/

/-- Puts the outcome of a class in front of others. A fault that is no failure of the analysis is
that of the whole. -/
def gather {α : Type} (name : String) (outcome : Except Fault α)
    (rest : Except Fault (List (String × α))) : Except Fault (List (String × α)) := do
  let a ← outcome
  let entries ← rest
  return (name, a) :: entries

/-- What each of some classes comes to, one after the other. All of them are worked on, also if one
comes to a fault that is no failure of the analysis. -/
def outcomes (host : Host) (includeSelf : Bool) (requested : Option (List Requested)) :
    List String → Repository →
      Except Fault (List (String × Except Fault DependencyTable)) × Repository
  | [], r => (.ok [], r)
  | name :: names, r =>
    match r.tryExtract host includeSelf name requested with
    | (outcome, r) =>
      match outcomes host includeSelf requested names r with
      | (rest, r) => (gather name outcome rest, r)

/-- The batch of some classes, each once. If a number of workers is given, it must be positive. -/
def batch (host : Host) (includeSelf : Bool) (names : List String)
    (requested : Option (List Requested)) (workers : Option Int) (r : Repository) :
    Except Fault Batch × Repository :=
  match workers.filter (· < 1) with
  | some n => (.error (.misuse (.workerCount n)), r)
  | none =>
    match outcomes host includeSelf requested names.eraseDups r with
    | (entries, r) => (entries.map fun entries => ⟨.ofList entries⟩, r)

end JvmDeps.Repository
