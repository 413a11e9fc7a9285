import JvmDeps.Report.Reporter
import JvmDeps.Repository.Extraction

set_option autoImplicit false

/-! # Sessions

A session works on a repository step by step: it takes and gives back classes, extracts and reports,
and may change the files meanwhile. A step that fails leaves the session to the next. A class can be
held while other steps run, and is given back after them, also if the holder raises a fault.

Loaded classes are numbered by first appearance, so that it shows whether two steps were given the
same object.
-/

namespace JvmDeps

/-- The state of a session. -/
structure Session where
  repository : Repository
  files : FileTree
  /-- The number of levels of a value that reading a class may go down. -/
  depth : Nat
  /-- A class is kept among its own dependencies. -/
  includeSelf : Bool
  /-- The classes that steps have taken under a handle. -/
  handles : OrderedMap String Loaded
  /-- The identities of the classes that have appeared, in order. -/
  seen : List Nat

namespace Session

/-- The start of a session. -/
def start (repository : Repository) (files : FileTree) (depth : Nat) (includeSelf : Bool) :
    Session :=
  ⟨repository, files, depth, includeSelf, ∅, []⟩

/-- A step of a session. -/
inductive Step where
  /-- Takes a class, and keeps it under a handle if one is given. -/
  | resolve (name : String) (handle : Option String)
  /-- Gives the class of a handle back. -/
  | release (handle : String)
  /-- Gives back an object that was never taken. -/
  | releaseNew (decl : ClassDecl)
  | classNames
  | close
  /-- Runs steps and closes the repository after them. -/
  | thenClose (steps : List Step)
  /-- Holds a class while steps run, and then raises a fault if one is given. -/
  | hold (name : String) (steps : List Step) (raises : Option Fault)
  | extract (name : String) (requested : Option (List Requested))
  | survey (name : String) (requested : Option (List Requested))
  | tryExtract (name : String) (requested : Option (List Requested))
  | allDependencies (name : String)
  | namesIn (category : Category) (name : String)
  | superclass (name : String)
  | signatureNames (name : String) (method descriptor : Option String)
  | batch (names : List String) (requested : Option (List Requested)) (workers : Option Int)
  | reportBatch (reporter : Reporter) (names : List String) (requested : Option (List Requested))
    (workers : Option Int)
  | report (reporter : Reporter) (name : String)
  | write (path : String) (bytes : Bytes)
  | delete (path : String)
  /-- A step that could not be made. -/
  | refused (fault : Fault)
deriving Inhabited

mutual

/-- What a step comes to. -/
inductive Answer where
  | nothing
  /-- A class that was taken, with the number of the object. -/
  | resolved (number : Nat) (decl : ClassDecl)
  /-- The replies of steps, and the number of the object held meanwhile, if any. -/
  | steps (held : Option Nat) (replies : List Reply)
  | names (s : NameSet)
  | name (s : Option String)
  | table (t : DependencyTable)
  | survey (s : Survey)
  | outcome (o : Except Fault DependencyTable)
  | batch (b : Batch)
  | text (s : String)

/-- The reply to a step: what it came to, and the classes that are leased after it. -/
inductive Reply where
  | reply (result : Except Fault Answer) (leased : NameSet)

end

/-- The number of an object, counted by first appearance. -/
def number (s : Session) (o : Loaded) : Nat × Session :=
  if o.id ∈ s.seen then (s.seen.idxOf o.id, s)
  else (s.seen.length, { s with seen := s.seen ++ [o.id] })

/-- What a session runs on. -/
def host (s : Session) : Host := ⟨s.files.fileSystem, s.depth⟩

/-- Runs an operation of the repository. -/
def perform {α : Type} (s : Session) (operation : Repository → Except Fault α × Repository)
    (answer : α → Answer) : Except Fault Answer × Session :=
  match operation s.repository with
  | (result, repository) => (result.map answer, { s with repository })

/-- Takes a class and numbers it. -/
def take (s : Session) (name : String) : Except Fault (Nat × Loaded) × Session :=
  match s.repository.resolve s.host name with
  | (.error fault, repository) => (.error fault, { s with repository })
  | (.ok o, repository) =>
    match number { s with repository } o with
    | (n, s) => (.ok (n, o), s)

/-- Gives a class back. -/
def giveBack (s : Session) (o : Loaded) : Session :=
  { s with repository := s.repository.release o }

/-- Takes a class, and keeps it under a handle if one is given. -/
def takeAs (s : Session) (name : String) (handle : Option String) : Except Fault Answer × Session :=
  match s.take name with
  | (.error fault, s) => (.error fault, s)
  | (.ok (n, o), s) =>
    (.ok (.resolved n o.decl),
      { s with handles := handle.elim s.handles fun h => s.handles.insert h o })

/-- Gives the class of a handle back. -/
def giveBackHandle (s : Session) (handle : String) : Except Fault Answer × Session :=
  match s.handles.get? handle with
  | some o => (.ok .nothing, s.giveBack o)
  | none => (.error (.misuse .noEntry), s)

/-- Gives back a new object, with a number that no loaded class has. -/
def giveBackNew (s : Session) (decl : ClassDecl) : Session :=
  s.giveBack ⟨s.repository.nextId, decl⟩

/-- Extracts from a class and reports the table. -/
def reportOn (s : Session) (reporter : Reporter) (name : String) : Except Fault Answer × Session :=
  match s.repository.extract s.host s.includeSelf name none with
  | (result, repository) =>
    ((result >>= reporter.report).map .text, { s with repository })

/-- Extracts from a batch of classes and reports it. -/
def reportOnBatch (s : Session) (reporter : Reporter) (names : List String)
    (requested : Option (List Requested)) (workers : Option Int) : Except Fault Answer × Session :=
  match s.repository.batch s.host s.includeSelf names requested workers with
  | (result, repository) =>
    ((result >>= reporter.reportBatch).map .text, { s with repository })

/-- The reply that shows the leases after a step. -/
def replyOf (result : Except Fault Answer × Session) : Reply × Session :=
  (.reply result.1 result.2.repository.leased, result.2)

mutual

/-- Runs a step: what it comes to, and the session after it. -/
def Step.run (s : Session) : Step → Except Fault Answer × Session
  | .resolve name handle => s.takeAs name handle
  | .release handle => s.giveBackHandle handle
  | .releaseNew decl => (.ok .nothing, s.giveBackNew decl)
  | .classNames => (.ok (.names s.repository.classNames), s)
  | .close => (.ok .nothing, { s with repository := s.repository.close })
  | .thenClose steps =>
    match runAll s steps with
    | (replies, s) =>
      (.ok (.steps none replies), { s with repository := s.repository.close })
  | .hold name steps raises =>
    match s.take name with
    | (.error fault, s) => (.error fault, s)
    | (.ok (n, o), s) =>
      match runAll s steps with
      | (replies, s) =>
        (raises.elim (.ok (.steps (some n) replies)) .error, s.giveBack o)
  | .extract name requested =>
    s.perform (Repository.extract s.host s.includeSelf name requested) .table
  | .survey name requested =>
    s.perform (Repository.survey s.host s.includeSelf name requested) .survey
  | .tryExtract name requested =>
    s.perform (Repository.tryExtract s.host s.includeSelf name requested) .outcome
  | .allDependencies name =>
    s.perform (Repository.allDependencies s.host s.includeSelf name) .names
  | .namesIn category name =>
    s.perform (Repository.namesIn s.host s.includeSelf category name) .names
  | .superclass name => s.perform (Repository.superclass s.host name) .name
  | .signatureNames name method descriptor =>
    s.perform (Repository.signatureNames s.host s.includeSelf name method descriptor) .names
  | .batch names requested workers =>
    s.perform (Repository.batch s.host s.includeSelf names requested workers) .batch
  | .reportBatch reporter names requested workers =>
    s.reportOnBatch reporter names requested workers
  | .report reporter name => s.reportOn reporter name
  | .write path bytes =>
    (.ok .nothing, { s with files := s.files.write (Path.ofText path).parts bytes })
  | .delete path => (.ok .nothing, { s with files := s.files.delete (Path.ofText path).parts })
  | .refused fault => (.error fault, s)

/-- Runs steps one after the other. -/
def runAll (s : Session) : List Step → List Reply × Session
  | [] => ([], s)
  | step :: steps =>
    match replyOf (step.run s) with
    | (reply, s) =>
      match runAll s steps with
      | (replies, s) => (reply :: replies, s)

end

end Session

end JvmDeps
