import JvmDeps.Archive.Directory
import JvmDeps.ClassFile.Declaration
import JvmDeps.Data.RawValue
import JvmDeps.Files.Tree
import JvmDeps.Lease.Table
import JvmDeps.SearchPath

set_option autoImplicit false

/-! # Repositories

A repository finds classes by name and leases them. It holds its classes in memory, or looks for
them in the places of a search path. Names may be given in dotted or internal form.

In memory, a class is an object, which is always the same, or bytes, which are read again whenever
no lease is open. On a search path, the first place that has the class decides: a directory that
has the file, or an archive that has the member. What is found must declare the class that was asked
for. An archive is opened when it is needed for the first time, and then stays as it was, but is
passed over while there is no file at its path. A file that is there and cannot be read decides as
well: it is found, and is a fault.
-/

namespace JvmDeps

/-- A class held in memory. -/
inductive Stored where
  | object (o : Loaded)
  | bytes (b : Bytes)

/-- Where a repository has its classes from. -/
inductive Content where
  /-- Classes by internal name. -/
  | memory (classes : OrderedMap String Stored)
  | places (path : SearchPath)

/-- The archives that were opened, by their paths. -/
abbrev OpenArchives := OrderedMap Path Archive

/-- What a repository runs on: the files, and the number of levels of a value that reading a class
may go down. -/
structure Host where
  files : FileSystem
  depth : Nat

/-- A repository: its content, its open leases, the archives that it opened, the number for the next
class that is loaded, and whether it was closed. -/
structure Repository where
  content : Content
  leases : LeaseTable
  archives : OpenArchives
  nextId : Nat
  closed : Bool

/-! ## Places -/

namespace SearchPath

/-- The failure of a file that is no archive. -/
def invalidArchive (entry : Path) (reason : String) : Fault :=
  .failure (.badClassFile entry.text ("not a valid archive: " ++ reason))

/-- The fault of an archive that cannot be opened. -/
def openFault (entry : Path) : Archive.OpenFault → Fault
  | .undecodableName => .misuse .undecodable
  | .laterVersion version => .misuse (.laterArchive version)
  | f => invalidArchive entry f.text

/-- The fault of a member that cannot be read. -/
def memberFault (source member : String) : Archive.MemberFault → Fault
  | .undecodableName => .misuse .undecodable
  | .encrypted => .misuse (.encryptedMember member)
  | .unreachableHeader => .misuse .unreachableMember
  | .badCoded cause => .misuse (.badRangeCode cause.text)
  | f => .failure (.badClassFile source ("corrupt archive member: " ++ f.text))

/-- Bytes that were found, with where they come from; none if there are none. -/
abbrev Found := Option (Bytes × String)

/-- What reading a file gives: its bytes, or why they cannot be had. -/
abbrev FileContent := Except String Bytes

/-- The archive at a place, which has some content now: the one that was opened, if any. -/
def openArchive (archives : OpenArchives) (entry : Path) (content : FileContent) :
    Except Fault Archive × OpenArchives :=
  match archives.get? entry with
  | some archive => (.ok archive, archives)
  | none =>
    match content with
    | .error reason => (.error (invalidArchive entry reason), archives)
    | .ok bytes =>
      match Archive.ofBytes bytes with
      | .error f => (.error (openFault entry f), archives)
      | .ok archive => (.ok archive, archives.insert entry archive)

/-- The bytes of a member of an archive. -/
def readMember (entry : Path) (archive : Archive) (member : String) : Except Fault Found :=
  let source := entry.text ++ "!/" ++ member
  match archive.read? member with
  | .error f => .error (memberFault source member f)
  | .ok data => .ok (data.map (·, source))

/-- The bytes of a member of a directory. -/
def readDirectory (fs : FileSystem) (entry : Path) (member : String) : Except Fault Found :=
  let path := entry.join (Path.ofText member)
  match fs path with
  | some (.file bytes) => .ok (some (bytes, path.text))
  | some (.unreadable reason) =>
    .error (.failure (.badClassFile path.text ("cannot read class file: " ++ reason)))
  | some .overlong => .error (.misuse (.nameTooLong path.text))
  | some .directory | none => .ok none

/-- The bytes of a member of a file; none if the file does not have it, or is not named like an
archive. -/
def readFile (member : String) (archives : OpenArchives) (entry : Path) (content : FileContent) :
    Except Fault Found × OpenArchives :=
  if entry.namesArchive then
    match openArchive archives entry content with
    | (.ok archive, archives) => (readMember entry archive member, archives)
    | (.error fault, archives) => (.error fault, archives)
  else (.ok none, archives)

/-- The bytes of a member of a place; none if the place does not have it, or is neither a directory
nor an archive. -/
def readEntry (fs : FileSystem) (member : String) (archives : OpenArchives) (entry : Path) :
    Except Fault Found × OpenArchives :=
  match fs entry with
  | some .directory => (readDirectory fs entry member, archives)
  | some .overlong => (.error (.misuse (.nameTooLong entry.text)), archives)
  | some (.file bytes) => readFile member archives entry (.ok bytes)
  | some (.unreadable reason) => readFile member archives entry (.error reason)
  | none => (.ok none, archives)

/-- The bytes of a member of the first place that has it. -/
def readFirst (fs : FileSystem) (member : String) (archives : OpenArchives) :
    List Path → Except Fault Found × OpenArchives
  | [] => (.ok none, archives)
  | entry :: entries =>
    match readEntry fs member archives entry with
    | (.ok none, archives) => readFirst fs member archives entries
    | found => found

end SearchPath

/-! ## Making repositories -/

namespace Repository

/-- What a caller hands over as a class. -/
inductive Argument where
  | decl (c : ClassDecl)
  | bytes (b : Bytes)
  | other (value : RawValue)

/-- The classes of some arguments, numbered from `id` on. -/
def storedOf (id : Nat) : List (String × Argument) → Except Fault (List (String × Stored))
  | [] => .ok []
  | (name, .decl c) :: rest =>
    (storedOf (id + 1) rest).map ((Name.toInternal name, .object ⟨id, c⟩) :: ·)
  | (name, .bytes b) :: rest =>
    (storedOf (id + 1) rest).map ((Name.toInternal name, .bytes b) :: ·)
  | (name, .other value) :: _ => .error (.misuse (.notAClass name value.kindName))

/-- A repository in memory. Of two arguments with the same name the later counts, and so it does of
two names with the same internal form. -/
def ofArguments (arguments : Option (List (String × Argument))) : Except Fault Repository :=
  match arguments with
  | none => .error (.misuse .noClasses)
  | some arguments => do
    let classes := OrderedMap.ofList arguments
    let stored ← storedOf 0 classes.entries
    return ⟨.memory (.ofList stored), .empty, ∅, stored.length, false⟩

/-- A repository in memory that has each class under its own name. -/
def ofDecls (decls : List ClassDecl) : Except Fault Repository :=
  ofArguments (some (decls.map fun c => (c.name, .decl c)))

/-- A repository on a search path. -/
def ofSearchPath (path : SearchPath) : Repository := ⟨.places path, .empty, ∅, 0, false⟩

/-- The internal names of the classes held in memory. -/
def classNames (r : Repository) : NameSet :=
  match r.content with
  | .memory classes => .ofList classes.keys
  | .places _ => ∅

/-! ## Finding classes -/

/-- The place that messages name for classes held in memory. -/
def memoryPlace : String := "<memory>"

/-- The places that are searched, as messages name them. -/
def scope (r : Repository) : List String :=
  match r.content with
  | .memory _ => [memoryPlace]
  | .places path => path.scope

/-- What was found must declare the class that was asked for. -/
def checkName (source internal : String) (c : ClassDecl) : Except Fault ClassDecl :=
  if c.name = internal then .ok c
  else .error (.failure (.badClassFile source ("declares class " ++ Text.quoted c.name)))

/-- The class that bytes declare, which must be the one that was asked for. -/
def readChecked (depth : Nat) (source internal : String) (bytes : Bytes) :
    Except Fault ClassDecl := do
  let c ← ClassDecl.ofBytes depth source bytes
  checkName source internal c

/-- Why a name is not even looked for: the repository was closed, or cannot have it. -/
def refusal? (r : Repository) (name : String) : Option Fault :=
  match r.content with
  | .memory classes =>
    if classes.contains (Name.toInternal name) then none
    else some (.failure (.classNotFound name r.scope))
  | .places _ =>
    if r.closed then some (.misuse .closed)
    else if name = "" then some (.failure (.classNotFound name r.scope))
    else none

/-- Loads the class of a name: an object that is kept, or a new one with the next number. Archives
may be opened on the way. -/
def load (r : Repository) (host : Host) (name : String) :
    Except Fault Loaded × OpenArchives :=
  let internal := Name.toInternal name
  match r.content with
  | .memory classes =>
    let source := memoryPlace ++ "/" ++ internal ++ ".class"
    let loaded :=
      match classes.get? internal with
      | none => .error (.failure (.classNotFound name r.scope))
      | some (.object o) => (checkName source internal o.decl).map fun _ => o
      | some (.bytes b) => (readChecked host.depth source internal b).map (⟨r.nextId, ·⟩)
    (loaded, r.archives)
  | .places path =>
    match SearchPath.readFirst host.files (internal ++ ".class") r.archives path.entries with
    | (.error fault, archives) => (.error fault, archives)
    | (.ok none, archives) => (.error (.failure (.classNotFound name r.scope)), archives)
    | (.ok (some (bytes, source)), archives) =>
      ((readChecked host.depth source internal bytes).map (⟨r.nextId, ·⟩), archives)

/-- Finds and leases the class of a name. -/
def resolve (host : Host) (name : String) (r : Repository) : Except Fault Loaded × Repository :=
  let internal := Name.toInternal name
  match r.refusal? name with
  | some fault => (.error fault, r)
  | none =>
    match r.leases.bump internal with
    | some (o, leases) => (.ok o, { r with leases })
    | none =>
      match r.load host name with
      | (.error fault, archives) => (.error fault, { r with archives })
      | (.ok loaded, archives) =>
        match r.leases.commit internal loaded with
        | (o, leases) => (.ok o, { r with leases, archives, nextId := r.nextId + 1 })

/-- Gives a class back; nothing happens if it is not leased. -/
def release (r : Repository) (o : Loaded) : Repository :=
  { r with leases := (r.leases.release o).2 }

/-- Closes the repository and its archives: nothing is found in its places any more. -/
def close (r : Repository) : Repository := { r with archives := ∅, closed := true }

/-- The internal names of the leased classes. -/
def leased (r : Repository) : NameSet := r.leases.names

end Repository

end JvmDeps
