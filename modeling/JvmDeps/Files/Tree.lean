import JvmDeps.Bytes.Parser
import JvmDeps.Data.OrderedMap
import JvmDeps.Files.Path

set_option autoImplicit false

/-! # File systems and file trees

A file system says what stands at a path: a directory, a file with its bytes, a file that cannot be
read, or nothing. It refuses a path with a name that is too long, if it comes as far as that name. A
`FileTree` is a finite one: the files and directories below the current directory, all of them
readable. Two dots lead from a directory to the one above it; nothing is known above the current
directory.
-/

namespace JvmDeps

/-- What stands at a path. -/
inductive Node where
  | directory
  | file (bytes : Bytes)
  /-- A file whose bytes cannot be had, with the words of the file system for why. -/
  | unreadable (reason : String)
  /-- The path cannot be followed, because a name in it is too long. -/
  | overlong
deriving DecidableEq, Repr

/-- What stands where. -/
abbrev FileSystem := Path → Option Node

/-- The files and directories below the current directory, by their components. -/
structure FileTree where
  directories : List (List String)
  files : OrderedMap (List String) Bytes

namespace FileTree

/-- The current directory is empty. -/
def empty : FileTree := ⟨[], ∅⟩

/-- A directory stands at the place. -/
def isDirectory (t : FileTree) (place : List String) : Bool :=
  place.isEmpty || t.directories.contains place

/-- What stands at a place. -/
def node? (t : FileTree) (place : List String) : Option Node :=
  if t.isDirectory place then some .directory else (t.files.get? place).map .file

/-- The most bytes of a name. -/
def maxName : Nat := 255

/-- The most bytes of a path. -/
def maxPath : Nat := 4095

/-- What components lead to that start above the tree: the directories there are known, but nothing
in them. -/
def followOutside : List String → Option Node
  | [] => some .directory
  | part :: parts =>
    if maxName < part.utf8ByteSize then some .overlong
    else if part = ".." then followOutside parts
    else none

/-- What components lead to, from a place on. -/
def follow (t : FileTree) : (place : List String) → List String → Option Node
  | place, [] => t.node? place
  | place, part :: parts =>
    if !t.isDirectory place then none
    else if maxName < part.utf8ByteSize then some .overlong
    else if part = ".." then
      if place.isEmpty then followOutside parts else t.follow place.dropLast parts
    else t.follow (place ++ [part]) parts

/-- The file system of a tree. A null character ends every search. -/
def fileSystem (t : FileTree) : FileSystem := fun p =>
  if p.parts.any (·.contains '\x00') then none
  else if maxPath < p.text.utf8ByteSize then some .overlong
  else if p.isAbsolute then followOutside p.parts
  else t.follow [] p.parts

/-- Makes a directory and those above it. -/
def addDirectory (t : FileTree) (place : List String) : FileTree :=
  let above := (List.range place.length).map fun n => place.take (n + 1)
  { t with directories := above ++ t.directories }

/-- Writes a file, and makes the directories above it. -/
def write (t : FileTree) (place : List String) (bytes : Bytes) : FileTree :=
  let t := t.addDirectory place.dropLast
  { t with files := t.files.insert place bytes }

/-- Deletes a file. -/
def delete (t : FileTree) (place : List String) : FileTree :=
  { t with files := t.files.erase place }

/-- The tree with some files and directories. -/
def ofLists (directories : List String) (files : List (String × Bytes)) : FileTree :=
  let t := directories.foldl (fun t d => t.addDirectory (Path.ofText d).parts) empty
  files.foldl (fun t f => t.write (Path.ofText f.1).parts f.2) t

end FileTree

end JvmDeps
