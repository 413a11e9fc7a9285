import JvmDeps.Text.Blank

set_option autoImplicit false

/-! # Paths

A path is a root and a list of components. Reading a path drops empty components and those that
are a single dot, and keeps the two dots that lead upwards. A path that starts with one slash, or
with three or more, is absolute; exactly two slashes are a root of their own.
-/

namespace JvmDeps

/-- Where a path starts. -/
inductive Root where
  | relative
  | single
  | double
deriving DecidableEq, Repr

/-- A path: where it starts, and its components. -/
structure Path where
  root : Root
  parts : List String
deriving DecidableEq, Repr

namespace Path

/-- Where a written path starts. -/
def rootOf (cs : List Char) : Root :=
  match (cs.takeWhile (· = '/')).length with
  | 0 => .relative
  | 2 => .double
  | _ => .single

/-- The components of a written path. -/
def partsOf (cs : List Char) : List String :=
  ((Text.cutWhere (· = '/') cs).map String.ofList).filter fun part => part ≠ "" && part ≠ "."

/-- Reads a path. -/
def ofText (s : String) : Path := ⟨rootOf s.toList, partsOf s.toList⟩

/-- Writes a path. -/
def text (p : Path) : String :=
  let body := "/".intercalate p.parts
  match p.root with
  | .relative => if p.parts.isEmpty then "." else body
  | .single => "/" ++ body
  | .double => "//" ++ body

/-- The path does not depend on where one is. -/
def isAbsolute (p : Path) : Bool := p.root ≠ .relative

/-- Goes on from `base` along `p`; an absolute path starts anew. -/
def join (base p : Path) : Path :=
  if p.isAbsolute then p else ⟨base.root, base.parts ++ p.parts⟩

/-- The end of a file name from its last dot on, if that is neither its first nor its last
character. -/
def suffixOf (name : List Char) : List Char :=
  let after := name.reverse.takeWhile (· ≠ '.')
  if after.isEmpty || name.length < after.length + 2 then []
  else '.' :: after.reverse

/-- The suffix of the last component. -/
def suffix (p : Path) : String :=
  String.ofList (suffixOf ((p.parts.getLast?.getD "").toList))

/-- The last component ends like the name of an archive, in whatever case. -/
def namesArchive (p : Path) : Bool :=
  let ending := String.ofList (p.suffix.toList.map Char.toLower)
  ending == ".jar" || ending == ".zip"

end Path

end JvmDeps
