import JvmDeps.ClassFile.Layout
import JvmDeps.Fault

set_option autoImplicit false

/-! # The declaration in a class file

`ClassFile.declaration` says what class a laid-out file declares, and `ClassDecl.ofBytes` reads the
declaration from bytes. After the layout has been read, faults are looked for in this order: in the
visible annotations of the class, in bytes that are left over, in the classes among the constants,
and in the declaration itself.

The values of annotations are read by a recursion, so a reader has a `depth`: the number of levels
that the host on which it runs lets it go down. Bytes that would take it further are not told from
others by a verdict on them; reading ends in the host's own fault.
-/

namespace JvmDeps

namespace ClassFile

/-- Why no class is read from bytes. -/
inductive Refusal where
  /-- Some bytes were needed at an offset, and fewer were left. -/
  | truncated (need offset left : Nat)
  | refused (cause : Cause)
  /-- Values are nested deeper than the reader can go. -/
  | tooDeep
deriving DecidableEq, Repr

/-- The wording of a refusal. -/
def Refusal.text : Refusal → String
  | truncated need offset left =>
    "truncated: need " ++ toString need ++ " bytes at offset " ++ toString offset ++ ", have " ++
      toString left
  | refused cause => cause.text
  | tooDeep => Misuse.nestedTooDeep.message

/-- The fault of a refusal; `source` says in messages where the bytes come from. Too deep a value is
no failure of the analysis. -/
def Refusal.fault (source : String) : Refusal → Fault
  | tooDeep => .misuse .nestedTooDeep
  | r => .failure (.badClassFile source r.text)

/-- The refusal of a parser that stopped, given the number of bytes it was run on. -/
def Refusal.ofStop (total : Nat) : Stop Cause → Refusal
  | .short need left => .truncated need (total - left) left
  | .refused cause => .refused cause
  | .tooDeep => .tooDeep

/-- Runs a parser from the start of some bytes. -/
def runFrom {α : Type} (p : Parser Cause α) (bytes : Bytes) : Except Refusal (α × Bytes) :=
  (p bytes).mapError (.ofStop bytes.length)

/-- The name of the attribute that holds the visible annotations. -/
def annotationsName : String := "RuntimeVisibleAnnotations"

/-- The attribute holds the visible annotations. -/
def Attribute.isAnnotations (pool : Pool) (a : Attribute) : Bool :=
  match pool.text a.nameIndex with
  | .ok name => name == annotationsName
  | .error _ => false

/-- The annotation types in the body of an attribute, which must be used up. -/
def annotationTypes (depth : Nat) (pool : Pool) (body : Bytes) :
    Except Refusal (List String) := do
  let (entries, rest) ← runFrom (readAnnotations depth pool) body
  if rest.isEmpty then
    (Pool.collect (fun e => pool.text e.typeIndex) entries).mapError .refused
  else .error (.refused .lengthMismatch)

/-- The annotation types of a class: those of the last attribute that holds any. Every such
attribute must be readable. -/
def lastAnnotations (depth : Nat) (pool : Pool) (last : Option (List String)) :
    List Attribute → Except Refusal (Option (List String))
  | [] => .ok last
  | a :: rest =>
    if a.isAnnotations pool then do
      let types ← annotationTypes depth pool a.body
      lastAnnotations depth pool (some types) rest
    else lastAnnotations depth pool last rest

/-- The declared field of a member. -/
def Member.field (pool : Pool) (m : Member) : Except Cause FieldDecl := do
  let name ← pool.text m.nameIndex
  let descriptor ← pool.text m.descriptorIndex
  return { name, descriptor, flags := m.flags.toNat }

/-- The declared method of a member. -/
def Member.method (pool : Pool) (m : Member) : Except Cause MethodDecl := do
  let name ← pool.text m.nameIndex
  let descriptor ← pool.text m.descriptorIndex
  return { name, descriptor, flags := m.flags.toNat }

/-- The class that a file declares, given the types of its annotations. -/
def declaration (f : ClassFile) (annotations : Option (List String)) : Except Cause ClassDecl := do
  let name ← f.pool.className f.thisIndex
  let superName ←
    if f.superIndex = 0 then pure none else (f.pool.className f.superIndex).map some
  let interfaces ← Pool.collect f.pool.className f.interfaceIndexes
  let fields ← Pool.collect (Member.field f.pool) f.fields
  let methods ← Pool.collect (Member.method f.pool) f.methods
  let references ← f.pool.classNames f.constants
  let decl : ClassDecl := {
    name, superName, interfaces, fields, methods, annotations, references
    flags := f.flags.toNat
    majorVersion := f.majorVersion.toNat
    minorVersion := f.minorVersion.toNat }
  decl.check.mapError .badDeclaration

/-- Reads the class that bytes declare, with values of at most `depth` levels. -/
def readDecl (depth : Nat) (bytes : Bytes) : Except Refusal ClassDecl := do
  let (file, rest) ← runFrom ClassFile.read bytes
  let annotations ← lastAnnotations depth file.pool none file.attributes
  if rest.isEmpty then (file.declaration annotations).mapError .refused
  else .error (.refused (.trailing rest.length))

end ClassFile

/-- Reads the class that bytes declare, with values of at most `depth` levels; `source` says in
messages where the bytes come from. -/
def ClassDecl.ofBytes (depth : Nat) (source : String) (bytes : Bytes) : Except Fault ClassDecl :=
  (ClassFile.readDecl depth bytes).mapError (ClassFile.Refusal.fault source)

end JvmDeps
