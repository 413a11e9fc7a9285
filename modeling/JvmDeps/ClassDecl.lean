import JvmDeps.Name
import JvmDeps.Text.Quoted

set_option autoImplicit false

/-! # Class declarations

What a compiled class declares, as far as its dependencies are concerned: its name, superclass and
interfaces, the descriptors of its fields and methods, the descriptors of its annotations, and the
classes it refers to. Names are internal names; a reference may also be the descriptor of an array.

`ClassDecl.check` refuses a declaration with an empty name, a field without descriptor, a method
whose descriptor does not start with a parameter list, or two methods of one name and descriptor.
-/

namespace JvmDeps

/-- The bit of a flag word is set. -/
def hasFlag (flags : Int) (bit : Nat) : Bool :=
  flags.shiftRight bit % 2 == 1

/-- A declared field. -/
structure FieldDecl where
  name : String
  descriptor : String
  flags : Int := 0
deriving DecidableEq, Repr

/-- The field belongs to the class and not to its instances. -/
def FieldDecl.isStatic (f : FieldDecl) : Bool := hasFlag f.flags 3

/-- A declared method or constructor. -/
structure MethodDecl where
  name : String
  descriptor : String
  flags : Int := 0
deriving DecidableEq, Repr

namespace MethodDecl

/-- What tells the methods of one class apart. -/
def key (m : MethodDecl) : String × String := (m.name, m.descriptor)

/-- The method initialises a new instance. -/
def isConstructor (m : MethodDecl) : Bool := m.name == "<init>"

end MethodDecl

/-- A declared class. -/
structure ClassDecl where
  /-- The internal name. -/
  name : String
  /-- The internal name of the superclass; only the root class has none. -/
  superName : Option String := none
  /-- The internal names of the interfaces it implements directly. -/
  interfaces : List String := []
  fields : List FieldDecl := []
  methods : List MethodDecl := []
  /-- The descriptors of its visible annotations; `none` if it carries no such list. -/
  annotations : Option (List String) := none
  /-- The classes and arrays it refers to. -/
  references : List String := []
  flags : Int := 0
  majorVersion : Int := 0
  minorVersion : Int := 0
deriving DecidableEq, Repr

namespace ClassDecl

/-- The dotted name. -/
def dottedName (c : ClassDecl) : String := Name.toDotted c.name

/-- The class is an interface. -/
def isInterface (c : ClassDecl) : Bool := hasFlag c.flags 9

/-- The methods of a name, in order of declaration. -/
def methodsNamed (c : ClassDecl) (name : String) : List MethodDecl :=
  c.methods.filter (·.name == name)

/-- The method of a name and descriptor. -/
def method? (c : ClassDecl) (name descriptor : String) : Option MethodDecl :=
  c.methods.find? (·.key == (name, descriptor))

/-! ## Checks -/

/-- Why a declaration is refused. -/
inductive Defect where
  | emptyFieldName
  | emptyFieldDescriptor (field : String)
  | emptyMethodName
  | methodDescriptor (method descriptor : String)
  | emptyName
  | repeatedMethod (method descriptor className : String)
deriving DecidableEq, Repr

/-- The wording of a defect. -/
def Defect.text : Defect → String
  | emptyFieldName => "field name must not be empty"
  | emptyFieldDescriptor field =>
    "field " ++ Text.quoted field ++ " descriptor must not be empty"
  | emptyMethodName => "method name must not be empty"
  | methodDescriptor method descriptor =>
    "method " ++ Text.quoted method ++ " descriptor must start with '(', got " ++
      Text.quoted descriptor
  | emptyName => "class name must not be empty"
  | repeatedMethod method descriptor className =>
    "duplicate method " ++ method ++ descriptor ++ " in " ++ Text.quoted className

/-- The first defect of a field. -/
def fieldDefect? (f : FieldDecl) : Option Defect :=
  if f.name = "" then some .emptyFieldName
  else if f.descriptor = "" then some (.emptyFieldDescriptor f.name)
  else none

/-- The first defect of a method. -/
def methodDefect? (m : MethodDecl) : Option Defect :=
  if m.name = "" then some .emptyMethodName
  else if m.descriptor.toList.head? = some '(' then none
  else some (.methodDescriptor m.name m.descriptor)

/-- The first method that repeats the key of an earlier one, or one of `seen`. -/
def firstRepeat? (seen : List (String × String)) : List MethodDecl → Option MethodDecl
  | [] => none
  | m :: ms => if m.key ∈ seen then some m else firstRepeat? (m.key :: seen) ms

/-- The first defect of a class as a whole. -/
def classDefect? (c : ClassDecl) : Option Defect :=
  if c.name = "" then some .emptyName
  else (firstRepeat? [] c.methods).map fun m => .repeatedMethod m.name m.descriptor c.name

/-- The first defect: of the fields, then of the methods, then of the class as a whole. -/
def defect? (c : ClassDecl) : Option Defect :=
  c.fields.findSome? fieldDefect? <|> c.methods.findSome? methodDefect? <|> c.classDefect?

/-- The declaration itself, unless it has a defect. -/
def check (c : ClassDecl) : Except Defect ClassDecl :=
  match c.defect? with
  | some d => .error d
  | none => .ok c

end ClassDecl

end JvmDeps
