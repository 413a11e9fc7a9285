import JvmDeps.Data.SortedSet
import JvmDeps.Dependency.Category
import JvmDeps.Fault

set_option autoImplicit false

/-! # Analyses of one class

What a class declaration depends on, category by category. Superclass and interfaces are internal
names and only change their separators; annotation types must be single classes; field and method
types are read off descriptors; references are internal names, or descriptors of arrays, which
stand for their element class.

Methods are told apart by name and descriptor. A query by name alone means every overload.
-/

namespace JvmDeps

/-- The dotted names in a descriptor, from left to right. -/
def decodeNames (descriptor : String) : Except DependencyError (List String) :=
  (Descriptor.decode descriptor).mapError (.ofMalformed descriptor)

/-- The dotted names that `f` finds in the texts of a list, in order; the first failure wins. -/
def collectNames (f : String → Except DependencyError (List String)) :
    List String → Except DependencyError (List String)
  | [] => .ok []
  | text :: texts => do
    let names ← f text
    let more ← collectNames f texts
    return names ++ more

namespace ClassDecl

/-- The dotted name of the superclass; none for the root class. -/
def superclass? (c : ClassDecl) : Option String :=
  match c.superName with
  | none => none
  | some name => if name = "" then none else some (Name.toDotted name)

/-- The dotted name of the superclass as a set. -/
def superclassNames (c : ClassDecl) : NameSet :=
  .ofList c.superclass?.toList

/-- The dotted names of the interfaces. -/
def interfaceNames (c : ClassDecl) : NameSet :=
  .ofList (c.interfaces.map Name.toDotted)

/-- The types of the visible annotations. -/
def annotationNames (c : ClassDecl) : Except DependencyError NameSet :=
  (collectNames (fun descriptor =>
    ((Descriptor.decodeObject descriptor).map fun name => [name]).mapError
      (.ofMalformed descriptor)) (c.annotations.getD [])).map .ofList

/-- The classes in the types of the fields. -/
def fieldNames (c : ClassDecl) : Except DependencyError NameSet :=
  (collectNames decodeNames (c.fields.map (·.descriptor))).map .ofList

/-- The class that a reference stands for: the element class of an array, which a primitive array
lacks, or the class itself. -/
def referenceNames (reference : String) : Except DependencyError (List String) :=
  if reference.toList.head? = some '[' then decodeNames reference
  else .ok [Name.toDotted reference]

/-- The classes that the class refers to. -/
def bodyNames (c : ClassDecl) : Except DependencyError NameSet :=
  (collectNames referenceNames c.references).map .ofList

/-! ## Methods -/

/-- The methods of a name and descriptor, both optional; a descriptor needs a name. -/
def selectMethods (c : ClassDecl) (name descriptor : Option String) :
    Except Fault (List MethodDecl) :=
  match name, descriptor with
  | none, none => .ok c.methods
  | none, some _ => .error (.misuse .descriptorWithoutName)
  | some name, some descriptor =>
    match c.method? name descriptor with
    | some m => .ok [m]
    | none => .error (.failure (.methodNotFound c.dottedName name (some descriptor)))
  | some name, none =>
    match c.methodsNamed name with
    | [] => .error (.failure (.methodNotFound c.dottedName name none))
    | ms => .ok ms

/-- The classes in the types of some methods. -/
def signatureNamesOf (ms : List MethodDecl) : Except DependencyError NameSet :=
  (collectNames decodeNames (ms.map (·.descriptor))).map .ofList

/-- The classes in the types of the selected methods. -/
def selectedNames (c : ClassDecl) (name descriptor : Option String) : Except Fault NameSet := do
  let ms ← c.selectMethods name descriptor
  (signatureNamesOf ms).mapError .failure

/-- The classes in the types of all methods. -/
def signatureNames (c : ClassDecl) : Except DependencyError NameSet :=
  signatureNamesOf c.methods

/-! ## By category -/

/-- The names that the analysis of a category finds. -/
def namesIn (c : ClassDecl) : Category → Except DependencyError NameSet
  | .annotationType => c.annotationNames
  | .superClass => .ok c.superclassNames
  | .interface => .ok c.interfaceNames
  | .fieldType => c.fieldNames
  | .methodSignature => c.signatureNames
  | .bodyReference => c.bodyNames

/-- Drops the class's own name, unless it is to be kept. -/
def dropSelf (c : ClassDecl) (includeSelf : Bool) (names : NameSet) : NameSet :=
  if includeSelf then names else names.erase c.dottedName

/-- The dependencies of a category. -/
def dependenciesIn (c : ClassDecl) (includeSelf : Bool) (category : Category) :
    Except DependencyError NameSet :=
  (c.namesIn category).map (c.dropSelf includeSelf)

end ClassDecl

end JvmDeps
