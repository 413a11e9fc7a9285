set_option autoImplicit false

/-! # Type descriptors

A descriptor is the written type of a field or a method. A field type is an array dimension count
over a primitive or a class; a method has parameter types and a result type, which is absent for a
method without result. `Descriptor.chars` writes a descriptor:

* a primitive is one letter, a class is `L`, its internal name and `;`;
* every array dimension is a `[` in front;
* a method is `(`, its parameters, `)` and its result, with `V` for no result.

`Descriptor.classNames` lists the classes that a descriptor names, from left to right.
-/

namespace JvmDeps

/-- The primitive types. -/
inductive Primitive where
  | byte
  | char
  | double
  | float
  | int
  | long
  | short
  | boolean
deriving DecidableEq, Repr

namespace Primitive

/-- The letter of a primitive type. -/
def code : Primitive → Char
  | byte => 'B'
  | char => 'C'
  | double => 'D'
  | float => 'F'
  | int => 'I'
  | long => 'J'
  | short => 'S'
  | boolean => 'Z'

/-- The primitive type of a letter. -/
def ofCode? (c : Char) : Option Primitive :=
  if c = 'B' then some byte
  else if c = 'C' then some char
  else if c = 'D' then some double
  else if c = 'F' then some float
  else if c = 'I' then some int
  else if c = 'J' then some long
  else if c = 'S' then some short
  else if c = 'Z' then some boolean
  else none

theorem ofCode?_code (p : Primitive) : ofCode? p.code = some p := by
  cases p <;> decide

end Primitive

/-- What an array is made of, or a type without dimensions is. -/
inductive ElementType where
  | primitive (p : Primitive)
  /-- A class, by its internal name. -/
  | object (name : String)
deriving DecidableEq, Repr

/-- The type of a field or a parameter. -/
structure FieldType where
  /-- The number of array dimensions. -/
  dimensions : Nat
  /-- The type under the dimensions. -/
  element : ElementType
deriving DecidableEq, Repr

/-- The written type of a field or a method. -/
inductive Descriptor where
  | field (type : FieldType)
  /-- A method; `none` as result stands for no result. -/
  | method (parameters : List FieldType) (result : Option FieldType)
deriving DecidableEq, Repr

namespace ElementType

/-- The written form of an element type. -/
def chars : ElementType → List Char
  | primitive p => [p.code]
  | object name => 'L' :: name.toList ++ [';']

/-- The class of an element type, if it is one. -/
def className? : ElementType → Option String
  | primitive _ => none
  | object name => some name

end ElementType

namespace FieldType

/-- The written form of a field type. -/
def chars (t : FieldType) : List Char :=
  List.replicate t.dimensions '[' ++ t.element.chars

/-- The class that a field type names, if it names one. -/
def className? (t : FieldType) : Option String :=
  t.element.className?

end FieldType

namespace Descriptor

/-- The written form of a descriptor. -/
def chars : Descriptor → List Char
  | field type => type.chars
  | method parameters result =>
    '(' :: parameters.flatMap FieldType.chars ++ ')' :: (result.map FieldType.chars).getD ['V']

/-- The written form of a descriptor. -/
def text (d : Descriptor) : String :=
  String.ofList d.chars

/-- The field types of a descriptor, from left to right. -/
def types : Descriptor → List FieldType
  | field type => [type]
  | method parameters result => parameters ++ result.toList

/-- The internal names of the classes that a descriptor names, from left to right. -/
def classNames (d : Descriptor) : List String :=
  d.types.filterMap FieldType.className?

end Descriptor

end JvmDeps
