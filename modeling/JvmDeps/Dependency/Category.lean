import JvmDeps.Data.RawValue

set_option autoImplicit false

/-! # Categories of dependencies

Where in a class a dependency was found. The order of the constructors is the order in which
categories are reported. A caller may ask for something that is no category; `Requested` keeps both
apart.
-/

namespace JvmDeps

/-- Where in a class a dependency was found. -/
inductive Category where
  | annotationType
  | superClass
  | interface
  | fieldType
  | methodSignature
  | bodyReference
deriving DecidableEq, Repr

namespace Category

/-- All categories, in the order in which they are reported. -/
def all : List Category :=
  [annotationType, superClass, interface, fieldType, methodSignature, bodyReference]

/-- The word for a category in reports. -/
def word : Category → String
  | annotationType => "annotation"
  | superClass => "super_class"
  | interface => "interface"
  | fieldType => "field_type"
  | methodSignature => "method_signature"
  | bodyReference => "body_reference"

/-- The category of a word. -/
def ofWord? (s : String) : Option Category :=
  all.find? (·.word == s)

theorem mem_all (c : Category) : c ∈ all := by
  cases c <;> decide

theorem ofWord?_word (c : Category) : ofWord? c.word = some c := by
  cases c <;> decide

end Category

/-- What a caller asks for where a category is wanted. -/
inductive Requested where
  | category (c : Category)
  | other (value : RawValue)

end JvmDeps
