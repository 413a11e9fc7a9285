set_option autoImplicit false

/-! # Class names

A class name is written in two ways: the internal form of class files separates packages by `/`,
the dotted form by `.`. `Name.toDotted` and `Name.toInternal` exchange the separators and leave all
else alone. A dependency is named in dotted form; `Name.defect?` says what is wrong with a text
that is to name one.
-/

namespace JvmDeps.Name

/-- The dotted form: every `/` becomes `.`. -/
def toDotted (name : String) : String :=
  name.map fun c => if c = '/' then '.' else c

/-- The internal form: every `.` becomes `/`. -/
def toInternal (name : String) : String :=
  name.map fun c => if c = '.' then '/' else c

/-- Why a text does not name a dependency. -/
inductive Defect where
  | empty
  | slashed
  | array
deriving DecidableEq, Repr

/-- The wording of a defect. -/
def Defect.text : Defect → String
  | empty => "must not be empty"
  | slashed => "must be dotted, not internal form"
  | array => "array types are not dependencies"

/-- The first defect of a text that is to name a dependency. -/
def defect? (name : String) : Option Defect :=
  if name = "" then some .empty
  else if name.toList.contains '/' then some .slashed
  else if name.toList.head? = some '[' then some .array
  else none

/-- The dotted form of an internal form is the dotted form. -/
theorem toDotted_toInternal (name : String) : toDotted (toInternal name) = toDotted name := by
  apply String.toList_inj.1
  simp only [toDotted, toInternal, String.toList_map, List.map_map]
  apply List.map_congr_left
  intro c _
  by_cases h : c = '.' <;> simp [h]

/-- The internal form of a dotted form is the internal form. -/
theorem toInternal_toDotted (name : String) : toInternal (toDotted name) = toInternal name := by
  apply String.toList_inj.1
  simp only [toDotted, toInternal, String.toList_map, List.map_map]
  apply List.map_congr_left
  intro c _
  by_cases h : c = '/' <;> simp [h]

end JvmDeps.Name
