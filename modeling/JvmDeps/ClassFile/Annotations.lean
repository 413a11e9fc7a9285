import JvmDeps.ClassFile.Pool

set_option autoImplicit false

/-! # Annotations of a class file

An annotation has a type, given as the index of a descriptor, and named values. A value is a
constant, a class, an enumeration constant, a nested annotation or an array of values, to any
depth. `ElementValue.bytes` writes a value of any depth. Reading recurs once for each level of a
value, and the host on which it runs bounds how often it can: `ElementValue.readWithin` reads the
values whose `levels` are within the bound, and comes to nothing on deeper ones. Only the type of an
annotation is looked up; the indexes inside values are not.
-/

namespace JvmDeps.ClassFile

/-- A value in an annotation. -/
inductive ElementValue where
  /-- A constant; the tag tells its type. -/
  | const (tag : UInt8) (index : UInt16)
  | classInfo (index : UInt16)
  | enum (typeIndex nameIndex : UInt16)
  /-- A nested annotation: its type and its named values. -/
  | nested (typeIndex : UInt16) (pairs : List (UInt16 × ElementValue))
  | array (values : List ElementValue)

/-- An annotation: its type and its named values. -/
structure AnnotationEntry where
  typeIndex : UInt16
  pairs : List (UInt16 × ElementValue)

namespace ElementValue

/-- The tags of constants: `B C D F I J S Z s`. -/
def constTags : List UInt8 := [0x42, 0x43, 0x44, 0x46, 0x49, 0x4a, 0x53, 0x5a, 0x73]

/-- The tag of a class, `c`. -/
def classInfoTag : UInt8 := 0x63

/-- The tag of an enumeration constant, `e`. -/
def enumTag : UInt8 := 0x65

/-- The tag of a nested annotation, `@`. -/
def nestedTag : UInt8 := 0x40

/-- The tag of an array, `[`. -/
def arrayTag : UInt8 := 0x5b

mutual

/-- The bytes of a value. -/
def bytes : ElementValue → Bytes
  | const tag index => tag :: bytes2 index
  | classInfo index => classInfoTag :: bytes2 index
  | enum typeIndex nameIndex => enumTag :: bytes2 typeIndex ++ bytes2 nameIndex
  | nested typeIndex pairs =>
    nestedTag :: bytes2 typeIndex ++ bytes2 (UInt16.ofNat pairs.length) ++ bytesOfPairs pairs
  | array values =>
    arrayTag :: bytes2 (UInt16.ofNat values.length) ++ bytesOfValues values

/-- The bytes of some values, one after the other. -/
def bytesOfValues : List ElementValue → Bytes
  | [] => []
  | v :: vs => bytes v ++ bytesOfValues vs

/-- The bytes of some named values, one after the other. -/
def bytesOfPairs : List (UInt16 × ElementValue) → Bytes
  | [] => []
  | (nameIndex, v) :: pairs => bytes2 nameIndex ++ bytes v ++ bytesOfPairs pairs

end

mutual

/-- The value can be written: a constant has one of the tags of constants, and every count fits its
field. -/
def WellFormed : ElementValue → Prop
  | const tag _ => tag ∈ constTags
  | classInfo _ => True
  | enum _ _ => True
  | nested _ pairs => pairs.length < 65536 ∧ PairsWellFormed pairs
  | array values => values.length < 65536 ∧ ValuesWellFormed values

/-- Every value of a list can be written. -/
def ValuesWellFormed : List ElementValue → Prop
  | [] => True
  | v :: vs => WellFormed v ∧ ValuesWellFormed vs

/-- Every named value of a list can be written. -/
def PairsWellFormed : List (UInt16 × ElementValue) → Prop
  | [] => True
  | (_, v) :: pairs => WellFormed v ∧ PairsWellFormed pairs

end

mutual

/-- The number of levels of a value: one more than those of the deepest value in it. -/
def levels : ElementValue → Nat
  | const _ _ => 1
  | classInfo _ => 1
  | enum _ _ => 1
  | nested _ pairs => levelsOfPairs pairs + 1
  | array values => levelsOfValues values + 1

/-- The number of levels of the deepest of some values. -/
def levelsOfValues : List ElementValue → Nat
  | [] => 0
  | v :: vs => max (levels v) (levelsOfValues vs)

/-- The number of levels of the deepest of some named values. -/
def levelsOfPairs : List (UInt16 × ElementValue) → Nat
  | [] => 0
  | (_, v) :: pairs => max (levels v) (levelsOfPairs pairs)

end

/-- Reads a named value, given how to read a value. -/
def readPair (value : Parser Cause ElementValue) : Parser Cause (UInt16 × ElementValue) := do
  let nameIndex ← Parser.u2
  let v ← value
  return (nameIndex, v)

/-- One level of reading a value, given how to read the values in it. -/
def level (value : Parser Cause ElementValue) : Parser Cause ElementValue := do
  let tag ← Parser.u1
  if tag ∈ constTags then
    let index ← Parser.u2
    return const tag index
  else if tag = classInfoTag then
    let index ← Parser.u2
    return classInfo index
  else if tag = enumTag then
    let typeIndex ← Parser.u2
    let nameIndex ← Parser.u2
    return enum typeIndex nameIndex
  else if tag = nestedTag then
    let typeIndex ← Parser.u2
    let pairs ← Parser.counted (readPair value)
    return nested typeIndex pairs
  else if tag = arrayTag then
    let values ← Parser.counted value
    return array values
  else Parser.refuse (.unknownElement tag)

/-- Reads a value of at most `depth` levels. -/
def readWithin : (depth : Nat) → Parser Cause ElementValue
  | 0 => fun _ => .error .tooDeep
  | depth + 1 => level (readWithin depth)

end ElementValue

namespace AnnotationEntry

/-- The bytes of an annotation. -/
def bytes (a : AnnotationEntry) : Bytes :=
  bytes2 a.typeIndex ++ bytes2 (UInt16.ofNat a.pairs.length) ++ ElementValue.bytesOfPairs a.pairs

/-- The annotation can be written. -/
def WellFormed (a : AnnotationEntry) : Prop :=
  a.pairs.length < 65536 ∧ ElementValue.PairsWellFormed a.pairs

/-- The number of levels of the deepest value in an annotation. -/
def levels (a : AnnotationEntry) : Nat := ElementValue.levelsOfPairs a.pairs

/-- Reads an annotation whose type is a text of the pool, with values of at most `depth` levels. -/
def read (depth : Nat) (pool : Pool) : Parser Cause AnnotationEntry := do
  let typeIndex ← Parser.u2
  let _ ← Parser.ofExcept (pool.text typeIndex)
  let pairs ← Parser.counted (ElementValue.readPair (ElementValue.readWithin depth))
  return ⟨typeIndex, pairs⟩

end AnnotationEntry

/-- The bytes of a list of annotations. -/
def annotationBytes (entries : List AnnotationEntry) : Bytes :=
  bytes2 (UInt16.ofNat entries.length) ++ entries.flatMap AnnotationEntry.bytes

/-- Reads a list of annotations, with values of at most `depth` levels. -/
def readAnnotations (depth : Nat) (pool : Pool) : Parser Cause (List AnnotationEntry) :=
  Parser.counted (AnnotationEntry.read depth pool)

end JvmDeps.ClassFile
