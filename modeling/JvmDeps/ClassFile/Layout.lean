import JvmDeps.ClassFile.Annotations

set_option autoImplicit false

/-! # The layout of a class file

A class file as it is laid out: numbers, constants, and tables that refer to constants by index.
`ClassFile.bytes` writes it, and `ClassFile.read` reads it. While reading, every index that stands
for a name, a descriptor or a class is looked up at once, so that the first fault in the file is the
one that is reported. The bodies of attributes are not looked into.
-/

namespace JvmDeps

namespace ClassFile

/-- An attribute: the index of its name, and its body. -/
structure Attribute where
  nameIndex : UInt16
  body : Bytes
deriving DecidableEq, Repr

/-- A field or a method. -/
structure Member where
  flags : UInt16
  nameIndex : UInt16
  descriptorIndex : UInt16
  attributes : List Attribute
deriving DecidableEq, Repr

/-- The number that every class file starts with. -/
def magic : UInt32 := 0xcafebabe

/-- The bytes of a table: its length, and its rows one after the other. -/
def tableBytes {α : Type} (row : α → Bytes) (rows : List α) : Bytes :=
  bytes2 (UInt16.ofNat rows.length) ++ rows.flatMap row

namespace Attribute

/-- The bytes of an attribute. -/
def bytes (a : Attribute) : Bytes :=
  bytes2 a.nameIndex ++ bytes4 (UInt32.ofNat a.body.length) ++ a.body

/-- Reads an attribute whose name is a text of the pool. -/
def read (pool : Pool) : Parser Cause Attribute := do
  let nameIndex ← Parser.u2
  let _ ← Parser.ofExcept (pool.text nameIndex)
  let size ← Parser.u4
  let body ← Parser.take size.toNat
  return ⟨nameIndex, body⟩

end Attribute

namespace Member

/-- The bytes of a member. -/
def bytes (m : Member) : Bytes :=
  bytes2 m.flags ++ bytes2 m.nameIndex ++ bytes2 m.descriptorIndex ++
    tableBytes Attribute.bytes m.attributes

/-- Reads a member whose name and descriptor are texts of the pool. -/
def read (pool : Pool) : Parser Cause Member := do
  let flags ← Parser.u2
  let nameIndex ← Parser.u2
  let _ ← Parser.ofExcept (pool.text nameIndex)
  let descriptorIndex ← Parser.u2
  let _ ← Parser.ofExcept (pool.text descriptorIndex)
  let attributes ← Parser.counted (Attribute.read pool)
  return ⟨flags, nameIndex, descriptorIndex, attributes⟩

end Member

/-- Reads the index of a class of the pool. -/
def readClassIndex (pool : Pool) : Parser Cause UInt16 := do
  let index ← Parser.u2
  let _ ← Parser.ofExcept (pool.className index)
  return index

/-- Reads the index of a class of the pool, or zero for none. -/
def readClassIndex? (pool : Pool) : Parser Cause UInt16 := do
  let index ← Parser.u2
  if index = 0 then return index
  else
    let _ ← Parser.ofExcept (pool.className index)
    return index

end ClassFile

open ClassFile in
/-- A class file as it is laid out. -/
structure ClassFile where
  minorVersion : UInt16
  majorVersion : UInt16
  /-- The declared number of slots, slot 0 included. -/
  slotCount : UInt16
  constants : List Constant
  flags : UInt16
  thisIndex : UInt16
  /-- The index of the superclass; zero for none. -/
  superIndex : UInt16
  interfaceIndexes : List UInt16
  fields : List Member
  methods : List Member
  attributes : List Attribute
deriving DecidableEq, Repr

namespace ClassFile

/-- The constants of a class file in their slots. -/
def pool (f : ClassFile) : Pool := .ofConstants f.constants

/-- The bytes of a class file. -/
def bytes (f : ClassFile) : Bytes :=
  bytes4 magic ++ bytes2 f.minorVersion ++ bytes2 f.majorVersion ++ bytes2 f.slotCount ++
    f.constants.flatMap Constant.bytes ++ bytes2 f.flags ++ bytes2 f.thisIndex ++
    bytes2 f.superIndex ++ tableBytes bytes2 f.interfaceIndexes ++
    tableBytes Member.bytes f.fields ++ tableBytes Member.bytes f.methods ++
    tableBytes Attribute.bytes f.attributes

/-- Reads a class file. -/
def read : Parser Cause ClassFile := do
  let start ← Parser.u4
  if start ≠ magic then Parser.refuse .badMagic
  else
    let minorVersion ← Parser.u2
    let majorVersion ← Parser.u2
    let slotCount ← Parser.u2
    let constants ← readConstants slotCount
    let pool := Pool.ofConstants constants
    let flags ← Parser.u2
    let thisIndex ← readClassIndex pool
    let superIndex ← readClassIndex? pool
    let interfaceIndexes ← Parser.counted (readClassIndex pool)
    let fields ← Parser.counted (Member.read pool)
    let methods ← Parser.counted (Member.read pool)
    let attributes ← Parser.counted (Attribute.read pool)
    return {
      minorVersion, majorVersion, slotCount, constants, flags, thisIndex, superIndex,
      interfaceIndexes, fields, methods, attributes }

end ClassFile

end JvmDeps
