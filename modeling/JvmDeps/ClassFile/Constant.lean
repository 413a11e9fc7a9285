import JvmDeps.Bytes.ModifiedUtf8
import JvmDeps.ClassDecl

set_option autoImplicit false

/-! # Constants of a class file

A constant is a text, a class (the index of the text that names it), or one of the kinds of which
only the size matters here. A constant is written as its tag byte and its payload. `Constant.read`
reads one; a tag it does not know and a text it cannot decode are refused with the index at which
the constant would stand.
-/

namespace JvmDeps.ClassFile

/-- Why the bytes of a class file are refused. -/
inductive Cause where
  | badMagic
  | unknownTag (tag : UInt8) (index : Nat)
  | badText (index : Nat)
  /-- No constant stands at the index. -/
  | unusable (index : Nat)
  /-- A constant of another kind stands at the index. -/
  | wrongKind (index : Nat) (found wanted : String)
  | lengthMismatch
  | unknownElement (tag : UInt8)
  | trailing (count : Nat)
  | badDeclaration (d : ClassDecl.Defect)
deriving DecidableEq, Repr

/-- The wording of a cause. -/
def Cause.text : Cause → String
  | badMagic => "bad magic number"
  | unknownTag tag index =>
    "unknown constant tag " ++ toString tag.toNat ++ " at index " ++ toString index
  | badText index => "bad utf8 constant at " ++ toString index
  | unusable index => "constant index " ++ toString index ++ " is not a usable entry"
  | wrongKind index found wanted =>
    "constant " ++ toString index ++ " is " ++ found ++ ", expected " ++ wanted
  | lengthMismatch => "annotation attribute length mismatch"
  | unknownElement tag =>
    "unknown element_value tag " ++ Text.quotedChar (Char.ofNat tag.toNat)
  | trailing count => toString count ++ " trailing bytes"
  | badDeclaration d => d.text

/-- The kinds of constant that only take up room. -/
inductive PlainKind where
  | integer
  | float
  | long
  | double
  | string
  | fieldRef
  | methodRef
  | interfaceMethodRef
  | nameAndType
  | methodHandle
  | methodType
  | dynamic
  | invokeDynamic
  | module
  | package
deriving DecidableEq, Repr

namespace PlainKind

/-- All kinds, by increasing tag. -/
def all : List PlainKind :=
  [integer, float, long, double, string, fieldRef, methodRef, interfaceMethodRef, nameAndType,
    methodHandle, methodType, dynamic, invokeDynamic, module, package]

/-- The tag byte. -/
def tag : PlainKind → UInt8
  | integer => 3
  | float => 4
  | long => 5
  | double => 6
  | string => 8
  | fieldRef => 9
  | methodRef => 10
  | interfaceMethodRef => 11
  | nameAndType => 12
  | methodHandle => 15
  | methodType => 16
  | dynamic => 17
  | invokeDynamic => 18
  | module => 19
  | package => 20

/-- The kind of a tag byte. -/
def ofTag? (t : UInt8) : Option PlainKind := all.find? (·.tag == t)

/-- The word for a kind in messages. -/
def word : PlainKind → String
  | integer => "INTEGER"
  | float => "FLOAT"
  | long => "LONG"
  | double => "DOUBLE"
  | string => "STRING"
  | fieldRef => "FIELDREF"
  | methodRef => "METHODREF"
  | interfaceMethodRef => "INTERFACE_METHODREF"
  | nameAndType => "NAME_AND_TYPE"
  | methodHandle => "METHOD_HANDLE"
  | methodType => "METHOD_TYPE"
  | dynamic => "DYNAMIC"
  | invokeDynamic => "INVOKE_DYNAMIC"
  | module => "MODULE"
  | package => "PACKAGE"

/-- The number of payload bytes. -/
def size : PlainKind → Nat
  | integer | float | fieldRef | methodRef | interfaceMethodRef | nameAndType | dynamic
  | invokeDynamic => 4
  | long | double => 8
  | methodHandle => 3
  | string | methodType | module | package => 2

/-- The constant takes two slots. -/
def isWide : PlainKind → Bool
  | long | double => true
  | _ => false

theorem ofTag?_tag (k : PlainKind) : ofTag? k.tag = some k := by
  cases k <;> decide

end PlainKind

/-- A constant. -/
inductive Constant where
  /-- A text: its bytes, and the text they encode. -/
  | text (payload : Bytes) (value : String)
  /-- A class: the index of the text that names it. -/
  | classRef (nameIndex : UInt16)
  | plain (kind : PlainKind) (payload : Bytes)
deriving DecidableEq, Repr

namespace Constant

/-- The tag byte of texts. -/
def textTag : UInt8 := 1

/-- The tag byte of classes. -/
def classTag : UInt8 := 7

/-- The word for texts in messages. -/
def textWord : String := "UTF8"

/-- The word for classes in messages. -/
def classWord : String := "CLASS"

/-- The word for the kind of a constant in messages. -/
def word : Constant → String
  | text _ _ => textWord
  | classRef _ => classWord
  | plain kind _ => kind.word

/-- The constant takes two slots. -/
def isWide : Constant → Bool
  | plain kind _ => kind.isWide
  | _ => false

/-- The slots that a constant takes: itself, and an unusable one if it is wide. -/
def slots (c : Constant) : List (Option Constant) :=
  if c.isWide then [some c, none] else [some c]

/-- The bytes of a constant. -/
def bytes : Constant → Bytes
  | text payload _ => textTag :: bytes2 (UInt16.ofNat payload.length) ++ payload
  | classRef nameIndex => classTag :: bytes2 nameIndex
  | plain kind payload => kind.tag :: payload

/-- The constant can be written: a text fits its length field and is what its bytes encode, and
any other payload has the size of its kind. -/
def WellFormed : Constant → Prop
  | text payload value =>
    payload.length < 65536 ∧ ModifiedUtf8.decode? payload = some value
  | classRef _ => True
  | plain kind payload => payload.length = kind.size

/-- Reads the constant that is to stand at `index`. -/
def read (index : Nat) : Parser Cause Constant := do
  let tag ← Parser.u1
  if tag = textTag then
    let size ← Parser.u2
    let payload ← Parser.take size.toNat
    match ModifiedUtf8.decode? payload with
    | some value => return text payload value
    | none => Parser.refuse (.badText index)
  else if tag = classTag then
    let nameIndex ← Parser.u2
    return classRef nameIndex
  else
    match PlainKind.ofTag? tag with
    | some kind =>
      let payload ← Parser.take kind.size
      return plain kind payload
    | none => Parser.refuse (.unknownTag tag index)

end Constant

end JvmDeps.ClassFile
