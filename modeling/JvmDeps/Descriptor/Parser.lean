import JvmDeps.Descriptor.Basic
import JvmDeps.Name
import JvmDeps.Text.Quoted

set_option autoImplicit false

/-! # Reading descriptors

`Descriptor.parse` reads a text as exactly one descriptor, in a single pass from left to right.
What cannot be read is refused with a cause and the position at which the fault was found. The
reading functions work on the rest of the text; a refusal keeps the rest at the fault, and its
position is what had been read by then.

`Descriptor.decode` gives the dotted names of the classes that a descriptor names, and
`Descriptor.decodeObject` the dotted name of a descriptor that must be a single class.
-/

namespace JvmDeps

namespace Descriptor

/-- Why a text is not a descriptor. -/
inductive Cause where
  | emptyDescriptor
  | unclosedParameters
  | missingResult
  | trailingText
  | danglingArray
  | arrayOfVoid
  | misplacedVoid
  | unexpected (c : Char)
  | unterminatedClass
  | emptyClassName
  | illegalInName (c : Char)
  | notAClass
  | trailingAfterClass
deriving DecidableEq, Repr

/-- The wording of a cause. -/
def Cause.text : Cause → String
  | emptyDescriptor => "empty descriptor"
  | unclosedParameters => "parameter list not closed by ')'"
  | missingResult => "missing return type"
  | trailingText => "trailing characters after type"
  | danglingArray => "array marker without component type"
  | arrayOfVoid => "array of void"
  | misplacedVoid => "void is only valid as return type"
  | unexpected c => "unexpected character " ++ Text.quotedChar c
  | unterminatedClass => "object type not terminated by ';'"
  | emptyClassName => "empty class name in object type"
  | illegalInName c => "illegal character " ++ Text.quotedChar c ++ " in class name"
  | notAClass => "expected object type 'L...;'"
  | trailingAfterClass => "trailing characters after object type"

/-- A refusal while reading: its cause and the text from the fault on. -/
structure Refusal where
  cause : Cause
  rest : List Char
deriving DecidableEq, Repr

/-- A text that is not a descriptor: why, and at which position. -/
structure Malformed where
  position : Nat
  cause : Cause
deriving DecidableEq, Repr

/-- The position of a refusal in the text that was read. -/
def Refusal.locate (text : String) (r : Refusal) : Malformed :=
  ⟨text.length - r.rest.length, r.cause⟩

/-! ## Classes -/

/-- The characters that may not stand in a class name, the terminator `;` apart. -/
def isIllegalInName (c : Char) : Bool :=
  c = '(' || c = ')' || c = '.' || c = '['

/-- Reads the class whose `L` stands in front of `body`. -/
def readClass (body : List Char) : Except Refusal (String × List Char) :=
  let name := body.takeWhile (· ≠ ';')
  match body.dropWhile (· ≠ ';') with
  | [] => .error ⟨.unterminatedClass, 'L' :: body⟩
  | _ :: rest =>
    if name.isEmpty then .error ⟨.emptyClassName, 'L' :: body⟩
    else
      match name.find? isIllegalInName with
      | some c => .error ⟨.illegalInName c, body.dropWhile (!isIllegalInName ·)⟩
      | none => .ok (String.ofList name, rest)

/-- Reading a class leaves less than its body. -/
theorem length_lt_of_readClass {body rest : List Char} {name : String}
    (h : readClass body = .ok (name, rest)) : rest.length < body.length := by
  have hle : (body.dropWhile (· ≠ ';')).length ≤ body.length :=
    (List.dropWhile_sublist _).length_le
  simp only [readClass] at h
  split at h
  · simp at h
  · rename_i _ tail heq
    split at h
    · simp at h
    · split at h
      · simp at h
      · simp only [Except.ok.injEq, Prod.mk.injEq] at h
        rw [← h.2]
        rw [heq, List.length_cons] at hle
        omega

/-! ## Field types -/

/-- The refusal of a character that starts no element type, after `dimensions` array markers. -/
def refuseElement (dimensions : Nat) (c : Char) : Cause :=
  if c = 'V' then (if dimensions = 0 then .misplacedVoid else .arrayOfVoid) else .unexpected c

/-- Reads one field type. -/
def readType (start : List Char) : Except Refusal (FieldType × List Char) :=
  let dimensions := (start.takeWhile (· = '[')).length
  match start.dropWhile (· = '[') with
  | [] => .error ⟨.danglingArray, start⟩
  | c :: rest =>
    if c = 'L' then
      match readClass rest with
      | .error r => .error r
      | .ok (name, rest) => .ok (⟨dimensions, .object name⟩, rest)
    else
      match Primitive.ofCode? c with
      | some p => .ok (⟨dimensions, .primitive p⟩, rest)
      | none => .error ⟨refuseElement dimensions c, c :: rest⟩

/-- Reading a field type leaves less text. -/
theorem length_lt_of_readType {start rest : List Char} {t : FieldType}
    (h : readType start = .ok (t, rest)) : rest.length < start.length := by
  have hle : (start.dropWhile (· = '[')).length ≤ start.length :=
    (List.dropWhile_sublist _).length_le
  simp only [readType] at h
  split at h
  · simp at h
  · rename_i c tail heq
    rw [heq, List.length_cons] at hle
    split at h
    · split at h
      · simp at h
      · rename_i hread
        simp only [Except.ok.injEq, Prod.mk.injEq] at h
        have := length_lt_of_readClass hread
        rw [← h.2]
        omega
    · split at h
      · simp only [Except.ok.injEq, Prod.mk.injEq] at h
        rw [← h.2]
        omega
      · simp at h

/-! ## Methods -/

/-- Reads parameter types up to the closing parenthesis. -/
def readParameters (text : List Char) : Except Refusal (List FieldType × List Char) :=
  match text with
  | [] => .error ⟨.unclosedParameters, []⟩
  | c :: cs =>
    if c = ')' then .ok ([], cs)
    else
      match _h : readType (c :: cs) with
      | .error r => .error r
      | .ok (t, rest) =>
        match readParameters rest with
        | .error r => .error r
        | .ok (ts, rest) => .ok (t :: ts, rest)
termination_by text.length
decreasing_by exact length_lt_of_readType _h

/-- Reads the result of a method. -/
def readResult (text : List Char) : Except Refusal (Option FieldType × List Char) :=
  match text with
  | [] => .error ⟨.missingResult, []⟩
  | c :: cs =>
    if c = 'V' then .ok (none, cs)
    else (readType (c :: cs)).map fun p => (some p.1, p.2)

/-! ## Whole texts -/

/-- Reads a descriptor at the start of a text. -/
def read (text : List Char) : Except Refusal (Descriptor × List Char) :=
  match text with
  | [] => .error ⟨.emptyDescriptor, []⟩
  | c :: cs =>
    if c = '(' then do
      let (parameters, rest) ← readParameters cs
      let (result, rest) ← readResult rest
      return (.method parameters result, rest)
    else (readType (c :: cs)).map fun p => (.field p.1, p.2)

/-- Nothing may follow what has been read. -/
def finish {α : Type} (cause : Cause) : α × List Char → Except Refusal α
  | (a, []) => .ok a
  | (_, rest) => .error ⟨cause, rest⟩

/-- Reads a text as exactly one descriptor. -/
def parse (text : String) : Except Malformed Descriptor :=
  (read text.toList >>= finish .trailingText).mapError (·.locate text)

/-- The dotted names of the classes that a descriptor names, from left to right. -/
def decode (text : String) : Except Malformed (List String) :=
  (parse text).map fun d => d.classNames.map Name.toDotted

/-- Reads a text as exactly one class and gives its internal name. -/
def parseObject (text : String) : Except Malformed String :=
  match text.toList with
  | 'L' :: body => (readClass body >>= finish .trailingAfterClass).mapError (·.locate text)
  | _ => .error ⟨0, .notAClass⟩

/-- The dotted name of a descriptor that must be a single class. -/
def decodeObject (text : String) : Except Malformed String :=
  (parseObject text).map Name.toDotted

end Descriptor

end JvmDeps
