import JvmDeps.ClassDecl
import JvmDeps.Descriptor.Parser

set_option autoImplicit false

/-! # Faults

Everything that can go wrong, as causes. A `DependencyError` is a failure of the analysis itself: a
class that is not found, a malformed descriptor or class file, an unknown method, an invalid name.
Outcomes keep it, batches collect it, and a caller can catch it as one kind. A `Misuse` is a fault
of the caller's arguments or of the order of calls. A fault `raised` by the caller's own code
passes through.

`Fault.kindName` and `Fault.message` are the words for a fault in reports.
-/

namespace JvmDeps

/-- A failure of the analysis. -/
inductive DependencyError where
  | general (text : String)
  /-- A class is nowhere in the places that were searched. -/
  | classNotFound (name : String) (scope : List String)
  /-- A text is not a descriptor. -/
  | badDescriptor (descriptor : String) (position : Int) (reason : String)
  /-- Bytes are not a class file. -/
  | badClassFile (source reason : String)
  /-- No method has the name, and the descriptor if one is given. -/
  | methodNotFound (className method : String) (descriptor : Option String)
  /-- A text does not name a dependency. -/
  | badName (name reason : String)
deriving DecidableEq, Repr

namespace DependencyError

/-- The word for the kind of a failure. -/
def kindName : DependencyError → String
  | general _ => "ClassDepsError"
  | classNotFound _ _ => "ClassNotFoundError"
  | badDescriptor _ _ _ => "DescriptorParseError"
  | badClassFile _ _ => "ClassFormatError"
  | methodNotFound _ _ _ => "MethodNotFoundError"
  | badName _ _ => "InvalidDependencyNameError"

/-- The wording of a failure. -/
def message : DependencyError → String
  | general text => text
  | classNotFound name [] => "class " ++ Text.quoted name ++ " not found"
  | classNotFound name scope =>
    "class " ++ Text.quoted name ++ " not found in [" ++ ", ".intercalate scope ++ "]"
  | badDescriptor descriptor position reason =>
    "invalid descriptor " ++ Text.quoted descriptor ++ " at " ++ toString position ++ ": " ++ reason
  | badClassFile source reason => source ++ ": " ++ reason
  | methodNotFound className method descriptor =>
    "method " ++ Text.quoted (method ++ descriptor.getD "") ++ " not declared in " ++
      Text.quoted className
  | badName name reason => "invalid dependency name " ++ Text.quoted name ++ ": " ++ reason

/-- The failure of a text that is not a descriptor. -/
def ofMalformed (text : String) (m : Descriptor.Malformed) : DependencyError :=
  .badDescriptor text m.position m.cause.text

/-- The failure of a text that does not name a dependency. -/
def ofNameDefect (name : String) (d : Name.Defect) : DependencyError :=
  .badName name d.text

/-- The wider kinds under which a failure can be caught. -/
inductive Family where
  | analysis
  | lookup
  | value
deriving DecidableEq, Repr

/-- The wider kinds of a failure: every one is a failure of the analysis, one that finds nothing is
a failed look-up, and one about a malformed text or file is about a value. -/
def families : DependencyError → List Family
  | general _ => [.analysis]
  | classNotFound _ _ => [.analysis, .lookup]
  | methodNotFound _ _ _ => [.analysis, .lookup]
  | badDescriptor _ _ _ => [.analysis, .value]
  | badClassFile _ _ => [.analysis, .value]
  | badName _ _ => [.analysis, .value]

end DependencyError

/-- A fault of the caller's arguments or of the order of calls. -/
inductive Misuse where
  | badDeclaration (d : ClassDecl.Defect)
  | emptyTableName
  | unionOfOther (left right : String)
  | descriptorWithoutName
  | emptySearchPath
  | emptySeparator
  | workerCount (n : Int)
  | narrowWidth (width : Int)
  | notACategory (shown : String)
  | includeSelfNotFlag
  | noRepository
  | noSearchPath
  | noClasses
  | notAClass (name kind : String)
  | notAPath (kind : String)
  | notAKey (kind : String)
  | notAnError (kind : String)
  | closed
  | encryptedMember (name : String)
  | laterArchive (version : Nat)
  | unreachableMember
  | badRangeCode (text : String)
  | nameTooLong (path : String)
  | notConfigured
  | noEntry
  | undecodable
  | badMarkup
  | badNumber (text : String)
  /-- Values in the bytes of a class are nested deeper than the host can follow. -/
  | nestedTooDeep
deriving DecidableEq, Repr

namespace Misuse

/-- The word for the kind of a misuse. -/
def kindName : Misuse → String
  | badDeclaration _ | emptyTableName | unionOfOther _ _ | descriptorWithoutName
  | emptySearchPath | emptySeparator | workerCount _ | narrowWidth _ | unreachableMember
  | badNumber _ => "ValueError"
  | notACategory _ | includeSelfNotFlag | noRepository | noSearchPath | noClasses
  | notAClass _ _ | notAPath _ | notAKey _ | notAnError _ => "TypeError"
  | closed | encryptedMember _ => "RuntimeError"
  | laterArchive _ => "NotImplementedError"
  | badRangeCode _ => "LZMAError"
  | nameTooLong _ => "OSError"
  | notConfigured => "UsageError"
  | noEntry => "KeyError"
  | undecodable => "UnicodeDecodeError"
  | badMarkup => "MarkupError"
  | nestedTooDeep => "RecursionError"

/-- The wording of a misuse; empty for those that are only told by their kind. -/
def message : Misuse → String
  | badDeclaration d => d.text
  | emptyTableName => "class_name must not be empty"
  | unionOfOther left right =>
    "cannot union dependencies of " ++ Text.quoted left ++ " and " ++ Text.quoted right
  | descriptorWithoutName => "descriptor requires method name"
  | emptySearchPath => "classpath must have at least one entry"
  | emptySeparator => "empty separator"
  | workerCount n => "max_workers must be >= 1, got " ++ toString n
  | narrowWidth width => "width must be >= 20, got " ++ toString width
  | notACategory shown => "category must be DependencyCategory, got " ++ shown
  | includeSelfNotFlag => "include_self must be bool"
  | noRepository => "provider must not be None"
  | noSearchPath => "config must not be None"
  | noClasses => "classes must not be None"
  | notAClass name kind =>
    "class " ++ Text.quoted name ++ " must be CompiledClass or bytes, got " ++ kind
  | notAPath kind => "classpath entry must be Path, got " ++ kind
  | notAKey kind => "unhashable type: " ++ Text.quoted kind
  | notAnError kind => "error must be Exception, got " ++ kind
  | closed => "provider is closed"
  | encryptedMember name =>
    "File " ++ Text.quoted name ++ " is encrypted, password required for extraction"
  | laterArchive version =>
    "zip file version " ++ toString (version / 10) ++ "." ++ toString (version % 10)
  | unreachableMember => "cannot fit 'int' into an offset-sized integer"
  | badRangeCode text => text
  | nameTooLong path => "[Errno 36] File name too long: " ++ Text.quoted path
  | notConfigured =>
    "classdeps_classpath is not configured. Set it in pytest.ini or pyproject.toml."
  | noEntry => ""
  | undecodable => ""
  | badMarkup => ""
  | badNumber text => "invalid literal for int() with base 10: " ++ Text.quoted text
  | nestedTooDeep => "maximum recursion depth exceeded"

end Misuse

/-- The kinds of fault that a caller's own code raises. -/
inductive CallerKind where
  | value
  | state
deriving DecidableEq, Repr

/-- The word for the kind of a caller's own fault. -/
def CallerKind.word : CallerKind → String
  | value => "ValueError"
  | state => "RuntimeError"

/-- Anything that goes wrong. -/
inductive Fault where
  | failure (e : DependencyError)
  | misuse (m : Misuse)
  | raised (kind : CallerKind) (text : String)
deriving DecidableEq, Repr

namespace Fault

/-- The word for the kind of a fault. -/
def kindName : Fault → String
  | failure e => e.kindName
  | misuse m => m.kindName
  | raised kind _ => kind.word

/-- The wording of a fault. -/
def message : Fault → String
  | failure e => e.message
  | misuse m => m.message
  | raised _ text => text

end Fault

end JvmDeps
