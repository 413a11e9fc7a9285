import JvmDeps.Data.Binary64
import JvmDeps.Text.Quoted

set_option autoImplicit false

/-! # Values of unknown shape

A value that a caller hands over where something more definite is wanted: a category, a path, a
setting. `kindName` and `shown` are how a message about the wrong value names and shows it, `isKey`
says whether it can be looked up, `truth` and `plain` are how a setting is read, and `wording` is
how an error is worded by its values.
-/

namespace JvmDeps

/-- A value of unknown shape. -/
inductive RawValue where
  | nothing
  | flag (b : Bool)
  | integer (n : Int)
  /-- A number with a point or an exponent. -/
  | floating (x : Binary64)
  | text (s : String)
  | list (items : List RawValue)
  | record (fields : List (String × RawValue))
deriving Inhabited

namespace RawValue

/-- How a message names the kind of a value. -/
def kindName : RawValue → String
  | nothing => "NoneType"
  | flag _ => "bool"
  | integer _ => "int"
  | floating _ => "float"
  | text _ => "str"
  | list _ => "list"
  | record _ => "dict"

mutual

/-- How a message shows a value. -/
def shown : RawValue → String
  | nothing => "None"
  | flag b => if b then "True" else "False"
  | integer n => toString n
  | floating x => x.text
  | text s => Text.quoted s
  | list items => "[" ++ ", ".intercalate (shownItems items) ++ "]"
  | record fields => "\x7b" ++ ", ".intercalate (shownFields fields) ++ "\x7d"

/-- How a message shows the items of a list. -/
def shownItems : List RawValue → List String
  | [] => []
  | v :: vs => shown v :: shownItems vs

/-- How a message shows the fields of a record. -/
def shownFields : List (String × RawValue) → List String
  | [] => []
  | (name, v) :: fields => (Text.quoted name ++ ": " ++ shown v) :: shownFields fields

end

/-- Nothing, false, zero and what is empty do not count as set. -/
def truth : RawValue → Bool
  | nothing => false
  | flag b => b
  | integer n => n != 0
  | floating x => x.isNonzero
  | text s => s != ""
  | list items => !items.isEmpty
  | record fields => !fields.isEmpty

/-- The value can stand as a key: lists and records cannot. -/
def isKey : RawValue → Bool
  | list _ | record _ => false
  | _ => true

/-- A value as plain text: a text is itself, anything else as a message shows it. -/
def plain : RawValue → String
  | text s => s
  | v => v.shown

/-- The wording of an error that was made with some values: nothing for none, the plain text of one,
and several in a row between brackets. -/
def wording : List RawValue → String
  | [] => ""
  | [v] => v.plain
  | vs => "(" ++ ", ".intercalate (shownItems vs) ++ ")"

end RawValue

end JvmDeps
