import JvmDeps.Dependency.Batch
import JvmDeps.Text.Quoted

set_option autoImplicit false

/-! # JSON reports

Tables and batches as JSON text. `JsonValue.render` writes a value in ASCII, either on one line or
with every item on a line of its own, indented by its depth. Categories come in their fixed order
and names are sorted, so tables that agree have the same report.
-/

namespace JvmDeps

/-- A JSON value; the fields of an object are in order. -/
inductive JsonValue where
  | text (s : String)
  | number (n : Nat)
  | array (items : List JsonValue)
  | object (fields : List (String × JsonValue))

namespace JsonValue

/-- The escape of a 16-bit unit. -/
def escapeUnit (n : Nat) : List Char := '\\' :: 'u' :: Text.hexDigits 4 n

/-- A character inside a JSON text. Beyond the basic plane it is written as its two surrogates. -/
def escapeChar (c : Char) : List Char :=
  if c = '"' || c = '\\' then ['\\', c]
  else if c = '\n' then ['\\', 'n']
  else if c = '\r' then ['\\', 'r']
  else if c = '\t' then ['\\', 't']
  else if c.toNat = 0x0c then ['\\', 'f']
  else if c.toNat = 0x08 then ['\\', 'b']
  else if 0x20 ≤ c.toNat && c.toNat < 0x7f then [c]
  else if c.toNat < 0x10000 then escapeUnit c.toNat
  else
    escapeUnit (0xd800 + (c.toNat - 0x10000) / 0x400) ++
      escapeUnit (0xdc00 + (c.toNat - 0x10000) % 0x400)

/-- A text in quotes. -/
def quote (s : String) : String :=
  String.ofList ('"' :: s.toList.flatMap escapeChar ++ ['"'])

/-- The start of a line at a depth; nothing if all is on one line. A negative indent counts as
zero. -/
def lineStart (indent : Option Int) (depth : Nat) : String :=
  match indent with
  | none => ""
  | some n => String.ofList ('\n' :: List.replicate (n.toNat * depth) ' ')

/-- What stands between two items at a depth. -/
def separator (indent : Option Int) (depth : Nat) : String :=
  match indent with
  | none => ", "
  | some _ => "," ++ lineStart indent depth

/-- Puts items between brackets. -/
def bracket (indent : Option Int) (depth : Nat) (opening closing : String) (items : List String) :
    String :=
  if items.isEmpty then opening ++ closing
  else
    opening ++ lineStart indent (depth + 1) ++
      (separator indent (depth + 1)).intercalate items ++ lineStart indent depth ++ closing

mutual

/-- Writes a value at a depth. -/
def renderAt (indent : Option Int) (depth : Nat) : JsonValue → String
  | text s => quote s
  | number n => toString n
  | array items => bracket indent depth "[" "]" (renderItems indent (depth + 1) items)
  | object fields =>
    bracket indent depth "\x7b" "\x7d" (renderFields indent (depth + 1) fields)

/-- Writes the items of an array. -/
def renderItems (indent : Option Int) (depth : Nat) : List JsonValue → List String
  | [] => []
  | v :: vs => renderAt indent depth v :: renderItems indent depth vs

/-- Writes the fields of an object. -/
def renderFields (indent : Option Int) (depth : Nat) : List (String × JsonValue) → List String
  | [] => []
  | (name, v) :: fields =>
    (quote name ++ ": " ++ renderAt indent depth v) :: renderFields indent depth fields

end

/-- Writes a value: on one line, or indented by a number of blanks per depth. -/
def render (indent : Option Int) (v : JsonValue) : String := renderAt indent 0 v

/-- An array of texts. -/
def names (s : NameSet) : JsonValue := array (s.toList.map text)

/-- A table: its class, its categories in their fixed order, and all names. -/
def ofTable (t : DependencyTable) : JsonValue :=
  object [
    ("class", text t.className),
    ("categories", object (Category.all.filterMap fun c =>
      (t.get? c).map fun s => (c.word, names s))),
    ("all", names t.merged)]

/-- A class that failed. -/
def ofFailure (failure : String × Fault) : JsonValue :=
  object [
    ("class", text failure.1),
    ("error", text failure.2.kindName),
    ("message", text failure.2.message)]

/-- A batch: the tables, the failures, and how many there are of each. -/
def ofBatch (b : Batch) : JsonValue :=
  object [
    ("classes", array (b.succeeded.values.map ofTable)),
    ("errors", array (b.failed.entries.map ofFailure)),
    ("summary", object [
      ("total", number b.outcomes.size),
      ("succeeded", number b.succeeded.size),
      ("failed", number b.failed.size)])]

end JsonValue

end JvmDeps
