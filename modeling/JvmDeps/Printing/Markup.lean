import JvmDeps.Printing.Emoji
import JvmDeps.Printing.Literal
import JvmDeps.Printing.StyledText
import JvmDeps.Printing.Theme
import JvmDeps.Text.WordChar

set_option autoImplicit false

/-! # Markup

A text with tags between square brackets, which style what follows them. A tag starts with a small
letter, `#`, `@` or, if it closes another, `/`, and holds no opening bracket; other brackets are
text. A backslash in front of a tag makes it text. What stands behind an equals sign in a tag is its
parameter.

A closing tag ends the innermost open tag of its name, or of any name if it has none; if no such tag
is open, the markup is refused. Names of styles are compared in their normal form. When a tag ends
whose name starts with `@`, its parameter must be a literal or a call with literals.
-/

namespace JvmDeps

/-- Why markup is refused. -/
inductive MarkupDefect where
  /-- A closing tag has nothing to close, or the parameter of a tag is no literal. -/
  | malformed
  /-- A part of a color is not a number. -/
  | badPart (text : String)
deriving DecidableEq, Repr

/-- The defect of markup with a defect in a style. -/
def MarkupDefect.ofStyle : StyleDefect → MarkupDefect
  | .unknown => .malformed
  | .badPart text => .badPart text

namespace Markup

/-- A part of markup. -/
inductive Token where
  | text (cs : List Char)
  | tag (body : List Char)
deriving DecidableEq, Repr

/-- What a tag may start with. -/
def isTagStart (c : Char) : Bool := c.isLower || c = '#' || c = '/' || c = '@'

/-- The body of the tag at the start of a text. -/
def tagBody? : List Char → Option (List Char)
  | '[' :: c :: cs =>
    if isTagStart c then
      let body := cs.takeWhile fun c => c ≠ '[' && c ≠ ']'
      match cs.drop body.length with
      | ']' :: _ => some (c :: body)
      | _ => none
    else none
  | _ => none

/-- Text without the backslashes in front of opening brackets. -/
def unescape : List Char → List Char
  | [] => []
  | c :: cs => if c = '\\' && cs.head? = some '[' then unescape cs else c :: unescape cs

/-- Some characters as a token, if there are any. -/
def textToken (cs : List Char) : List Token := if cs.isEmpty then [] else [.text (unescape cs)]

/-- The tokens of a text of which `skip` characters are already used, where `pending` is the text in
front in reversed order. -/
def tokensFrom : (pending : List Char) → (skip : Nat) → List Char → List Token
  | pending, _, [] => textToken pending.reverse
  | pending, skip + 1, _ :: cs => tokensFrom pending skip cs
  | pending, 0, c :: cs =>
    let slashes := ((c :: cs).takeWhile (· = '\\')).length
    match tagBody? ((c :: cs).drop slashes) with
    | some body =>
      let here := if slashes % 2 = 0 then .tag body else .text ('[' :: body ++ [']'])
      textToken pending.reverse ++ textToken (List.replicate (slashes / 2) '\\') ++
        here :: tokensFrom [] (slashes + body.length + 1) cs
    | none => tokensFrom (c :: pending) 0 cs

/-! ## Tags -/

/-- A tag that is not closed yet. -/
structure OpenTag where
  /-- Where the text under the tag starts. -/
  start : Nat
  /-- The name in its normal form. -/
  name : String
  parameter : Option (List Char)
deriving DecidableEq, Repr

/-- The name in a tag: what stands in front of an equals sign. -/
def nameOf (body : List Char) : String := String.ofList (body.takeWhile (· ≠ '='))

/-- The parameter of a tag: what stands behind an equals sign. -/
def parameterOf? (body : List Char) : Option (List Char) :=
  match body.dropWhile (· ≠ '=') with
  | [] => none
  | _ :: cs => some cs

/-- The literal that a parameter holds: of a call, its arguments; of a name alone, none. -/
def argumentsOf (parameter : List Char) : List Char :=
  let name := parameter.takeWhile fun c => Text.isWordChar c || c = '.'
  let rest := parameter.drop name.length
  if rest.isEmpty then "()".toList
  else if rest.head? = some '(' && rest.getLast? = some ')' && !rest.contains '\n' then rest
  else parameter

/-- A tag whose name starts with `@` can be closed: its parameter holds a literal. -/
def OpenTag.isClosable (tag : OpenTag) : Bool :=
  match tag.name.toList, tag.parameter with
  | '@' :: _, some (c :: cs) => Literal.isLiteral (argumentsOf (Text.trimChars (c :: cs)))
  | _, _ => true

/-- The style of the text under a tag. -/
def OpenTag.style (tag : OpenTag) : Except StyleDefect Style :=
  match tag.parameter with
  | none => Style.find tag.name
  | some cs => Style.find (tag.name ++ " " ++ String.ofList cs)

/-- The span of a tag up to a place. -/
def OpenTag.span (tag : OpenTag) (stop : Nat) : Except StyleDefect Span := do
  return ⟨tag.start, stop, ← tag.style⟩

/-- Takes the innermost tag of a name out of the open tags. -/
def take? (name : String) : List OpenTag → Option (OpenTag × List OpenTag)
  | [] => none
  | tag :: tags =>
    if tag.name = name then some (tag, tags)
    else (take? name tags).map fun found => (found.1, tag :: found.2)

/-- Takes out of the open tags the one that a closing tag ends. -/
def close (body : List Char) (tags : List OpenTag) :
    Except MarkupDefect (OpenTag × List OpenTag) := do
  let name := Text.trim (nameOf body)
  let found? ←
    if name = "" then pure (tags.head?.map (·, tags.drop 1))
    else do
      let normal ← (Style.normalName name).mapError .ofStyle
      pure (take? normal tags)
  match found? with
  | some (tag, tags) => if tag.isClosable then return (tag, tags) else throw .malformed
  | none => throw .malformed

/-! ## Rendering -/

/-- Characters that a terminal would act on instead of showing them, and which are dropped: bell,
backspace, vertical tab, form feed and carriage return. -/
def isDropped (c : Char) : Bool :=
  c.toNat == 7 || c.toNat == 8 || c.toNat == 11 || c.toNat == 12 || c.toNat == 13

/-- Text as it is shown: with its emoji, without what is dropped. -/
def shown (cs : List Char) : List Char := (Emoji.replace cs).filter (!isDropped ·)

/-- Puts a span in front of those that do not start before it. -/
def insertSpan (span : Span) : List Span → List Span
  | [] => [span]
  | other :: spans =>
    if span.start ≤ other.start then span :: other :: spans
    else other :: insertSpan span spans

/-- Spans in the order in which they start; of those that start together, in the given order. -/
def sortSpans (spans : List Span) : List Span := spans.foldr insertSpan []

/-- The styled text of some tokens behind `chars`, under the open tags, innermost first; `spans` are
those of the tags that are closed, the last one first. -/
def renderFrom (chars : List Char) (tags : List OpenTag) (spans : List Span) :
    List Token → Except MarkupDefect StyledText
  | [] => do
    let left : List Span ← (tags.mapM (OpenTag.span · chars.length)).mapError .ofStyle
    return ⟨chars, sortSpans (left.reverse ++ spans)⟩
  | .text cs :: tokens => renderFrom (chars ++ shown cs) tags spans tokens
  | .tag ('/' :: body) :: tokens => do
    let (tag, tags) ← close body tags
    let span ← (tag.span chars.length).mapError .ofStyle
    renderFrom chars tags (span :: spans) tokens
  | .tag body :: tokens => do
    let name ← (Style.normalName (nameOf body)).mapError .ofStyle
    renderFrom chars (⟨chars.length, name, parameterOf? body⟩ :: tags) spans tokens

/-- The styled text of markup. -/
def render (markup : String) : Except MarkupDefect StyledText :=
  renderFrom [] [] [] (tokensFrom [] 0 markup.toList)

end Markup

end JvmDeps
