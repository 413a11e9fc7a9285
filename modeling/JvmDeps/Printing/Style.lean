import JvmDeps.Data.Rounding
import JvmDeps.Printing.Palette
import JvmDeps.Text.Blank
import JvmDeps.Text.LowerCase

set_option autoImplicit false

/-! # Styles

How a piece of text looks on a terminal: effects that are switched on or off, a color and a
background. `Style.ofText` reads a style from words such as `bold red on #101010`, `Style.text`
writes it in its normal form, with the effects in a fixed order, and `Style.codes` gives the
codes that switch it on. `Style.atop` lays one style over another.

A terminal is taken to have a palette of 256 colors; a color that is mixed from red, green and blue
is shown as its nearest neighbour there.
-/

namespace JvmDeps

/-- What a style switches on or off. -/
inductive Effect where
  | bold
  | dim
  | italic
  | underline
  | blink
  | fastBlink
  | reverse
  | conceal
  | strike
  | doubleUnderline
  | frame
  | encircle
  | overline
deriving DecidableEq, Repr

namespace Effect

/-- The effects in the order in which they are written. -/
def all : List Effect :=
  [bold, dim, italic, underline, blink, fastBlink, reverse, conceal, strike, doubleUnderline, frame,
   encircle, overline]

/-- The word for an effect. -/
def word : Effect → String
  | bold => "bold"
  | dim => "dim"
  | italic => "italic"
  | underline => "underline"
  | blink => "blink"
  | fastBlink => "blink2"
  | reverse => "reverse"
  | conceal => "conceal"
  | strike => "strike"
  | doubleUnderline => "underline2"
  | frame => "frame"
  | encircle => "encircle"
  | overline => "overline"

/-- The short word for an effect, if it has one. -/
def letter? : Effect → Option String
  | bold => some "b"
  | dim => some "d"
  | italic => some "i"
  | underline => some "u"
  | reverse => some "r"
  | conceal => some "c"
  | strike => some "s"
  | doubleUnderline => some "uu"
  | overline => some "o"
  | blink | fastBlink | frame | encircle => none

/-- The code that switches an effect on. -/
def code : Effect → Nat
  | bold => 1
  | dim => 2
  | italic => 3
  | underline => 4
  | blink => 5
  | fastBlink => 6
  | reverse => 7
  | conceal => 8
  | strike => 9
  | doubleUnderline => 21
  | frame => 51
  | encircle => 52
  | overline => 53

/-- The effect of a word, long or short. -/
def ofWord? (word : String) : Option Effect :=
  all.find? fun a => a.word = word || a.letter? = some word

/-- Every effect is read back from its word. -/
theorem ofWord?_word (a : Effect) : ofWord? a.word = some a := by
  cases a <;> decide

end Effect

/-! ## Colors -/

/-- Where a color is taken from. -/
inductive Paint where
  /-- The color of the terminal itself. -/
  | standard
  /-- A color of the palette. -/
  | numbered (n : Nat)
  /-- A mixture, each part at most 255. -/
  | mixed (red green blue : Nat)
deriving DecidableEq, Repr

namespace Paint

/-- The step of a color part among the six that the palette has. -/
def step (part : Nat) : Nat :=
  if part < 95 then roundDiv part 95 else roundDiv (part - 55) 40

/-- The number in the palette that is nearest to a mixture: a shade of gray if it has little color,
else by the steps of its three parts. -/
def nearest (red green blue : Nat) : Nat :=
  let most := max red (max green blue)
  let least := min red (min green blue)
  let sum := most + least
  if 20 * (most - least) < 3 * (if sum ≤ 255 then sum else 510 - sum) || most = least then
    let gray := roundDiv (25 * sum) 510
    if gray = 0 then 16 else if gray = 25 then 231 else 231 + gray
  else 16 + 36 * step red + 6 * step green + step blue

/-- The codes of a number of the palette, given the code of the first color, that of the first
bright one and that of the others. -/
def numberCodes (first bright other n : Nat) : List Nat :=
  if n < 8 then [first + n] else if n < 16 then [bright + (n - 8)] else [other, 5, n]

/-- The codes for a color of the text. -/
def textCodes : Paint → List Nat
  | standard => [39]
  | numbered n => numberCodes 30 90 38 n
  | mixed red green blue => numberCodes 30 90 38 (nearest red green blue)

/-- The codes for a color of the background. -/
def backgroundCodes : Paint → List Nat
  | standard => [49]
  | numbered n => numberCodes 40 100 48 n
  | mixed red green blue => numberCodes 40 100 48 (nearest red green blue)

end Paint

/-- A color under the name by which it was asked for. -/
structure Color where
  name : String
  paint : Paint
deriving DecidableEq, Repr

/-- Why words are no style. -/
inductive StyleDefect where
  /-- A word is neither an effect nor a color. -/
  | unknown
  /-- A part of a mixture is not a number. -/
  | badPart (text : String)
deriving DecidableEq, Repr

namespace Color

/-- The text between a beginning and a closing bracket at the end. -/
def inBrackets? (start : String) (word : String) : Option (List Char) :=
  let cs := word.toList
  if start.toList.isPrefixOf cs && cs.getLast? = some ')' then
    some ((cs.drop start.length).dropLast)
  else none

/-- The value of decimal digits. -/
def decimal (digits : List Char) : Nat :=
  digits.foldl (fun n c => 10 * n + (c.toNat - '0'.toNat)) 0

/-- The value of a hexadecimal digit in small letters. -/
def hexValue? (c : Char) : Option Nat :=
  if c.isDigit then some (c.toNat - '0'.toNat)
  else if 'a' ≤ c && c ≤ 'f' then some (c.toNat - 'a'.toNat + 10)
  else none

/-- A mixture from six hexadecimal digits. -/
def ofHex? (digits : List Char) : Option Paint :=
  match digits.mapM hexValue? with
  | some [a, b, c, d, e, f] => some (.mixed (16 * a + b) (16 * c + d) (16 * e + f))
  | _ => none

/-- The number of a part of a mixture. -/
def part (digits : List Char) : Except StyleDefect Nat :=
  if digits.isEmpty then .error (.badPart "") else .ok (decimal digits)

/-- A mixture from three numbers with commas between them. -/
def ofParts (cs : List Char) : Except StyleDefect Paint :=
  if cs.isEmpty || !cs.all (fun c => c.isDigit || c = ',') then .error .unknown
  else
    match Text.cutWhere (· = ',') cs with
    | [red, green, blue] => do
      let red ← part red
      let green ← part green
      let blue ← part blue
      if red ≤ 255 && green ≤ 255 && blue ≤ 255 then return .mixed red green blue
      else throw .unknown
    | _ => .error .unknown

/-- A color of the palette by its number, of at most three digits. -/
def ofNumber? (digits : List Char) : Option Paint :=
  if digits.isEmpty || 3 < digits.length || !digits.all Char.isDigit || 255 < decimal digits then
    none
  else some (.numbered (decimal digits))

/-- The paint of a word in small letters. -/
def paintOf (word : String) : Except StyleDefect Paint :=
  if word = "default" then .ok .standard
  else
    match Palette.number? word with
    | some n => .ok (.numbered n)
    | none =>
      match word.toList, inBrackets? "color(" word, inBrackets? "rgb(" word with
      | '#' :: digits, _, _ => (ofHex? digits).elim (.error .unknown) .ok
      | _, some digits, _ => (ofNumber? digits).elim (.error .unknown) .ok
      | _, none, some cs => ofParts cs
      | _, none, none => .error .unknown

/-- The color of a word: a name, a number of the palette or a mixture. -/
def ofWord (word : String) : Except StyleDefect Color := do
  let name := String.ofList (Text.lower word.toList)
  return ⟨name, ← paintOf name⟩

end Color

/-! ## Styles -/

/-- How a piece of text looks. -/
structure Style where
  /-- What is switched on or off; the first mention of an effect counts. -/
  marks : List (Effect × Bool) := []
  color : Option Color := none
  background : Option Color := none
  link : Option String := none
deriving DecidableEq, Repr

namespace Style

/-- Text as the terminal shows it by itself. -/
def plain : Style := {}

/-- A named color. -/
def ofColor (name : String) (n : Nat) : Style := { color := some ⟨name, .numbered n⟩ }

/-- A style laid over another: what it leaves open shows through. -/
def atop (top base : Style) : Style where
  marks := top.marks ++ base.marks
  color := top.color <|> base.color
  background := top.background <|> base.background
  link := top.link <|> base.link

/-- What a style says about an effect. -/
def mark? (s : Style) (a : Effect) : Option Bool := s.marks.lookup a

/-- The words of a style in its normal form. -/
def words (s : Style) : List String :=
  (Effect.all.filterMap fun a => (s.mark? a).map fun on =>
      if on then a.word else "not " ++ a.word) ++
    (s.color.map Color.name).toList ++
    (s.background.map ("on " ++ ·.name)).toList ++
    (s.link.map ("link " ++ ·)).toList

/-- The normal form of a style. -/
def text (s : Style) : String :=
  if s.words.isEmpty then "none" else " ".intercalate s.words

/-- The codes that switch a style on. -/
def codes (s : Style) : List Nat :=
  (Effect.all.filter fun a => s.mark? a = some true).map Effect.code ++
    s.color.elim [] (·.paint.textCodes) ++ s.background.elim [] (·.paint.backgroundCodes)

/-- Lays an effect or a color over a style. -/
def addWord (s : Style) (word : String) : Except StyleDefect Style :=
  match Effect.ofWord? word with
  | some a => .ok { s with marks := (a, true) :: s.marks }
  | none => do
    let color ← Color.ofWord word
    return { s with color := some color }

/-- Reads the words of a style over those that are already read. -/
def readWords (s : Style) : List String → Except StyleDefect Style
  | [] => .ok s
  | [word] => s.addWord (String.ofList (Text.lower word.toList))
  | word :: next :: rest =>
    let small := String.ofList (Text.lower word.toList)
    if small = "on" then do
      let color ← Color.ofWord next
      readWords { s with background := some color } rest
    else if small = "not" then
      match Effect.ofWord? next with
      | some a => readWords { s with marks := (a, false) :: s.marks } rest
      | none => .error .unknown
    else if small = "link" then readWords { s with link := some next } rest
    else do
      let s ← s.addWord small
      readWords s (next :: rest)

/-- Reads a style. -/
def ofText (text : String) : Except StyleDefect Style :=
  if Text.trim text = "none" then .ok plain else readWords plain (Text.words text)

/-- The form in which two names of styles are compared: the normal form of the style, or the text
itself in small letters if it is no style. -/
def normalName (text : String) : Except StyleDefect String :=
  match ofText text with
  | .ok s => .ok s.text
  | .error .unknown => .ok (String.ofList (Text.lower (Text.trim text).toList))
  | .error e => .error e

end Style

end JvmDeps
