import JvmDeps.Printing.StyledText
import JvmDeps.Text.Blank

set_option autoImplicit false

/-! # Lines of text

Breaks a styled text into lines of a given width (`StyledText.wrap`). The lines of the text itself
are kept, tabs lead to the next multiple of eight cells, and a line that is too long is broken
between words where that is possible. A word that is wider than a line is either chopped or starts a
line of its own, which then ends in an ellipsis.
-/

namespace JvmDeps

/-- What becomes of a word that is wider than a line. -/
inductive Overflow where
  | chopped
  | ellipsis
deriving DecidableEq, Repr

/-- Where pieces start that stand one after the other from `start` on. -/
def startsFrom (start : Nat) : List (List Char) → List Nat
  | [] => []
  | piece :: pieces => start :: startsFrom (start + piece.length) pieces

/-- The pieces into which a word is taken apart that is wider than a line. -/
def wordPieces (overflow : Overflow) (width : Nat) (word : List Char) : List (List Char) :=
  match overflow with
  | .chopped => Text.chop width word
  | .ellipsis => [word]

/-- Where a text is broken: `start` is the index of the first of the words that are left, and `used`
counts the cells in the line so far. A word that fits stays in its line, any other starts a line;
of one that is wider than a line, so does every piece. -/
def breaksFrom (overflow : Overflow) (width : Nat) :
    (start used : Nat) → List (List Char) → List Nat
  | _, _, [] => []
  | start, used, word :: words =>
    let size := Text.cells (Text.trimEnd word)
    let next := start + word.length
    if used + size ≤ width then
      breaksFrom overflow width next (used + Text.cells word) words
    else if size > width then
      let pieces := wordPieces overflow width word
      (startsFrom start pieces).filter (· ≠ 0) ++
        breaksFrom overflow width next (Text.cells (pieces.getLast?.getD [])) words
    else if used > 0 && start > 0 then
      start :: breaksFrom overflow width next (Text.cells word) words
    else breaksFrom overflow width next used words

namespace StyledText

/-- The places behind the characters that satisfy `p`, from place `i` on. -/
def placesBehind (p : Char → Bool) : (i : Nat) → List Char → List Nat
  | _, [] => []
  | i, c :: cs => if p c then (i + 1) :: placesBehind p (i + 1) cs else placesBehind p (i + 1) cs

/-- The slices of a text in front of and between line ends, given the places behind them. -/
def linesFrom (t : StyledText) (start : Nat) : List Nat → List StyledText
  | [] => [t.slice start t.chars.length]
  | place :: places => t.slice start (place - 1) :: t.linesFrom place places

/-- The lines of a text, one more than it has line ends. -/
def lines (t : StyledText) : List StyledText :=
  match placesBehind (· = '\n') 0 t.chars with
  | [] => [t]
  | places => t.linesFrom 0 places

/-! ## Tabs -/

/-- The cells to which a tab leads are multiples of this. -/
def tabStop : Nat := 8

/-- A part of a line that starts in cell `used`, with the tab at its end replaced by blanks. -/
def expandPart (used : Nat) (part : StyledText) : StyledText :=
  if part.chars.getLast? = some '\t' then
    let chars := part.chars.dropLast ++ [' ']
    let fill := (tabStop - (used + Text.cells chars) % tabStop) % tabStop
    { chars := chars ++ List.replicate fill ' '
      spans := part.spans.map fun span =>
        if chars.length ≤ span.stop then { span with stop := span.stop + fill } else span }
  else part

/-- The parts of a line with their tabs replaced, the first of which starts in cell `used`. -/
def expandParts (used : Nat) : List StyledText → List StyledText
  | [] => []
  | part :: parts =>
    let expanded := expandPart used part
    expanded :: expandParts (used + Text.cells expanded.chars) parts

/-- A line with blanks for its tabs. -/
def expandTabs (t : StyledText) : StyledText :=
  match placesBehind (· = '\t') 0 t.chars with
  | [] => t
  | places => join (expandParts 0 (t.divide places))

/-! ## Fitting -/

/-- Drops blanks at the end of a line, as far as it has more characters than `width`. -/
def dropExcess (width : Nat) (t : StyledText) : StyledText :=
  let blanks := (t.chars.reverse.takeWhile Text.isBlank).length
  let excess := min blanks (t.chars.length - width)
  if excess = 0 then t else t.withChars (t.chars.take (t.chars.length - excess))

/-- A line in at most `width` cells. -/
def truncate (overflow : Overflow) (width : Nat) (t : StyledText) : StyledText :=
  if Text.cells t.chars ≤ width then t
  else
    match overflow with
    | .chopped => t.withChars (Text.fit width t.chars)
    | .ellipsis => t.withChars (Text.fit (width - 1) t.chars ++ ['…'])

/-- Fills a line up with blanks to `width` cells. -/
def pad (width : Nat) (t : StyledText) : StyledText :=
  { t with chars := t.chars ++ List.replicate (width - Text.cells t.chars) ' ' }

/-- Breaks one line of a text into lines of at most `width` cells. -/
def wrapLine (overflow : Overflow) (width : Nat) (line : StyledText) : List StyledText :=
  let line := line.expandTabs
  (line.divide (breaksFrom overflow width 0 0 (Text.lineWords line.chars))).map fun part =>
    (part.dropExcess width).truncate overflow width

/-- Breaks a text into lines of at most `width` cells. -/
def wrap (overflow : Overflow) (width : Nat) (t : StyledText) : List StyledText :=
  t.lines.flatMap (wrapLine overflow width)

end StyledText

end JvmDeps
