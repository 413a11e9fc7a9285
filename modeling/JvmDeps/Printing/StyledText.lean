import JvmDeps.Printing.Style
import JvmDeps.Printing.Cells

set_option autoImplicit false

/-! # Styled text

A text with styles over parts of it. The spans are laid over one another in their order, a later one
over an earlier one. `StyledText.divide` cuts a styled text at given places, and
`StyledText.pieces` gives what is written on a terminal: the stretches between the ends of spans,
each in one style. Two pieces stay apart even if their styles are the same.
-/

namespace JvmDeps

/-- A style from one place in a text to another. -/
structure Span where
  start : Nat
  stop : Nat
  style : Style
deriving DecidableEq, Repr

namespace Span

/-- The span in a text that starts `n` characters earlier. -/
def shift (n : Nat) (span : Span) : Span :=
  { span with start := span.start + n, stop := span.stop + n }

/-- What a span covers between two places, counted from the first of them. -/
def within? (start stop : Nat) (span : Span) : Option Span :=
  let first := max span.start start
  let last := min span.stop stop
  if first < last then some ⟨first - start, last - start, span.style⟩ else none

/-- What a span covers in front of a place; none if it starts there or later. -/
def before? (stop : Nat) (span : Span) : Option Span :=
  if span.start < stop then some { span with stop := min span.stop stop } else none

end Span

/-- Characters that are written in one style. -/
structure Piece where
  style : Style
  chars : List Char
deriving DecidableEq, Repr

namespace Piece

/-- Writes a piece between the codes that switch its style on and off; without colors, or without
style or text, it is bare. -/
def render (color : Bool) (piece : Piece) : String :=
  let body := String.ofList piece.chars
  let codes := piece.style.codes.map toString
  if color && !piece.chars.isEmpty && !codes.isEmpty then
    "\x1b[" ++ ";".intercalate codes ++ "m" ++ body ++ "\x1b[0m"
  else body

/-- Writes pieces one after the other. -/
def renderAll (color : Bool) (pieces : List Piece) : String :=
  String.join (pieces.map (render color))

/-- Without colors, a piece is its characters. -/
@[simp] theorem render_false (piece : Piece) : piece.render false = String.ofList piece.chars := by
  simp [render]

/-- Without colors, pieces are their characters. -/
theorem toList_renderAll_false (pieces : List Piece) :
    (renderAll false pieces).toList = pieces.flatMap Piece.chars := by
  simp [renderAll, List.flatMap_map]

/-- The cells of some pieces, each counted on its own. -/
def totalCells (pieces : List Piece) : Nat :=
  pieces.foldl (fun n piece => n + Text.cells piece.chars) 0

/-- The pieces in the first `width` cells, the last of them cut or filled up. -/
def takeCells : (width : Nat) → List Piece → List Piece
  | _, [] => []
  | width, piece :: pieces =>
    let size := Text.cells piece.chars
    if size < width then piece :: takeCells (width - size) pieces
    else [{ piece with chars := Text.fit width piece.chars }]

/-- Pieces in at most `width` cells. -/
def crop (width : Nat) (pieces : List Piece) : List Piece :=
  if totalCells pieces ≤ width then pieces else takeCells width pieces

/-- Pieces in exactly `width` cells. -/
def fit (width : Nat) (pieces : List Piece) : List Piece :=
  if totalCells pieces < width then
    pieces ++ [⟨.plain, List.replicate (width - totalCells pieces) ' '⟩]
  else crop width pieces

/-- Lays pieces over a style. -/
def overStyle (base : Style) (pieces : List Piece) : List Piece :=
  pieces.map fun piece => { piece with style := piece.style.atop base }

end Piece

/-- A text with styles over parts of it. -/
structure StyledText where
  chars : List Char
  spans : List Span := []
deriving DecidableEq, Repr

namespace StyledText

/-- One text after the other. -/
def append (t u : StyledText) : StyledText where
  chars := t.chars ++ u.chars
  spans := t.spans ++ u.spans.map (Span.shift t.chars.length)

instance : Append StyledText := ⟨append⟩

/-- Texts one after the other. -/
def join (texts : List StyledText) : StyledText := texts.foldl append ⟨[], []⟩

/-- The text between two places. -/
def slice (start stop : Nat) (t : StyledText) : StyledText where
  chars := (t.chars.take stop).drop start
  spans := t.spans.filterMap (Span.within? start stop)

/-- The slices from `start` to each of some places in turn, and from the last to the end. -/
def slicesFrom (t : StyledText) (start : Nat) : List Nat → List StyledText
  | [] => [t.slice start t.chars.length]
  | place :: places => t.slice start place :: t.slicesFrom place places

/-- Cuts a text at some places, given in increasing order. A text that is not cut stays as it is. -/
def divide (places : List Nat) (t : StyledText) : List StyledText :=
  if places.isEmpty then [t] else t.slicesFrom 0 places

/-- Replaces the characters by no more than there are styles for. -/
def withChars (t : StyledText) (chars : List Char) : StyledText where
  chars := chars
  spans := t.spans.filterMap (Span.before? chars.length)

/-! ## Pieces -/

/-- A span starts or ends at a place. -/
def isSeam (t : StyledText) (i : Nat) : Bool :=
  t.spans.any fun span => span.start = i || span.stop = i

/-- The style of a character: all spans over it, the later ones over the earlier. -/
def styleAt (t : StyledText) (i : Nat) : Style :=
  (t.spans.filter fun span => span.start ≤ i && i < span.stop).foldl
    (fun base span => span.style.atop base) .plain

/-- The pieces of the characters from place `i` on. -/
def piecesFrom (t : StyledText) : (i : Nat) → List Char → List Piece
  | _, [] => []
  | i, c :: cs =>
    match t.piecesFrom (i + 1) cs with
    | [] => [⟨t.styleAt i, [c]⟩]
    | piece :: pieces =>
      if t.isSeam (i + 1) then ⟨t.styleAt i, [c]⟩ :: piece :: pieces
      else { piece with chars := c :: piece.chars } :: pieces

/-- The pieces of a text. -/
def pieces (t : StyledText) : List Piece := t.piecesFrom 0 t.chars

theorem flatMap_piecesFrom (t : StyledText) (i : Nat) (cs : List Char) :
    (t.piecesFrom i cs).flatMap Piece.chars = cs := by
  induction cs generalizing i with
  | nil => rfl
  | cons c cs ih =>
    have h := ih (i + 1)
    rw [piecesFrom]
    split
    · next e => simp_all
    · next e => split <;> simp_all

/-- The pieces hold every character of the text. -/
theorem flatMap_pieces (t : StyledText) : t.pieces.flatMap Piece.chars = t.chars :=
  t.flatMap_piecesFrom 0 t.chars

end StyledText

end JvmDeps
