import JvmDeps.Text.Printable

set_option autoImplicit false

/-! # Quoted text

The form in which a text is shown inside a message (`quoted`). Apostrophes surround it, unless it
holds an apostrophe and no double quote: then double quotes do. The backslash, the quote in use
and the characters without a graphic form are written as escapes.
-/

namespace JvmDeps.Text

/-- The digits of `n` in base 16, lower case, with zeros in front up to `width`. -/
def hexDigits (width n : Nat) : List Char :=
  let digits := Nat.toDigits 16 n
  List.replicate (width - digits.length) '0' ++ digits

/-- The quote that surrounds a text. -/
def quoteFor (cs : List Char) : Char :=
  if cs.contains '\'' && !cs.contains '"' then '"' else '\''

/-- The escape of a character without a graphic form: by its code point, in the shortest of three
widths. -/
def escapeHidden (c : Char) : List Char :=
  if c.toNat < 0x100 then '\\' :: 'x' :: hexDigits 2 c.toNat
  else if c.toNat < 0x10000 then '\\' :: 'u' :: hexDigits 4 c.toNat
  else '\\' :: 'U' :: hexDigits 8 c.toNat

/-- How one character is written between quotes. -/
def quoteChar (quote c : Char) : List Char :=
  if c = '\\' || c = quote then ['\\', c]
  else if c = '\n' then ['\\', 'n']
  else if c = '\r' then ['\\', 'r']
  else if c = '\t' then ['\\', 't']
  else if isPrintable c then [c]
  else escapeHidden c

/-- A text as it is shown inside a message. -/
def quotedChars (cs : List Char) : List Char :=
  quoteFor cs :: cs.flatMap (quoteChar (quoteFor cs)) ++ [quoteFor cs]

/-- A text as it is shown inside a message. -/
def quoted (s : String) : String :=
  String.ofList (quotedChars s.toList)

/-- One character as it is shown inside a message. -/
def quotedChar (c : Char) : String :=
  String.ofList (quotedChars [c])

end JvmDeps.Text
