set_option autoImplicit false

/-! # Tokens of literals

The tokens of the values that a tag can carry: numbers, quoted texts, words, brackets and the signs
between them. `tokens?` reads them from a text; it refuses what is no token, such as a quote that is
never closed or a number with letters behind it.
-/

namespace JvmDeps.Literal

/-- A token. -/
inductive Token where
  | real
  | imaginary
  | text
  | bytes
  | word (letters : List Char)
  | mark (c : Char)
  | dots
  | lineEnd
deriving DecidableEq, Repr

/-! ## Numbers -/

/-- The length of the digits at the start of a text, with single underscores between them. -/
def digitRun (p : Char → Bool) : List Char → Nat
  | c :: '_' :: d :: cs =>
    if p c then (if p d then 2 + digitRun p (d :: cs) else 1) else 0
  | c :: cs => if p c then 1 + digitRun p cs else 0
  | [] => 0

/-- The digits of the bases that a letter behind a zero stands for. -/
def baseDigit? (letter : Char) : Option (Char → Bool) :=
  match letter.toLower with
  | 'x' => some fun c => c.isDigit || ('a' ≤ c.toLower && c.toLower ≤ 'f')
  | 'o' => some fun c => '0' ≤ c && c ≤ '7'
  | 'b' => some fun c => c = '0' || c = '1'
  | _ => none

/-- A character that continues a word. -/
def isWordPart (c : Char) : Bool := c.isAlphanum || c = '_' || 128 ≤ c.toNat

/-- The longest whole number that is read. -/
def maxDigits : Nat := 4300

/-- Decimal digits are a whole number: a zero in front stands only before zeros. -/
def isWhole (digits : List Char) : Bool :=
  let digits := digits.filter (· ≠ '_')
  (digits.head? ≠ some '0' || digits.all (· = '0')) && digits.length ≤ maxDigits

/-- The length of the exponent at the start of a text; none if it has no digits. -/
def exponent? : List Char → Option Nat
  | c :: cs =>
    if c.toLower = 'e' then
      let sign := if cs.head? = some '+' || cs.head? = some '-' then 1 else 0
      let digits := digitRun Char.isDigit (cs.drop sign)
      if digits = 0 then none else some (1 + sign + digits)
    else some 0
  | [] => some 0

/-- The decimal number at the start of a text, with its length. -/
def decimal? (cs : List Char) : Option (Token × Nat) := do
  let whole := digitRun Char.isDigit cs
  let fraction :=
    match cs.drop whole with
    | '.' :: rest => 1 + digitRun Char.isDigit rest
    | _ => 0
  let size := whole + fraction
  let size := size + (← exponent? (cs.drop size))
  if ((cs.drop size).head?.map Char.toLower) = some 'j' then return (.imaginary, size + 1)
  else if size = whole && !isWhole (cs.take whole) then none
  else return (.real, size)

/-- The number at the start of a text, with its length. -/
def number? (cs : List Char) : Option (Token × Nat) := do
  let (token, size) ←
    match cs with
    | '0' :: letter :: rest =>
      match baseDigit? letter with
      | some p =>
        let skip := if rest.head? = some '_' then 1 else 0
        let digits := digitRun p (rest.drop skip)
        if digits = 0 then none else some (Token.real, 2 + skip + digits)
      | none => decimal? cs
    | _ => decimal? cs
  if (cs.drop size).head?.any isWordPart then none else return (token, size)

/-! ## Quoted texts -/

/-- How a quoted text is read. -/
structure Quotation where
  quote : Char
  /-- The quote stands three times at each end. -/
  tripled : Bool
  /-- Backslashes stand for themselves. -/
  raw : Bool
  /-- The text is made of bytes. -/
  bytes : Bool
deriving DecidableEq, Repr

/-- There are `n` hexadecimal digits at the start of a text. -/
def startsWithHex (n : Nat) (cs : List Char) : Bool :=
  let digits := cs.take n
  digits.length = n && digits.all fun c => c.isDigit || ('a' ≤ c.toLower && c.toLower ≤ 'f')

/-- The length of an escape without its backslash. -/
def escape? (q : Quotation) : List Char → Option Nat
  | [] => none
  | c :: cs =>
    if q.raw then some 1
    else if c = 'x' then if startsWithHex 2 cs then some 3 else none
    else if c = 'u' && !q.bytes then if startsWithHex 4 cs then some 5 else none
    else if c = 'U' && !q.bytes then
      if startsWithHex 8 cs && (cs.take 2 = ['0', '0'] &&
        (cs.drop 2).head? = some '0' || cs.take 4 = ['0', '0', '1', '0']) then some 9
      else none
    else if c = 'N' && !q.bytes then
      let name := cs.takeWhile (· ≠ '\x7d')
      if name.head? = some '\x7b' && name.length < cs.length then some (name.length + 2) else none
    else some 1

/-- The length of what is left of a quoted text, of which `skip` characters belong to an escape. -/
def quotedRest? (q : Quotation) : (skip : Nat) → List Char → Option Nat
  | _, [] => none
  | skip + 1, _ :: cs => (quotedRest? q skip cs).map (· + 1)
  | 0, c :: cs =>
    if c = '\\' then do
      let skip ← escape? q cs
      return (← quotedRest? q skip cs) + 1
    else if c = q.quote then
      if !q.tripled then some 1
      else if cs.take 2 = [q.quote, q.quote] then some 3
      else (quotedRest? q 0 cs).map (· + 1)
    else if (c = '\n' || c = '\r') && !q.tripled then none
    else (quotedRest? q 0 cs).map (· + 1)

/-- The quoted text at the start of a text, with its length. -/
def quoted? (raw bytes : Bool) : List Char → Option (Token × Nat)
  | [] => none
  | quote :: cs =>
    let tripled : Bool := cs.take 2 = [quote, quote]
    let ends := if tripled then 3 else 1
    match quotedRest? ⟨quote, tripled, raw, bytes⟩ 0 ((quote :: cs).drop ends) with
    | none => none
    | some rest =>
      let size := ends + rest
      if bytes && !((quote :: cs).take size).all (·.toNat < 128) then none
      else some (if bytes then .bytes else .text, size)

/-- The ways to read a quoted text that letters in front of it ask for: raw, and as bytes. -/
def quotationOf? (letters : List Char) : Option (Bool × Bool) :=
  match letters.map Char.toLower with
  | [] => some (false, false)
  | ['u'] => some (false, false)
  | ['r'] => some (true, false)
  | ['b'] => some (false, true)
  | ['b', 'r'] => some (true, true)
  | ['r', 'b'] => some (true, true)
  | _ => none

/-- The character opens and closes a text. -/
def isQuote (c : Char) : Bool := c = '\'' || c = '"'

/-- The word or quoted text at the start of a text, with its length. -/
def word? (cs : List Char) : Option (Token × Nat) :=
  let letters := cs.takeWhile isWordPart
  let rest := cs.drop letters.length
  if rest.head?.any isQuote then do
    let (raw, bytes) ← quotationOf? letters
    let (token, size) ← quoted? raw bytes rest
    return (token, letters.length + size)
  else if letters.isEmpty then none
  else some (.word letters, letters.length)

/-! ## Tokens -/

/-- What stands at the start of a text: nothing or a token, with its length. -/
def lexeme? : List Char → Option (Option Token × Nat)
  | [] => none
  | c :: cs =>
    if c = ' ' || c = '\t' || c = '\x0c' then some (none, 1)
    else if c = '\n' || c = '\r' then some (some .lineEnd, 1)
    else if c = '#' then some (none, 1 + (cs.takeWhile fun c => c ≠ '\n' && c ≠ '\r').length)
    else if c = '\\' then if cs.head? = some '\n' then some (none, 2) else none
    else if (c :: cs).take 3 = ['.', '.', '.'] then some (some .dots, 3)
    else if c.isDigit || (c = '.' && cs.head?.any Char.isDigit) then
      (number? (c :: cs)).map fun found => (some found.1, found.2)
    else if "()\x7b\x7d,:+-".toList.contains c then some (some (.mark c), 1)
    else (word? (c :: cs)).map fun found => (some found.1, found.2)

/-- The deepest nesting of brackets. -/
def maxDepth : Nat := 200

/-- How many brackets are open behind a token. -/
def depthAfter (depth : Nat) : Token → Nat
  | .mark c =>
    if c = '(' || c = '\x7b' then depth + 1
    else if c = ')' || c = '\x7d' then depth - 1
    else depth
  | _ => depth

/-- The tokens of a text of which `skip` characters are already used, inside `depth` brackets; there
a line end is no token. -/
def tokensFrom? : (depth skip : Nat) → List Char → Option (List Token)
  | _, _, [] => some []
  | depth, skip + 1, _ :: cs => tokensFrom? depth skip cs
  | depth, 0, c :: cs =>
    match lexeme? (c :: cs) with
    | none => none
    | some (none, size) => tokensFrom? depth (size - 1) cs
    | some (some token, size) =>
      let after := depthAfter depth token
      if maxDepth < after then none
      else if token = .lineEnd && 0 < depth then tokensFrom? depth (size - 1) cs
      else (tokensFrom? after (size - 1) cs).map (token :: ·)

/-- The tokens of a text. -/
def tokens? (cs : List Char) : Option (List Token) :=
  if cs.contains '\x00' then none else tokensFrom? 0 0 cs

end JvmDeps.Literal
