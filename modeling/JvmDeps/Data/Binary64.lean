import JvmDeps.Data.Rounding

set_option autoImplicit false

/-! # Binary numbers of 64 bits

Numbers with a binary point: a sign, a significand below 2 to the 53rd and a power of two.
`Binary64.ofDecimal` gives the number nearest to a decimal one, `Binary64.shortest` the fewest
decimal digits that are read back as the number, and `Binary64.text` writes them.

All of it is exact: a number is a quotient of natural numbers, and is rounded once.
-/

namespace JvmDeps

/-- A binary number of 64 bits. -/
inductive Binary64 where
  /-- The significand times a power of two. -/
  | finite (negative : Bool) (significand : Nat) (exponent : Int)
  /-- Larger than every number. -/
  | infinite (negative : Bool)
deriving DecidableEq, Repr

namespace Binary64

/-! ## Rounding -/

/-- The exponent of the smallest numbers. -/
def leastExponent : Int := -1074

/-- The exponent of the largest numbers. -/
def greatestExponent : Int := 971

/-- The first significand that is too large. -/
def significandBound : Nat := 0x20000000000000

/-- A natural number times a power of a base, as a quotient. -/
def scaled (base n : Nat) (exponent : Int) : Nat × Nat :=
  (n * Nat.pow base exponent.toNat, Nat.pow base (-exponent).toNat)

/-- The significand of a quotient at an exponent, if it is not too large. -/
def significandAt? (n d : Nat) (exponent : Int) : Option (Nat × Int) :=
  let (up, down) := scaled 2 1 exponent
  let significand := roundDiv (n * down) (d * up)
  if significand < significandBound then some (significand, exponent) else none

/-- The significand and the exponent nearest to a quotient; none if it is too large. The first of
the exponents that are tried may be too small by one, and by one more if rounding reaches the next
power of two. -/
def nearest? (n d : Nat) : Option (Nat × Int) :=
  let least := max leastExponent ((n.log2 : Int) - d.log2 - 53)
  match [least, least + 1, least + 2].findSome? (significandAt? n d) with
  | none => none
  | some (significand, exponent) =>
    if exponent ≤ greatestExponent then some (significand, exponent) else none

/-- The number nearest to some digits times a power of ten. No number has more than 310 digits in
front of the point, nor more than 330 zeros behind it. -/
def ofDecimal (negative : Bool) (digits : Nat) (exponent : Int) : Binary64 :=
  let size : Int := (Nat.toDigits 10 digits).length + exponent
  if digits = 0 || size < -330 then .finite negative 0 leastExponent
  else if 310 < size then .infinite negative
  else
    let (n, d) := scaled 10 digits exponent
    match nearest? n d with
    | none => .infinite negative
    | some (significand, power) => .finite negative significand power

/-- The value of the digits among some characters. -/
def digitsValue (cs : List Char) : Nat :=
  (cs.filter Char.isDigit).foldl (fun n c => 10 * n + (c.toNat - '0'.toNat)) 0

/-- Reads a number that is written with a sign, a point or an exponent. -/
def ofText (cs : List Char) : Binary64 :=
  let isMark (c : Char) : Bool := c == 'e' || c == 'E'
  let front := cs.takeWhile (!isMark ·)
  let power := cs.dropWhile (!isMark ·)
  let places := (front.dropWhile (· != '.')).length - 1
  let exponent : Int := digitsValue power
  ofDecimal (front.head? == some '-') (digitsValue front)
    ((if power.contains '-' then -exponent else exponent) - places)

/-- The number is not zero. -/
def isNonzero : Binary64 → Bool
  | finite _ significand _ => significand != 0
  | infinite _ => true

/-! ## Digits -/

/-- How many digits a positive quotient has in front of the point; less than zero if zeros follow
the point. -/
def magnitude (n d : Nat) : Int :=
  ((Nat.toDigits 10 (n * Nat.pow 10 400 / d)).length : Int) - 400

/-- Digits times a power of ten that are read back as a significand and exponent, if there are `k`
digits that are. The digits nearest to the number are preferred to its other neighbour. -/
def digits? (significand : Nat) (exponent : Int) (k : Nat) : Option (Nat × Int) :=
  let (n, d) := scaled 2 significand exponent
  let power := magnitude n d - k
  let (up, down) := scaled 10 1 power
  let first := roundDiv (n * down) (d * up)
  let floor := n * down / (d * up)
  let readsBack (digits : Nat) : Bool :=
    let (n, d) := scaled 10 digits power
    nearest? n d = some (significand, exponent)
  ([first, 2 * floor + 1 - first].find? readsBack).map (·, power)

/-- The fewest digits, times a power of ten, that are read back as a significand and exponent.
Seventeen are always enough. -/
def shortest (significand : Nat) (exponent : Int) : Nat × Int :=
  ((List.range' 1 17).findSome? (digits? significand exponent)).getD (0, 0)

/-! ## Text -/

/-- The digits of a number without zeros at the end. -/
def significantDigits (digits : Nat) : List Char :=
  ((Nat.toDigits 10 digits).reverse.dropWhile (· == '0')).reverse

/-- An exponent of ten, with its sign and at least two digits. -/
def exponentText (exponent : Int) : List Char :=
  let digits := Nat.toDigits 10 exponent.natAbs
  'e' :: (if exponent < 0 then '-' else '+') :: List.replicate (2 - digits.length) '0' ++ digits

/-- Digits with a point in front of or between them, of which `point` stand in front of it, and at
least one on each side. -/
def positional (digits : List Char) (point : Int) : List Char :=
  let whole := digits.take point.toNat ++ List.replicate (point.toNat - digits.length) '0'
  let fraction := List.replicate (-point).toNat '0' ++ digits.drop point.toNat
  (if whole.isEmpty then ['0'] else whole) ++ '.' :: (if fraction.isEmpty then ['0'] else fraction)

/-- Digits as a number from one to ten, times a power of ten. -/
def scientific (digits : List Char) (exponent : Int) : List Char :=
  match digits with
  | [] => []
  | [d] => d :: exponentText exponent
  | d :: rest => d :: '.' :: rest ++ exponentText exponent

/-- Digits times a power of ten: with a point from 0.0001 up to 10 to the 16th, else with an
exponent. -/
def decimalText (digits : Nat) (exponent : Int) : List Char :=
  let point : Int := (Nat.toDigits 10 digits).length + exponent
  if digits = 0 then ['0', '.', '0']
  else if -4 < point && point ≤ 16 then positional (significantDigits digits) point
  else scientific (significantDigits digits) (point - 1)

/-- The text of a number, which is read back as the number. -/
def text : Binary64 → String
  | finite negative significand exponent =>
    let (digits, power) := if significand = 0 then (0, 0) else shortest significand exponent
    String.ofList ((if negative then ['-'] else []) ++ decimalText digits power)
  | infinite negative => if negative then "-inf" else "inf"

end Binary64

end JvmDeps
