import JvmDeps.Bytes.Parser

set_option autoImplicit false

/-! # Modified UTF-8

The text encoding of class files. It differs from UTF-8 in two points: the character U+0000 is
written `C0 80`, and a character beyond the basic plane is written as its two surrogates, three
bytes each. Reading also accepts a plain zero byte and the four-byte form; overlong forms and
surrogates that do not come as a pair are refused.

Reading goes in two steps: `units` cuts the bytes into units, each a code point or a surrogate, and
`combine` joins the pairs of surrogates.
-/

namespace JvmDeps.ModifiedUtf8

/-- The six bits of a continuation byte. -/
def continuation? (b : UInt8) : Option Nat :=
  if 0x80 ≤ b.toNat && b.toNat < 0xc0 then some (b.toNat - 0x80) else none

/-- The value of a two-byte unit. -/
def twoByte? (a b : UInt8) : Option Nat := do
  let low ← continuation? b
  if a.toNat = 0xc0 && low = 0 then some 0
  else if 0xc2 ≤ a.toNat && a.toNat < 0xe0 then some ((a.toNat - 0xc0) * 64 + low)
  else none

/-- The value of a three-byte unit. -/
def threeByte? (a b c : UInt8) : Option Nat := do
  let middle ← continuation? b
  let low ← continuation? c
  let n := ((a.toNat - 0xe0) * 64 + middle) * 64 + low
  if 0xe0 ≤ a.toNat && a.toNat < 0xf0 && 0x800 ≤ n then some n else none

/-- The value of a four-byte unit. -/
def fourByte? (a b c d : UInt8) : Option Nat := do
  let high ← continuation? b
  let middle ← continuation? c
  let low ← continuation? d
  let n := (((a.toNat - 0xf0) * 64 + high) * 64 + middle) * 64 + low
  if 0xf0 ≤ a.toNat && a.toNat < 0xf5 && 0x10000 ≤ n && n < 0x110000 then some n else none

/-- The units of a sequence of bytes: code points and surrogates. -/
def units : Bytes → Option (List Nat)
  | [] => some []
  | a :: s =>
    if a.toNat < 0x80 then (units s).map (a.toNat :: ·)
    else
      match s with
      | [] => none
      | b :: s =>
        match twoByte? a b with
        | some n => (units s).map (n :: ·)
        | none =>
          match s with
          | [] => none
          | c :: s =>
            match threeByte? a b c with
            | some n => (units s).map (n :: ·)
            | none =>
              match s with
              | [] => none
              | d :: s =>
                match fourByte? a b c d with
                | some n => (units s).map (n :: ·)
                | none => none

/-- The unit is the first surrogate of a pair. -/
def isHigh (n : Nat) : Bool := 0xd800 ≤ n && n < 0xdc00

/-- The unit is the second surrogate of a pair. -/
def isLow (n : Nat) : Bool := 0xdc00 ≤ n && n < 0xe000

/-- The code point of a pair of surrogates. -/
def joinPair (high low : Nat) : Nat := 0x10000 + (high - 0xd800) * 0x400 + (low - 0xdc00)

/-- The characters of a sequence of units; a surrogate without its partner is refused. -/
def combine : List Nat → Option (List Char)
  | [] => some []
  | n :: rest =>
    if isHigh n then
      match rest with
      | [] => none
      | m :: rest =>
        if isLow m then (combine rest).map (Char.ofNat (joinPair n m) :: ·) else none
    else if isLow n then none
    else (combine rest).map (Char.ofNat n :: ·)

/-- The text that bytes encode. -/
def decode? (bytes : Bytes) : Option String :=
  (units bytes >>= combine).map String.ofList

/-! ## Writing -/

/-- The three bytes of a unit. -/
def threeBytes (n : Nat) : Bytes :=
  [UInt8.ofNat (0xe0 + n / 4096), UInt8.ofNat (0x80 + n / 64 % 64), UInt8.ofNat (0x80 + n % 64)]

/-- The bytes of a character. -/
def encodeChar (c : Char) : Bytes :=
  let n := c.toNat
  if n = 0 then [0xc0, 0x80]
  else if n < 0x80 then [UInt8.ofNat n]
  else if n < 0x800 then [UInt8.ofNat (0xc0 + n / 64), UInt8.ofNat (0x80 + n % 64)]
  else if n < 0x10000 then threeBytes n
  else
    threeBytes (0xd800 + (n - 0x10000) / 0x400) ++ threeBytes (0xdc00 + (n - 0x10000) % 0x400)

/-- The bytes of a text. -/
def encode (s : String) : Bytes :=
  s.toList.flatMap encodeChar

end JvmDeps.ModifiedUtf8
