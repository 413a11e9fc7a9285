import JvmDeps.Bytes.Parser

set_option autoImplicit false

/-! # Range-coded data

Expands data that was compressed by the LZMA method. The data is a sequence of bits, each of which
takes a part of a range that is as large as the bit was likely; how likely it was is learned from
the bits before it in the same context. The bits make up literal bytes, and copies of earlier output
by their length and distance. The last four distances can be used again.

`Lzma.expand` gives all output that could be made, and how it ended: at the mark of the end, because
the data was exhausted, or at something invalid.
-/

namespace JvmDeps.Lzma

/-- What makes data invalid. -/
inductive Cause where
  /-- The properties ask for something that does not exist. -/
  | badProperties
  /-- The coded data is damaged. -/
  | corrupt
deriving DecidableEq, Repr

/-- The wording of a cause. -/
def Cause.text : Cause → String
  | badProperties => "Invalid or unsupported options"
  | corrupt => "Corrupt input data"

/-- Why reading stops early. -/
inductive Halt where
  | exhausted
  | invalid (cause : Cause)
deriving DecidableEq, Repr

/-! ## Properties -/

/-- How contexts are chosen: by how many bits of the last byte and of the position for literals, and
by how many bits of the position for everything else; and how far back copies reach at most. -/
structure Properties where
  lastBits : Nat
  literalBits : Nat
  positionBits : Nat
  reach : Nat

/-- Reads properties from five bytes: the three numbers in one byte, and the reach, of which a
decoder has 4096 bytes at least and a multiple of 16. -/
def Properties.ofBytes? : Bytes → Option Properties
  | [packed, a, b, c, d] =>
    let packed := packed.toNat
    let lastBits := packed % 9
    let literalBits := packed / 9 % 5
    let reach := a.toNat + 0x100 * b.toNat + 0x10000 * c.toNat + 0x1000000 * d.toNat
    if 224 < packed || 4 < lastBits + literalBits then none
    else
      some { lastBits, literalBits
             positionBits := packed / 45
             reach := (max reach 4096 + 15) / 16 * 16 }
  | _ => none

/-! ## Bits -/

/-- The state of the range: its size, where the data lies in it, the bytes to come, and for each
context how likely a zero is, in parts of 2048. -/
structure Coder where
  range : Nat
  code : Nat
  input : Bytes
  chances : Array Nat

/-- Reads from coded data. -/
abbrev Reader := StateT Coder (Except Halt)

/-- Goes on only if the data is valid. -/
def check (valid : Bool) : Reader Unit := if valid then pure () else throw (.invalid .corrupt)

/-- Takes in a byte if the range has become small. -/
def Coder.normalize (c : Coder) : Except Halt Coder :=
  if 0x1000000 ≤ c.range then .ok c
  else
    match c.input with
    | [] => .error .exhausted
    | b :: input => .ok { c with range := 256 * c.range, code := 256 * c.code + b.toNat, input }

/-- The next bit in a context. -/
def bitIn (context : Nat) : Reader Nat := fun c => do
  let c ← c.normalize
  let chance := c.chances.getD context 1024
  let bound := c.range / 2048 * chance
  if c.code < bound then
    let chances := c.chances.setIfInBounds context (chance + (2048 - chance) / 32)
    return (0, { c with range := bound, chances })
  else
    let chances := c.chances.setIfInBounds context (chance - chance / 32)
    return (1, { c with range := c.range - bound, code := c.code - bound, chances })

/-- The next bit outside of all contexts, which is as likely zero as one. -/
def evenBit : Reader Nat := fun c => do
  let c ← c.normalize
  let range := c.range / 2
  if c.code < range then return (0, { c with range })
  else return (1, { c with range, code := c.code - range })

/-- The number in the next `n` bits outside of all contexts, behind a number that is already
read. -/
def evenBits (value : Nat) : Nat → Reader Nat
  | 0 => return value
  | n + 1 => do evenBits (2 * value + (← evenBit)) n

/-- Reads `n` bits down a tree of contexts. The result has a one in front of the bits. -/
def treeFrom (base node : Nat) : Nat → Reader Nat
  | 0 => return node
  | n + 1 => do treeFrom base (2 * node + (← bitIn (base + node))) n

/-- The number in the next `n` bits, down a tree of contexts. -/
def tree (base n : Nat) : Reader Nat := do return (← treeFrom base 1 n) - Nat.pow 2 n

/-- The number in the next `n` bits, down a tree of contexts, with the least significant bit
first. -/
def reverseTree (base node place : Nat) : Nat → Reader Nat
  | 0 => return 0
  | n + 1 => do
    let b ← bitIn (base + node)
    return b * Nat.pow 2 place + (← reverseTree base (2 * node + b) (place + 1) n)

/-! ## Contexts -/

namespace Context

/-- A copy rather than a literal, by the phase and the position. -/
def isCopy (phase position : Nat) : Nat := 16 * phase + position

/-- A distance that is used again. -/
def isAgain (phase : Nat) : Nat := 192 + phase

/-- Not the last distance. -/
def isNotFirst (phase : Nat) : Nat := 204 + phase

/-- Not the last but one. -/
def isNotSecond (phase : Nat) : Nat := 216 + phase

/-- Not the last but two. -/
def isNotThird (phase : Nat) : Nat := 228 + phase

/-- More than a single byte at the last distance. -/
def isLong (phase position : Nat) : Nat := 240 + 16 * phase + position

/-- The size class of a distance, by the length of the copy. -/
def distanceClass (length : Nat) : Nat := 432 + 64 * length

/-- The lower bits of a distance of medium size. -/
def distanceBits : Nat := 688

/-- The lowest four bits of a large distance. -/
def lowestBits : Nat := 816

/-- The lengths of copies at a new distance. -/
def newLength : Nat := 832

/-- The lengths of copies at a distance that is used again. -/
def againLength : Nat := 1346

/-- The literals. -/
def literal (choice : Nat) : Nat := 1860 + 768 * choice

/-- How many contexts there are. -/
def count (p : Properties) : Nat := 1860 + 768 * Nat.pow 2 (p.lastBits + p.literalBits)

end Context

/-! ## Symbols -/

/-- What has been decoded: the output, the last four distances less one, and the phase, which tells
what the last few symbols were. -/
structure Progress where
  out : Array UInt8
  first : Nat
  second : Nat
  third : Nat
  fourth : Nat
  phase : Nat

namespace Progress

/-- Nothing yet. -/
def start : Progress := ⟨#[], 0, 0, 0, 0, 0⟩

/-- The last symbol was a literal. -/
def afterLiteral (p : Progress) : Bool := p.phase < 7

/-- The byte at a distance, less one, back. -/
def byteBack (p : Progress) (distance : Nat) : Nat :=
  (p.out.getD (p.out.size - 1 - distance) 0).toNat

/-- Repeats the output from a distance, less one, back on, byte by byte. -/
def copy (p : Progress) : (length : Nat) → Progress
  | 0 => p
  | n + 1 => { p with out := p.out.push (UInt8.ofNat (p.byteBack p.first)) }.copy n

end Progress

/-- Reads a literal, where `expected` are the bits of the byte at the last distance, as long as the
literal agrees with it. -/
def literalFrom (base node expected : Nat) (agrees : Bool) : Nat → Reader Nat
  | 0 => return node
  | n + 1 => do
    let hint := expected / 128 % 2
    let b ← bitIn (base + (if agrees then 256 + 256 * hint else 0) + node)
    literalFrom base (2 * node + b) (2 * expected) (agrees && b = hint) n

/-- Reads a literal. After a copy, the byte at the last distance makes a context. -/
def readLiteral (props : Properties) (p : Progress) : Reader Progress := do
  let last := if p.out.isEmpty then 0 else p.byteBack 0
  let choice :=
    p.out.size % Nat.pow 2 props.literalBits * Nat.pow 2 props.lastBits +
      last / Nat.pow 2 (8 - props.lastBits)
  let byte ←
    literalFrom (Context.literal choice) 1 (p.byteBack p.first) (!p.afterLiteral) 8
  let phase :=
    if p.phase < 4 then 0 else if p.phase < 10 then p.phase - 3 else p.phase - 6
  return { p with out := p.out.push (UInt8.ofNat byte), phase }

/-- Reads the length of a copy: in one of three classes, the first two by position. -/
def readLength (base position : Nat) : Reader Nat := do
  if (← bitIn base) = 0 then return (← tree (base + 2 + 8 * position) 3) + 2
  else if (← bitIn (base + 1)) = 0 then return (← tree (base + 130 + 8 * position) 3) + 10
  else return (← tree (base + 258) 8) + 18

/-- Reads a distance, less one, for a copy of some length. -/
def readDistance (length : Nat) : Reader Nat := do
  let size ← tree (Context.distanceClass (min (length - 2) 3)) 6
  if size < 4 then return size
  else
    let bits := size / 2 - 1
    let high := (2 + size % 2) * Nat.pow 2 bits
    if size < 14 then
      return high + (← reverseTree (Context.distanceBits + high - size) 1 0 bits)
    else
      let middle ← evenBits 0 (bits - 4)
      return high + 16 * middle + (← reverseTree Context.lowestBits 1 0 4)

/-- The distance that marks the end of the data. -/
def endMark : Nat := 0xffffffff

/-- Reads which of the last distances is used again, and takes it to the front. A single byte at the
last one has no length of its own. -/
def readAgain (p : Progress) (position : Nat) : Reader Progress := do
  check (!p.out.isEmpty)
  let long (p : Progress) : Reader Progress := do
    let length ← readLength Context.againLength position
    return { p with phase := if p.afterLiteral then 8 else 11 }.copy length
  if (← bitIn (Context.isNotFirst p.phase)) = 0 then
    if (← bitIn (Context.isLong p.phase position)) = 0 then
      return { p with phase := if p.afterLiteral then 9 else 11 }.copy 1
    else long p
  else if (← bitIn (Context.isNotSecond p.phase)) = 0 then
    long { p with first := p.second, second := p.first }
  else if (← bitIn (Context.isNotThird p.phase)) = 0 then
    long { p with first := p.third, second := p.first, third := p.second }
  else long { p with first := p.fourth, second := p.first, third := p.second, fourth := p.third }

/-- Reads a copy at a new distance, which must not reach back before the output; none at the mark of
the end, where nothing of the range may be left. -/
def readNew (props : Properties) (p : Progress) (position : Nat) : Reader (Option Progress) := do
  let length ← readLength Context.newLength position
  let distance ← readDistance length
  if distance = endMark then
    set (← (← get).normalize)
    check ((← get).code = 0)
    return none
  else
    check (distance < min p.out.size props.reach)
    return some <| { p with
      first := distance, second := p.first, third := p.second, fourth := p.third
      phase := if p.afterLiteral then 7 else 10 }.copy length

/-- Reads a symbol; none at the mark of the end. -/
def readSymbol (props : Properties) (p : Progress) : Reader (Option Progress) := do
  let position := p.out.size % Nat.pow 2 props.positionBits
  if (← bitIn (Context.isCopy p.phase position)) = 0 then return some (← readLiteral props p)
  else if (← bitIn (Context.isAgain p.phase)) = 0 then readNew props p position
  else return some (← readAgain p position)

/-- Expands symbols up to the end. A bit leaves at most 2017 of 2048 parts of the range, so there
are less than 512 of them to a byte of the data, and `bound` of 512 for each byte is never
reached. -/
def expandSymbols (props : Properties) :
    (bound : Nat) → Progress → Coder → Array UInt8 × Except Halt Unit
  | 0, p, _ => (p.out, .error .exhausted)
  | bound + 1, p, c =>
    match readSymbol props p c with
    | .error e => (p.out, .error e)
    | .ok (none, _) => (p.out, .ok ())
    | .ok (some p, c) => expandSymbols props bound p c

/-- Expands coded data, which starts with a zero and four bytes that lie in the range. -/
def expandCoded (props : Properties) (bytes : Bytes) : Array UInt8 × Except Halt Unit :=
  match bytes with
  | [] => (#[], .error .exhausted)
  | zero :: rest =>
    if zero ≠ 0 then (#[], .error (.invalid .corrupt))
    else if rest.length < 4 then (#[], .error .exhausted)
    else
      let code := (rest.take 4).foldl (fun n b => 256 * n + b.toNat) 0
      expandSymbols props (512 * (bytes.length + 1)) .start
        { range := 0xffffffff, code, input := rest.drop 4
          chances := Array.replicate (Context.count props) 1024 }

/-- Expands data. In front of the coded data stand two bytes, the size of the properties and the
properties. -/
def expand (bytes : Bytes) : Bytes × Except Halt Unit :=
  match bytes.drop 2 with
  | low :: high :: rest =>
    let size := low.toNat + 256 * high.toNat
    if rest.length ≤ size then ([], .error .exhausted)
    else
      match Properties.ofBytes? (rest.take size) with
      | none => ([], .error (.invalid .badProperties))
      | some props =>
        let (out, ended) := expandCoded props (rest.drop size)
        (out.toList, ended)
  | _ => ([], .error .exhausted)

end JvmDeps.Lzma
