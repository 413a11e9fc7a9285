import JvmDeps.Archive.Bzip2.Scrambling
import JvmDeps.Archive.PrefixCode
import JvmDeps.Bytes.Parser

set_option autoImplicit false

/-! # Block-sorted data

Expands data that was compressed by the bzip2 method. The data is a sequence of blocks. The bytes of
a block went through four steps: long runs are shortened, the bytes are sorted by what follows them,
each is replaced by its place in a list of the latest bytes, and these places are written by several
prefix codes that take turns. Here the steps are undone in the opposite order. Bits are taken from
each byte from the most significant one on.

`Bzip2.expand` gives the output of all whole blocks, and how it ended: with the end of the data,
because the data was exhausted, or at something invalid.
-/

namespace JvmDeps.Bzip2

/-- Why reading stops early. -/
inductive Halt where
  | exhausted
  | invalid
deriving DecidableEq, Repr

/-- Reads from a sequence of bits. -/
abbrev Reader := StateT Bits (Except Halt)

/-- The bits of some bytes, from the most significant one of each on. -/
def bitsOf (bytes : Bytes) : Bits :=
  bytes.flatMap fun b => (List.range 8).reverse.map b.toNat.testBit

/-- The next bit. -/
def bit : Reader Bool
  | [] => .error .exhausted
  | b :: bits => .ok (b, bits)

/-- The number in the next `n` bits, behind a number that is already read. -/
def numberFrom (value : Nat) : Nat → Reader Nat
  | 0 => return value
  | n + 1 => do
    let b ← bit
    numberFrom (2 * value + b.toNat) n

/-- The number in the next `n` bits. -/
def number (n : Nat) : Reader Nat := numberFrom 0 n

/-- Goes on only if the data is valid. -/
def check (valid : Bool) : Reader Unit := if valid then pure () else throw .invalid

/-- Reads bytes that must be there. -/
def expect : List Nat → Reader Unit
  | [] => pure ()
  | byte :: rest => do
    check ((← number 8) = byte)
    expect rest

/-! ## Check sums -/

/-- The check sum after one more bit, the most significant one. -/
def shiftSum (sum : UInt32) : UInt32 :=
  if sum.toNat.testBit 31 then (sum <<< 1) ^^^ 0x04c11db7 else sum <<< 1

/-- The check sum after one more byte. -/
def addToSum (sum : UInt32) (b : UInt8) : UInt32 :=
  (List.range 8).foldl (fun sum _ => shiftSum sum) (sum ^^^ (b.toUInt32 <<< 24))

/-- The check sum of the output of a block. -/
def sumOf (out : Array UInt8) : UInt32 := out.foldl addToSum 0xffffffff ^^^ 0xffffffff

/-- The check sum of all blocks after one more. -/
def combine (all block : UInt32) : UInt32 := ((all <<< 1) ||| (all >>> 31)) ^^^ block

/-! ## Tables of a block -/

/-- Reads a set of numbers below 16, one bit for each. -/
def readSixteen : Reader (List Nat) := do
  let word ← number 16
  return (List.range 16).filter fun i => word.testBit (15 - i)

/-- Reads the bytes that occur in a block, by their upper and their lower halves. -/
def readAlphabet : Reader (List UInt8) := do
  let uppers ← readSixteen
  let groups ← uppers.mapM fun upper => do
    return (← readSixteen).map fun lower => UInt8.ofNat (16 * upper + lower)
  check (groups.flatten ≠ [])
  return groups.flatten

/-- Counts bits that are set, less than `bound`, up to one that is not. -/
def readUnary : (bound : Nat) → Reader Nat
  | 0 => throw .invalid
  | bound + 1 => do
    if ← bit then return (← readUnary bound) + 1 else return 0

/-- Takes the item at a place of a list to its front. -/
def toFront {α : Type} (place : Nat) (items : List α) : List α :=
  (items.drop place).take 1 ++ items.eraseIdx place

/-- Reads which code each group of symbols uses, given the codes with the latest ones in front. -/
def readSelectors : (count : Nat) → (latest : List Nat) → Reader (List Nat)
  | 0, _ => return []
  | count + 1, latest => do
    let place ← readUnary latest.length
    let latest := toFront place latest
    return latest.take 1 ++ (← readSelectors count latest)

/-- Reads the next length of a code: the last one, changed by one as long as bits say so. Each
change takes two bits, so the number of bits bounds that of changes. -/
def readLength : (bound length : Nat) → Reader Nat
  | 0, _ => throw .exhausted
  | bound + 1, length => do
    check (1 ≤ length && length ≤ 20)
    if ← bit then readLength bound (if ← bit then length - 1 else length + 1) else return length

/-- Reads `n` lengths, each from the one before it on. -/
def readLengths : (n length : Nat) → Reader (List Nat)
  | 0, _ => return []
  | n + 1, length => do
    let length ← readLength ((← get).length + 1) length
    return length :: (← readLengths n length)

/-- Reads a code of `n` symbols. -/
def readCode (n : Nat) : Reader PrefixCode := do
  let start ← number 5
  return .ofLengths 21 (← readLengths n start)

/-! ## Symbols -/

/-- How many symbols use one code before the next one is selected. -/
def groupSize : Nat := 50

/-- What a block holds so far: its bytes in sorted order, the bytes of its alphabet with the latest
ones in front, and the length of a run of the foremost one, as a number whose next digit has the
weight `weight`. -/
structure Column where
  bytes : Array UInt8
  latest : List UInt8
  run : Nat
  weight : Nat

namespace Column

/-- The first weight that is too large for a digit of a run. -/
def weightBound : Nat := 0x200000

/-- Adds a digit, one or two, to the length of the run. -/
def lengthen (c : Column) (digit : Nat) : Except Halt Column :=
  if weightBound ≤ c.weight then .error .invalid
  else .ok { c with run := c.run + digit * c.weight, weight := 2 * c.weight }

/-- Writes the run out; a block holds at most `limit` bytes. -/
def flush (limit : Nat) (c : Column) : Except Halt Column :=
  if limit < c.bytes.size + c.run then .error .invalid
  else
    .ok { c with
      bytes := c.bytes ++ Array.replicate c.run (c.latest.headD 0)
      run := 0
      weight := 1 }

/-- Writes the byte at a place among the latest ones. -/
def push (limit : Nat) (c : Column) (place : Nat) : Except Halt Column :=
  if limit ≤ c.bytes.size then .error .invalid
  else
    let latest := toFront place c.latest
    .ok { c with bytes := c.bytes.push (latest.headD 0), latest }

end Column

/-- Reads a symbol of a code. -/
def readSymbol (code : PrefixCode) : Reader Nat := fun bits =>
  match code.read bits with
  | .ok found => .ok found
  | .error .exhausted => .error .exhausted
  | .error .unassigned => .error .invalid

/-- Reads the bytes of a block in sorted order, given the codes of its groups and how many symbols
are left in the first of them. The symbols 0 and 1 are digits of a run, the symbol `last` ends the
block. Every symbol takes a bit, so the number of bits bounds that of symbols. -/
def readColumn (limit last : Nat) :
    (bound : Nat) → (groups : List PrefixCode) → (left : Nat) → Column → Reader (Array UInt8)
  | 0, _, _, _ => throw .exhausted
  | _, [], _, _ => throw .invalid
  | bound + 1, code :: rest, left, column => do
    let symbol ← readSymbol code
    let groups := if left = 1 then rest else code :: rest
    let left := if left = 1 then groupSize else left - 1
    if symbol < 2 then readColumn limit last bound groups left (← column.lengthen (symbol + 1))
    else
      let column ← column.flush limit
      if symbol = last then return column.bytes
      else readColumn limit last bound groups left (← column.push limit (symbol - 1))

/-! ## Sorted order -/

/-- For each byte in sorted order, the place of the one that follows it. -/
def successors (column : Array UInt8) : Array Nat :=
  (column.toList.zipIdx.mergeSort fun a b => a.1 ≤ b.1).map Prod.snd |>.toArray

/-- The next `n` bytes in their proper order, from the one at a place on. -/
def follow (column : Array UInt8) (next : Array Nat) : (n place : Nat) → Array UInt8 → Array UInt8
  | 0, _, out => out
  | n + 1, place, out =>
    follow column next n (next.getD place 0) (out.push (column.getD place 0))

/-- Lengthens runs: four equal bytes are followed by the number of further ones. -/
def expandRuns (last : Option UInt8) (count : Nat) (out : Array UInt8) :
    List UInt8 → Except Halt (Array UInt8)
  | [] => if count = 4 then .error .invalid else .ok out
  | b :: rest =>
    if count = 4 then expandRuns none 0 (out ++ Array.replicate b.toNat (last.getD 0)) rest
    else expandRuns (some b) (if last = some b then count + 1 else 1) (out.push b) rest

/-! ## Blocks -/

/-- Reads a block behind its mark: its output, which must have the check sum in the block. -/
def readBlock (limit : Nat) : Reader (Array UInt8 × UInt32) := do
  let sum ← number 32
  let scrambled ← bit
  let start ← number 24
  check (start ≤ limit + 10)
  let alphabet ← readAlphabet
  let codeCount ← number 3
  check (2 ≤ codeCount && codeCount ≤ 6)
  let selectorCount ← number 15
  check (1 ≤ selectorCount)
  let selectors ← readSelectors selectorCount (List.range codeCount)
  let codes ← (List.range codeCount).mapM fun _ => readCode (alphabet.length + 2)
  let groups := selectors.filterMap (codes[·]?)
  let column ←
    readColumn limit (alphabet.length + 1) ((← get).length + 1) groups groupSize
      ⟨#[], alphabet, 0, 1⟩
  check (start < column.size)
  let next := successors column
  let sorted := follow column next column.size (next.getD start 0) #[]
  let out ← expandRuns none 0 #[] (if scrambled then unscramble sorted.toList else sorted.toList)
  check (sumOf out = UInt32.ofNat sum)
  return (out, sumOf out)

/-- Reads the mark of a block or of the end: whether it is that of a block. -/
def readMark : Reader Bool := do
  let first ← number 8
  if first = 0x17 then
    expect [0x72, 0x45, 0x38, 0x50, 0x90]
    return false
  else
    check (first = 0x31)
    expect [0x41, 0x59, 0x26, 0x53, 0x59]
    return true

/-- Reads what follows the output so far: a block, or the end with the check sum of all blocks. -/
def readNext (limit : Nat) (sum : UInt32) : Reader (Option (Array UInt8 × UInt32)) := do
  if ← readMark then return some (← readBlock limit)
  else
    check ((← number 32) = sum.toNat)
    return none

/-- Expands blocks up to the end. Every block takes bits, so their number bounds that of blocks. -/
def expandBlocks (limit : Nat) :
    (bound : Nat) → (out : Array UInt8) → (sum : UInt32) → Bits → Array UInt8 × Except Halt Unit
  | 0, out, _, _ => (out, .error .exhausted)
  | bound + 1, out, sum, bits =>
    match readNext limit sum bits with
    | .error e => (out, .error e)
    | .ok (none, _) => (out, .ok ())
    | .ok (some (block, blockSum), bits) =>
      expandBlocks limit bound (out ++ block) (combine sum blockSum) bits

/-- Reads the header: how many bytes a block holds at most. -/
def readLimit : Reader Nat := do
  expect ("BZh".toList.map Char.toNat)
  let digit ← number 8
  check ('1'.toNat ≤ digit && digit ≤ '9'.toNat)
  return 100000 * (digit - '0'.toNat)

/-- Expands data. -/
def expand (bytes : Bytes) : Bytes × Except Halt Unit :=
  match readLimit (bitsOf bytes) with
  | .error e => ([], .error e)
  | .ok (limit, bits) =>
    let (out, ended) := expandBlocks limit bits.length #[] 0 bits
    (out.toList, ended)

end JvmDeps.Bzip2
