import JvmDeps.Archive.PrefixCode
import JvmDeps.Bytes.Parser

set_option autoImplicit false

/-! # Deflated data

Expands data that was compressed by the deflate method. The data is a sequence of blocks: stored,
or coded with a fixed or with its own pair of prefix codes, where the symbols are bytes, the end of
the block, and copies of earlier output. Bits are taken from each byte from the least significant
one on.

`inflate` gives all output that could be made and how it ended: at the last block, because the data
was exhausted, or at something invalid.
-/

namespace JvmDeps.Deflate

/-- What makes data invalid. -/
inductive Cause where
  | blockType
  | storedLengths
  | tooManySymbols
  | codeLengths
  | lengthRepeat
  | noEndOfBlock
  | literalCode
  | distanceCode
  | literalSymbol
  | distanceSymbol
  | tooFarBack
deriving DecidableEq, Repr

/-- The wording of a cause. -/
def Cause.text : Cause → String
  | blockType => "invalid block type"
  | storedLengths => "invalid stored block lengths"
  | tooManySymbols => "too many length or distance symbols"
  | codeLengths => "invalid code lengths set"
  | lengthRepeat => "invalid bit length repeat"
  | noEndOfBlock => "invalid code -- missing end-of-block"
  | literalCode => "invalid literal/lengths set"
  | distanceCode => "invalid distances set"
  | literalSymbol => "invalid literal/length code"
  | distanceSymbol => "invalid distance code"
  | tooFarBack => "invalid distance too far back"

/-- Why reading stops early. -/
inductive Halt where
  | exhausted
  | invalid (cause : Cause)
deriving DecidableEq, Repr

/-- The bits of some bytes, from the least significant one of each on. -/
def bitsOf (bytes : Bytes) : Bits :=
  bytes.flatMap fun b => (List.range 8).map b.toNat.testBit

/-- The number in the next `n` bits, least significant first. -/
def number : Nat → Bits → Except Halt (Nat × Bits)
  | 0, bits => .ok (0, bits)
  | _ + 1, [] => .error .exhausted
  | n + 1, b :: bits =>
    match number n bits with
    | .error e => .error e
    | .ok (high, bits) => .ok (b.toNat + 2 * high, bits)

/-! ## Codes -/

/-- The code in which symbol `i` has the length `lengths[i]`. -/
def codeOf (lengths : List Nat) : PrefixCode := .ofLengths (lengths.foldl max 1) lengths

/-- The code of code lengths. If no symbol has a code, either bit stands for the length zero. -/
def sizeCodeOf (lengths : List Nat) : PrefixCode :=
  if lengths.all (· == 0) then ⟨[2], #[0, 0]⟩ else codeOf lengths

/-- The code may be used: it is complete, or empty, or has a single code of one bit. -/
def isUsable (code : PrefixCode) : Bool :=
  code.isComplete || code.symbols.isEmpty ||
    (code.symbols.size == 1 && code.counts.head? == some 1)

/-- Reads a symbol of a code; `cause` is what is wrong if there is none. -/
def readSymbol (code : PrefixCode) (cause : Cause) (bits : Bits) : Except Halt (Nat × Bits) :=
  match code.read bits with
  | .ok found => .ok found
  | .error .exhausted => .error .exhausted
  | .error .unassigned => .error (.invalid cause)

/-! ## Copies -/

/-- The shortest length of each length symbol, and how many bits are added to it. -/
def lengthTable : List (Nat × Nat) :=
  [(3, 0), (4, 0), (5, 0), (6, 0), (7, 0), (8, 0), (9, 0), (10, 0), (11, 1), (13, 1), (15, 1),
    (17, 1), (19, 2), (23, 2), (27, 2), (31, 2), (35, 3), (43, 3), (51, 3), (59, 3), (67, 4),
    (83, 4), (99, 4), (115, 4), (131, 5), (163, 5), (195, 5), (227, 5), (258, 0)]

/-- The shortest distance of each distance symbol, and how many bits are added to it. -/
def distanceTable : List (Nat × Nat) :=
  [(1, 0), (2, 0), (3, 0), (4, 0), (5, 1), (7, 1), (9, 2), (13, 2), (17, 3), (25, 3), (33, 4),
    (49, 4), (65, 5), (97, 5), (129, 6), (193, 6), (257, 7), (385, 7), (513, 8), (769, 8),
    (1025, 9), (1537, 9), (2049, 10), (3073, 10), (4097, 11), (6145, 11), (8193, 12), (12289, 12),
    (16385, 13), (24577, 13)]

/-- The value of a symbol of a table, with its added bits. -/
def extended (table : List (Nat × Nat)) (symbol : Nat) (cause : Cause) (bits : Bits) :
    Except Halt (Nat × Bits) :=
  match table[symbol]? with
  | none => .error (.invalid cause)
  | some (base, extra) =>
    match number extra bits with
    | .error e => .error e
    | .ok (added, bits) => .ok (base + added, bits)

/-- Reads a copy: its length and its distance, which must not reach back before the output. -/
def readCopy (distances : PrefixCode) (symbol produced : Nat) (bits : Bits) :
    Except Halt (Nat × Nat × Bits) := do
  let (length, bits) ← extended lengthTable symbol .literalSymbol bits
  let (distanceSymbol, bits) ← readSymbol distances .distanceSymbol bits
  let (distance, bits) ← extended distanceTable distanceSymbol .distanceSymbol bits
  if distance > produced then .error (.invalid .tooFarBack) else return (length, distance, bits)

/-- Repeats the output from `distance` bytes back on, byte by byte. -/
def copyBack (distance : Nat) : Nat → Array UInt8 → Array UInt8
  | 0, out => out
  | n + 1, out => copyBack distance n (out.push (out.getD (out.size - distance) 0))

/-! ## Blocks -/

/-- The output so far, and the bits that are left or why there are none. -/
abbrev Progress := Array UInt8 × Except Halt Bits

/-- Expands the symbols of a block up to its end. Every symbol takes a bit at least, so the number
of bits bounds the number of symbols. -/
def expandSymbols (literals distances : PrefixCode) : (bound : Nat) → Array UInt8 → Bits → Progress
  | 0, out, _ => (out, .error .exhausted)
  | bound + 1, out, bits =>
    match readSymbol literals .literalSymbol bits with
    | .error e => (out, .error e)
    | .ok (symbol, bits) =>
      if symbol < 256 then
        expandSymbols literals distances bound (out.push (UInt8.ofNat symbol)) bits
      else if symbol = 256 then (out, .ok bits)
      else
        match readCopy distances (symbol - 257) out.size bits with
        | .error e => (out, .error e)
        | .ok (length, distance, bits) =>
          expandSymbols literals distances bound (copyBack distance length out) bits

/-- Takes `n` bytes as they are. -/
def expandStored : Nat → Array UInt8 → Bits → Progress
  | 0, out, bits => (out, .ok bits)
  | n + 1, out, bits =>
    match number 8 bits with
    | .error e => (out, .error e)
    | .ok (b, bits) => expandStored n (out.push (UInt8.ofNat b)) bits

/-- Expands a stored block, which starts at the next whole byte. -/
def storedBlock (out : Array UInt8) (bits : Bits) : Progress :=
  let header := do
    let (size, bits) ← number 16 (bits.drop (bits.length % 8))
    let (inverse, bits) ← number 16 bits
    if size + inverse = 0xffff then return (size, bits) else .error (.invalid .storedLengths)
  match header with
  | .error e => (out, .error e)
  | .ok (size, bits) => expandStored size out bits

/-- The fixed code of bytes, end and lengths. -/
def fixedLiterals : PrefixCode :=
  codeOf (List.replicate 144 8 ++ List.replicate 112 9 ++ List.replicate 24 7 ++
    List.replicate 8 8)

/-- The fixed code of distances; the last two of its symbols stand for none. -/
def fixedDistances : PrefixCode := codeOf (List.replicate 32 5)

/-- The order in which the lengths of the code of lengths are given. -/
def lengthOrder : List Nat := [16, 17, 18, 0, 8, 7, 9, 6, 10, 5, 11, 4, 12, 3, 13, 2, 14, 1, 15]

/-- Reads `n` numbers of three bits. -/
def readTriples : Nat → Bits → Except Halt (List Nat × Bits)
  | 0, bits => .ok ([], bits)
  | n + 1, bits => do
    let (size, bits) ← number 3 bits
    let (sizes, bits) ← readTriples n bits
    return (size :: sizes, bits)

/-- Reads code lengths until `left` are there; those so far are in `acc`, in reverse order. A symbol
below 16 is a length; 16 repeats the last one, 17 and 18 repeat zero. -/
def readLengths (code : PrefixCode) :
    (bound left : Nat) → List Nat → Bits → Except Halt (List Nat × Bits)
  | _, 0, acc, bits => .ok (acc.reverse, bits)
  | 0, _, _, _ => .error .exhausted
  | bound + 1, left, acc, bits => do
    let (symbol, bits) ← readSymbol code .codeLengths bits
    if symbol < 16 then readLengths code bound (left - 1) (symbol :: acc) bits
    else
      let (size, width, least) ←
        if symbol = 16 then
          match acc with
          | [] => .error (.invalid .lengthRepeat)
          | last :: _ => pure (last, 2, 3)
        else if symbol = 17 then pure (0, 3, 3)
        else pure (0, 7, 11)
      let (added, bits) ← number width bits
      let times := least + added
      if times > left then .error (.invalid .lengthRepeat)
      else readLengths code bound (left - times) (List.replicate times size ++ acc) bits

/-- Reads the codes of a block that brings its own. -/
def readCodes (bits : Bits) : Except Halt (PrefixCode × PrefixCode × Bits) := do
  let (extraLiterals, bits) ← number 5 bits
  let (extraDistances, bits) ← number 5 bits
  let (extraSizes, bits) ← number 4 bits
  let literals := extraLiterals + 257
  let distances := extraDistances + 1
  if literals > 286 || distances > 30 then .error (.invalid .tooManySymbols)
  else
    let (sizes, bits) ← readTriples (extraSizes + 4) bits
    let sizeOf (symbol : Nat) : Nat := sizes.getD (lengthOrder.idxOf symbol) 0
    let sizeCode := sizeCodeOf ((List.range 19).map sizeOf)
    if !sizeCode.isComplete then .error (.invalid .codeLengths)
    else
      let (lengths, bits) ← readLengths sizeCode bits.length (literals + distances) [] bits
      let literalLengths := lengths.take literals
      if literalLengths.getD 256 0 = 0 then .error (.invalid .noEndOfBlock)
      else
        let literalCode := codeOf literalLengths
        let distanceCode := codeOf (lengths.drop literals)
        if !isUsable literalCode then .error (.invalid .literalCode)
        else if !isUsable distanceCode then .error (.invalid .distanceCode)
        else return (literalCode, distanceCode, bits)

/-- Expands a block of the given type. -/
def expandBlock (type : Nat) (out : Array UInt8) (bits : Bits) : Progress :=
  match type with
  | 0 => storedBlock out bits
  | 1 => expandSymbols fixedLiterals fixedDistances bits.length out bits
  | 2 =>
    match readCodes bits with
    | .error e => (out, .error e)
    | .ok (literals, distances, bits) => expandSymbols literals distances bits.length out bits
  | _ => (out, .error (.invalid .blockType))

/-- Expands blocks up to the last. Every block takes a bit at least, so the number of bits bounds
the number of blocks. -/
def expandBlocks : (bound : Nat) → Array UInt8 → Bits → Progress
  | 0, out, _ => (out, .error .exhausted)
  | bound + 1, out, bits =>
    match number 1 bits with
    | .error e => (out, .error e)
    | .ok (last, bits) =>
      match number 2 bits with
      | .error e => (out, .error e)
      | .ok (type, bits) =>
        match expandBlock type out bits with
        | (out, .error e) => (out, .error e)
        | (out, .ok bits) => if last = 1 then (out, .ok bits) else expandBlocks bound out bits

/-- Expands data. -/
def inflate (bytes : Bytes) : Bytes × Except Halt Unit :=
  let bits := bitsOf bytes
  match expandBlocks bits.length #[] bits with
  | (out, .error e) => (out.toList, .error e)
  | (out, .ok _) => (out.toList, .ok ())

end JvmDeps.Deflate
