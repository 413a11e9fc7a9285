set_option autoImplicit false

/-! # Prefix codes

Canonical prefix codes: the codes of one length follow each other in the order of their symbols, and
those of the next length continue where they end. So a code is given by the lengths alone. Codes are
read bit by bit, the most significant one first.
-/

namespace JvmDeps

/-- A sequence of bits. -/
abbrev Bits := List Bool

/-- A canonical prefix code: how many symbols have each length from 1 on, and the symbols by length
and value. -/
structure PrefixCode where
  counts : List Nat
  symbols : Array Nat

namespace PrefixCode

/-- Why no symbol can be read. -/
inductive Miss where
  /-- The bits end within a code. -/
  | exhausted
  /-- No symbol has the code. -/
  | unassigned
deriving DecidableEq, Repr

/-- The code in which symbol `i` has the length `lengths[i]`; zero stands for no code. Lengths up to
`longest` are read before a code counts as unassigned. -/
def ofLengths (longest : Nat) (lengths : List Nat) : PrefixCode :=
  let sizes := List.range' 1 longest
  { counts := sizes.map lengths.count
    symbols := (sizes.flatMap fun size =>
      (lengths.zipIdx.filter (·.1 == size)).map Prod.snd).toArray }

/-- What is left of the code space: negative if there are too many codes, positive if some bit
sequences stand for nothing. -/
def spare (code : PrefixCode) : Int :=
  code.counts.foldl (fun (left : Int) (count : Nat) => 2 * left - count) 1

/-- The code space is used up. -/
def isComplete (code : PrefixCode) : Bool := code.spare == 0

/-- Reads a symbol, given the counts from the present length on, the first code of that length, the
index of its symbol, and the bits so far as a number. -/
def readFrom (symbols : Array Nat) :
    List Nat → (first index value : Nat) → Bits → Except Miss (Nat × Bits)
  | [], _, _, _, _ => .error .unassigned
  | _ :: _, _, _, _, [] => .error .exhausted
  | count :: counts, first, index, value, b :: bits =>
    let value := 2 * value + b.toNat
    if value < first + count then
      match symbols[index + (value - first)]? with
      | some symbol => .ok (symbol, bits)
      | none => .error .unassigned
    else readFrom symbols counts (2 * (first + count)) (index + count) value bits

/-- Reads a symbol. -/
def read (code : PrefixCode) (bits : Bits) : Except Miss (Nat × Bits) :=
  readFrom code.symbols code.counts 0 0 0 bits

end PrefixCode

end JvmDeps
