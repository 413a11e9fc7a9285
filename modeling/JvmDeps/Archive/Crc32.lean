import JvmDeps.Bytes.Parser

set_option autoImplicit false

/-! # Cyclic redundancy check

The 32-bit check sum of archive members: the remainder of the bits, least significant first, under
the reflected polynomial `EDB88320`, starting from and finally exchanged with all ones.
-/

namespace JvmDeps.Crc32

/-- Takes in one bit. -/
def bitStep (crc : UInt32) : UInt32 :=
  if crc &&& 1 = 1 then (crc >>> 1) ^^^ 0xedb88320 else crc >>> 1

/-- Takes in one byte. -/
def byteStep (crc : UInt32) (b : UInt8) : UInt32 :=
  Nat.repeat bitStep 8 (crc ^^^ b.toUInt32)

/-- The check sum of some bytes. -/
def ofBytes (bytes : Bytes) : UInt32 :=
  bytes.foldl byteStep 0xffffffff ^^^ 0xffffffff

end JvmDeps.Crc32
