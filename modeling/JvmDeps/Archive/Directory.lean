import JvmDeps.Archive.Bzip2
import JvmDeps.Archive.Crc32
import JvmDeps.Archive.Deflate
import JvmDeps.Archive.Lzma
import JvmDeps.Text.Quoted

set_option autoImplicit false

/-! # Archives

An archive is a file that holds members under names. Its directory stands near the end and decides
what the archive holds: `Archive.ofBytes` finds and reads it, and `Archive.read?` gives the bytes of
the last member of a name. Bytes in front of the archive and a comment after it do no harm. Numbers
are written with the least significant byte first.

Numbers that do not fit the fields of the format are written elsewhere: those of the directory in a
large end record, to which a locator in front of the end record leads, and those of a member in a
part of its extra field.

A member is stored as it is or compressed by one of three methods; its sizes and check sum are those
of the directory. A header in front of the data repeats the name and must agree with the
directory.
-/

namespace JvmDeps

namespace Archive

/-- The number in some bytes, least significant first. -/
def number (bytes : Bytes) : Nat := bytes.foldr (fun b n => b.toNat + 256 * n) 0

/-- The number of a given size at an offset of a record. -/
def numberAt (record : Bytes) (offset size : Nat) : Nat := number ((record.drop offset).take size)

/-! ## Names -/

/-- The characters of the bytes from 128 on in names that are not marked as UTF-8. -/
def upperHalf : String :=
    "ÇüéâäàåçêëèïîìÄÅÉæÆôöòûùÿÖÜ¢£¥₧ƒ" ++
    "áíóúñÑªº¿⌐¬½¼¡«»░▒▓│┤╡╢╖╕╣║╗╝╜╛┐" ++
    "└┴┬├─┼╞╟╚╔╩╦╠═╬╧╨╤╥╙╘╒╓╫╪┘┌█▄▌▐▀" ++
    "αßΓπΣσµτΦΘΩδ∞φε∩≡±≥≤⌠⌡÷≈°∙·√ⁿ²■\u00a0"

/-- The character of a byte in names that are not marked as UTF-8. -/
def legacyChar (b : UInt8) : Char :=
  if b.toNat < 128 then Char.ofNat b.toNat
  else upperHalf.toList.getD (b.toNat - 128) ' '

/-- The flag of names in UTF-8. -/
def utf8Bit : Nat := 11

/-- The name that bytes stand for under some flags. -/
def decodeName? (flags : Nat) (bytes : Bytes) : Option String :=
  if flags.testBit utf8Bit then String.fromUTF8? ⟨bytes.toArray⟩
  else some (String.ofList (bytes.map legacyChar))

/-- Bytes as a message shows them: like text, with every byte beyond ASCII escaped. -/
def quotedBytes (bytes : Bytes) : String :=
  let quote := Text.quoteFor (bytes.map fun b => Char.ofNat b.toNat)
  let shown (b : UInt8) : List Char :=
    if b.toNat < 128 then Text.quoteChar quote (Char.ofNat b.toNat)
    else '\\' :: 'x' :: Text.hexDigits 2 b.toNat
  String.ofList ('b' :: quote :: bytes.flatMap shown ++ [quote])

/-! ## The directory -/

/-- A member as the directory describes it. -/
structure Member where
  /-- The name as it is written. -/
  fullName : String
  flags : Nat
  method : Nat
  crc : UInt32
  compressedSize : Nat
  size : Nat
  /-- Where its header stands in the file. -/
  offset : Int

/-- The name up to the first null character. -/
def Member.name (m : Member) : String :=
  String.ofList (m.fullName.toList.takeWhile (· ≠ Char.ofNat 0))

/-- The numbers of a member that may not fit their fields. -/
inductive LargeField where
  | size
  | compressedSize
  | offset
deriving DecidableEq, Repr

/-- How a message names a number of a member. -/
def LargeField.text : LargeField → String
  | size => "File size"
  | compressedSize => "Compress size"
  | offset => "Header offset"

/-- Why a file is not an archive. -/
inductive OpenFault where
  | noEndRecord
  /-- The archive is only a part of one on several disks. -/
  | spansDisks
  | badOffset
  | truncatedDirectory
  | badDirectoryMagic
  | undecodableName
  /-- A member needs a later version of the format, in tenths. -/
  | laterVersion (version : Nat)
  /-- A part of an extra field is longer than the field. -/
  | corruptExtra (kind size : Nat)
  /-- A number of a member does not fit its field and is not in the extra field either. -/
  | missingNumber (field : LargeField)
deriving DecidableEq, Repr

/-- The wording of a fault; empty for those that are no defect of the file itself. -/
def OpenFault.text : OpenFault → String
  | noEndRecord => "File is not a zip file"
  | spansDisks => "zipfiles that span multiple disks are not supported"
  | badOffset => "Bad offset for central directory"
  | truncatedDirectory => "Truncated central directory"
  | badDirectoryMagic => "Bad magic number for central directory"
  | undecodableName => ""
  | laterVersion _ => ""
  | corruptExtra kind size =>
    "Corrupt extra field " ++ String.ofList (Text.hexDigits 4 kind) ++ " (size=" ++ toString size ++
      ")"
  | missingNumber field => "Corrupt zip64 extra field. " ++ field.text ++ " not found."

/-- The bytes that start the end record. -/
def endMagic : Bytes := [0x50, 0x4b, 0x05, 0x06]

/-- The bytes that start the locator of a large end record. -/
def locatorMagic : Bytes := [0x50, 0x4b, 0x06, 0x07]

/-- The bytes that start a large end record. -/
def largeEndMagic : Bytes := [0x50, 0x4b, 0x06, 0x06]

/-- The bytes that start an entry of the directory. -/
def entryMagic : Bytes := [0x50, 0x4b, 0x01, 0x02]

/-- The bytes that start the header of a member. -/
def headerMagic : Bytes := [0x50, 0x4b, 0x03, 0x04]

/-- The size of the end record without its comment. -/
def endSize : Nat := 22

/-- The size of the locator of a large end record. -/
def locatorSize : Nat := 20

/-- The size of a large end record. -/
def largeEndSize : Nat := 56

/-- The size of a directory entry without its name, extra field and comment. -/
def entrySize : Nat := 46

/-- The size of the header of a member without its name and extra field. -/
def headerSize : Nat := 30

/-- The latest version of the format that can be read, in tenths. -/
def latestVersion : Nat := 63

/-- Where a sequence of bytes starts for the last time, counted from `index` on. -/
def lastIndex? (magic : Bytes) (index : Nat) (found : Option Nat) : Bytes → Option Nat
  | [] => found
  | b :: bytes =>
    lastIndex? magic (index + 1) (if magic.isPrefixOf (b :: bytes) then some index else found) bytes

/-- Where the end record stands: at the very end if it has no comment there, else where its first
bytes are found for the last time within reach of a comment. -/
def endRecord? (bytes : Bytes) : Option Nat :=
  let total := bytes.length
  if total < endSize then none
  else
    let tail := bytes.drop (total - endSize)
    if endMagic.isPrefixOf tail && tail.drop 20 == [0, 0] then some (total - endSize)
    else
      let start := total - (65536 + endSize)
      match lastIndex? endMagic start none (bytes.drop start) with
      | some place => if total < place + endSize then none else some place
      | none => none

/-- What the end of an archive says about its directory. -/
structure EndRecord where
  /-- Where the directory ends. -/
  place : Nat
  size : Nat
  offset : Nat
deriving DecidableEq, Repr

/-- The large end record in front of the end record at a place; none if there is none. -/
def largeEndRecord? (bytes : Bytes) (place : Nat) : Except OpenFault (Option EndRecord) :=
  let locator := (bytes.drop (place - locatorSize)).take locatorSize
  if place < locatorSize || !locatorMagic.isPrefixOf locator then .ok none
  else if numberAt locator 4 4 ≠ 0 || 1 < numberAt locator 16 4 then .error .spansDisks
  else if place < locatorSize + largeEndSize then .error .noEndRecord
  else
    let place := place - locatorSize - largeEndSize
    let record := (bytes.drop place).take largeEndSize
    if largeEndMagic.isPrefixOf record then
      .ok (some ⟨place, numberAt record 40 8, numberAt record 48 8⟩)
    else .ok none

/-- What the end of an archive says; a large end record counts more than the other. -/
def readEnd (bytes : Bytes) : Except OpenFault EndRecord :=
  match endRecord? bytes with
  | none => .error .noEndRecord
  | some place => do
    let large? ← largeEndRecord? bytes place
    let record := bytes.drop place
    return large?.getD ⟨place, numberAt record 12 4, numberAt record 16 4⟩

/-! ## Entries -/

/-- The sizes of a member and the place of its header, as far as the directory knows them. -/
structure Extent where
  size : Nat
  compressedSize : Nat
  offset : Nat
deriving DecidableEq, Repr

/-- The number that stands in a field for one that does not fit. -/
def elsewhere : Nat := 0xffffffff

/-- Takes a number of eight bytes in the place of one that does not fit. -/
def takeLarge (field : LargeField) (isMissing : Bool) (n : Nat) (data : Bytes) :
    Except OpenFault (Nat × Bytes) :=
  if !isMissing then .ok (n, data)
  else if data.length < 8 then .error (.missingNumber field)
  else .ok (number (data.take 8), data.drop 8)

/-- Takes the numbers that do not fit from the part of an extra field for them. -/
def Extent.widen (e : Extent) (data : Bytes) : Except OpenFault Extent := do
  let (size, data) ←
    takeLarge .size (e.size = elsewhere || e.size = 0xffffffffffffffff) e.size data
  let (compressedSize, data) ←
    takeLarge .compressedSize (e.compressedSize = elsewhere) e.compressedSize data
  let (offset, _) ← takeLarge .offset (e.offset = elsewhere) e.offset data
  return { size, compressedSize, offset }

/-- Reads an extra field. A part of it is its kind, its size and its content; the parts of kind 1
hold numbers that do not fit. -/
def Extent.readExtra (e : Extent) (extra : Bytes) : Except OpenFault Extent :=
  if extra.length < 4 then .ok e
  else
    let kind := numberAt extra 0 2
    let size := numberAt extra 2 2
    if extra.length < size + 4 then .error (.corruptExtra kind size)
    else if kind = 1 then
      match e.widen ((extra.drop 4).take size) with
      | .error fault => .error fault
      | .ok e => e.readExtra (extra.drop (size + 4))
    else e.readExtra (extra.drop (size + 4))
termination_by extra.length
decreasing_by
  all_goals
    rw [List.length_drop]
    omega

/-- The extent of a member of some version, with the numbers in its extra field. -/
def extentOf (version : Nat) (e : Extent) (extra : Bytes) : Except OpenFault Extent :=
  if version > latestVersion then .error (.laterVersion version) else e.readExtra extra

/-- Reads the entries of a directory. The offsets they hold are shifted by what stands in front of
the archive. Every entry takes bytes, so their number bounds that of the entries. -/
def readEntries (shift : Int) : (bound : Nat) → Bytes → Except OpenFault (List Member)
  | _, [] => .ok []
  | 0, _ => .ok []
  | bound + 1, bytes =>
    let record := bytes.take entrySize
    if record.length ≠ entrySize then .error .truncatedDirectory
    else if !entryMagic.isPrefixOf record then .error .badDirectoryMagic
    else
      let flags := numberAt record 8 2
      let nameSize := numberAt record 28 2
      let extraSize := numberAt record 30 2
      let commentSize := numberAt record 32 2
      let rest := bytes.drop entrySize
      match decodeName? flags (rest.take nameSize) with
      | none => .error .undecodableName
      | some fullName =>
        let written : Extent := ⟨numberAt record 24 4, numberAt record 20 4, numberAt record 42 4⟩
        match extentOf (numberAt record 6 1) written ((rest.drop nameSize).take extraSize) with
        | .error fault => .error fault
        | .ok extent => do
          let more ← readEntries shift bound (rest.drop (nameSize + extraSize + commentSize))
          return {
            fullName, flags
            method := numberAt record 10 2
            crc := UInt32.ofNat (numberAt record 16 4)
            compressedSize := extent.compressedSize
            size := extent.size
            offset := extent.offset + shift } :: more

end Archive

/-- An archive: its bytes, the members of its directory, and where the directory starts. -/
structure Archive where
  bytes : Bytes
  members : List Archive.Member
  start : Nat

namespace Archive

/-- Opens an archive. -/
def ofBytes (bytes : Bytes) : Except OpenFault Archive := do
  let record ← readEnd bytes
  if record.place < record.size then .error .badOffset
  else
    let start := record.place - record.size
    let directory := (bytes.drop start).take record.size
    let members ← readEntries ((start : Int) - record.offset) record.size directory
    return { bytes, members, start }

/-! ## Members -/

/-- Why a member cannot be read. -/
inductive MemberFault where
  /-- The header would stand in front of the file, or behind the end of any file. -/
  | misplacedHeader
  /-- The place of the header is not even a number of 63 bits. -/
  | unreachableHeader
  | truncatedHeader
  | badHeaderMagic
  | patched
  | stronglyEncrypted
  | undecodableName
  | nameDiffers (directory : String) (header : Bytes)
  | overlapped (name : String)
  | encrypted
  | unsupportedMethod
  | unexpectedEnd
  | badDeflated (cause : Deflate.Cause)
  | badSorted
  | badCoded (cause : Lzma.Cause)
  | badCrc (name : String)
deriving DecidableEq, Repr

/-- The wording of a fault; empty for those that are only told by their kind. -/
def MemberFault.text : MemberFault → String
  | misplacedHeader => "[Errno 22] Invalid argument"
  | unreachableHeader => ""
  | truncatedHeader => "Truncated file header"
  | badHeaderMagic => "Bad magic number for file header"
  | patched => "compressed patched data (flag bit 5)"
  | stronglyEncrypted => "strong encryption (flag bit 6)"
  | undecodableName => ""
  | nameDiffers directory header =>
    "File name in directory " ++ Text.quoted directory ++ " and header " ++ quotedBytes header ++
      " differ."
  | overlapped name => "Overlapped entries: " ++ Text.quoted name ++ " (possible zip bomb)"
  | encrypted => ""
  | unsupportedMethod => "That compression method is not supported"
  | unexpectedEnd => ""
  | badDeflated cause => "Error -3 while decompressing data: " ++ cause.text
  | badSorted => "Invalid data stream"
  | badCoded cause => cause.text
  | badCrc name => "Bad CRC-32 for file " ++ Text.quoted name

/-- The largest place in a file. -/
def lastPlace : Int := 0xffffffff000

/-- The first number that is too large for a place in a file. -/
def placeBound : Int := 0x8000000000000000

/-- Where the room of the member at an index of the directory ends: where the next member starts, in
the order of the file, or else where the directory starts. Of two members at one place the later
has no room. -/
def endOf (a : Archive) (index : Nat) (offset : Int) : Int :=
  if (a.members.take index).any (·.offset == offset) then offset
  else ((a.members.map Member.offset).filter (· > offset)).min?.getD a.start

/-- The bytes of a member if their check sum is right. -/
def checkCrc (m : Member) (bytes : Bytes) : Except MemberFault Bytes :=
  if Crc32.ofBytes bytes = m.crc then .ok bytes else .error (.badCrc m.name)

/-- A compression method. -/
inductive Method where
  | stored
  | deflated
  | sorted
  | coded
deriving DecidableEq, Repr

/-- The method of a number. -/
def Method.ofNumber? : Nat → Option Method
  | 0 => some .stored
  | 8 => some .deflated
  | 12 => some .sorted
  | 14 => some .coded
  | _ => none

/-- How the output of a method ended. -/
inductive Ending where
  /-- The data says that it ends. -/
  | marked
  /-- More data could follow. -/
  | unmarked
deriving DecidableEq, Repr

/-- The output of a method, as far as the data goes. -/
def Method.expand (method : Method) (data : Bytes) : Except MemberFault (Bytes × Ending) :=
  match method with
  | .stored => .ok (data, .unmarked)
  | .deflated =>
    match Deflate.inflate data with
    | (_, .error (.invalid cause)) => .error (.badDeflated cause)
    | (out, .error .exhausted) => .ok (out, .unmarked)
    | (out, .ok ()) => .ok (out, .marked)
  | .sorted =>
    match Bzip2.expand data with
    | (_, .error .invalid) => .error .badSorted
    | (out, .error .exhausted) => .ok (out, .unmarked)
    | (out, .ok ()) => .ok (out, .marked)
  | .coded =>
    match Lzma.expand data with
    | (_, .error (.invalid cause)) => .error (.badCoded cause)
    | (out, .error .exhausted) => .ok (out, .unmarked)
    | (out, .ok ()) => .ok (out, .marked)

/-- The content of a member, given what the file holds of its data. Output beyond the size of the
member is dropped. If the file ends too early, the content must be there nevertheless. -/
def content (m : Member) (method : Method) (data : Bytes) : Except MemberFault Bytes :=
  let isWhole := data.length = m.compressedSize
  if data.isEmpty && !isWhole then .error .unexpectedEnd
  else
    match method.expand data with
    | .error fault => .error fault
    | .ok (out, ending) =>
      if isWhole || ending = .marked || m.size ≤ out.length then checkCrc m (out.take m.size)
      else .error .unexpectedEnd

/-- Reads the member at an index of the directory. -/
def extract (a : Archive) (m : Member) (index : Nat) : Except MemberFault Bytes :=
  let file := a.bytes.drop m.offset.toNat
  let header := file.take headerSize
  if placeBound ≤ m.offset || m.offset < -placeBound then .error .unreachableHeader
  else if m.offset < 0 || lastPlace < m.offset then .error .misplacedHeader
  else if header.length ≠ headerSize then .error .truncatedHeader
  else if !headerMagic.isPrefixOf header then .error .badHeaderMagic
  else
    let nameBytes := (file.drop headerSize).take (numberAt header 26 2)
    let front := headerSize + nameBytes.length + numberAt header 28 2
    if m.flags.testBit 5 then .error .patched
    else if m.flags.testBit 6 then .error .stronglyEncrypted
    else
      match decodeName? (numberAt header 6 2) nameBytes with
      | none => .error .undecodableName
      | some name =>
        if name ≠ m.fullName then .error (.nameDiffers m.fullName nameBytes)
        else if m.offset + front + m.compressedSize > a.endOf index m.offset then
          .error (.overlapped m.fullName)
        else if m.flags.testBit 0 then .error .encrypted
        else
          match Method.ofNumber? m.method with
          | none => .error .unsupportedMethod
          | some method => content m method ((file.drop front).take m.compressedSize)

/-- The bytes of the last member of a name; none if there is no such member. -/
def read? (a : Archive) (name : String) : Except MemberFault (Option Bytes) :=
  match a.members.zipIdx.reverse.find? (·.1.name == name) with
  | none => .ok none
  | some (m, index) => (a.extract m index).map some

end Archive

end JvmDeps
