import JvmDeps.Proofs.ClassFile.Skipping

set_option autoImplicit false

/-! # Indexes of the constant pool

`Pool.Entry` is an entry of a constant pool as the class file format lays it out: every kind has its
tag byte, the parts of its payload and its number of slots written out, and nothing is taken from
the tables of the reader. An index is that of an entry if it is one more than the number of slots of
the entry's predecessors (`Pool.EntryAt`). It is vacant if it is zero, the second slot of a long or
a double, or behind the last slot (`Pool.Vacant`).

Entries do not overlap (`EntryAt.sep`), so that a vacant index is that of no entry
(`Vacant.not_entryAt`). Written entries are read back one for one, and what follows is left over
(`reads_poolBytes`). The look-ups then answer for the entries: `Pool.Indexes` says so of the slots,
and `Tables.Indexes` of the three tables that are filled side by side. The main statement is
`readConstants_indexes`.
-/

namespace JvmDeps.ClassFile

open JvmDeps.Parser

/-! ## Entries -/

/-- An entry of a constant pool, with the parts of its payload. -/
inductive Pool.Entry where
  /-- A text: bytes that encode it, and of which the length can be written. -/
  | text (payload : Bytes) (value : String) (fits : payload.length < 65536)
      (decodes : ModifiedUtf8.decode? payload = some value)
  | integer (bits : UInt32)
  | float (bits : UInt32)
  | long (high low : UInt32)
  | double (high low : UInt32)
  | classRef (nameIndex : UInt16)
  | string (textIndex : UInt16)
  | fieldRef (classIndex signatureIndex : UInt16)
  | methodRef (classIndex signatureIndex : UInt16)
  | interfaceMethodRef (classIndex signatureIndex : UInt16)
  | nameAndType (nameIndex descriptorIndex : UInt16)
  | methodHandle (kind : UInt8) (referenceIndex : UInt16)
  | methodType (descriptorIndex : UInt16)
  | dynamic (bootstrapIndex signatureIndex : UInt16)
  | invokeDynamic (bootstrapIndex signatureIndex : UInt16)
  | module (nameIndex : UInt16)
  | package (nameIndex : UInt16)

namespace Pool.Entry

/-- The tag byte. -/
def tag : Entry → UInt8
  | text .. => 1
  | integer _ => 3
  | float _ => 4
  | long _ _ => 5
  | double _ _ => 6
  | classRef _ => 7
  | string _ => 8
  | fieldRef _ _ => 9
  | methodRef _ _ => 10
  | interfaceMethodRef _ _ => 11
  | nameAndType _ _ => 12
  | methodHandle _ _ => 15
  | methodType _ => 16
  | dynamic _ _ => 17
  | invokeDynamic _ _ => 18
  | module _ => 19
  | package _ => 20

/-- The payload: the bytes of a text, or numbers of one, two or four bytes. -/
def payload : Entry → Bytes
  | text payload .. => payload
  | integer bits | float bits => bytes4 bits
  | long high low | double high low => bytes4 high ++ bytes4 low
  | classRef i | string i | methodType i | module i | package i => bytes2 i
  | fieldRef i j | methodRef i j | interfaceMethodRef i j | nameAndType i j | dynamic i j
  | invokeDynamic i j => bytes2 i ++ bytes2 j
  | methodHandle kind i => kind :: bytes2 i

/-- The bytes of an entry: its tag and its payload. A text has its length between the two. -/
def bytes (e : Entry) : Bytes :=
  match e with
  | text payload .. => e.tag :: (bytes2 (UInt16.ofNat payload.length) ++ payload)
  | _ => e.tag :: e.payload

/-- The number of slots of an entry. -/
def slots : Entry → Nat
  | long _ _ | double _ _ => 2
  | _ => 1

/-- The constant that an entry is. -/
def constant (e : Entry) : Constant :=
  match e with
  | text payload value .. => .text payload value
  | classRef nameIndex => .classRef nameIndex
  | integer _ => .plain .integer e.payload
  | float _ => .plain .float e.payload
  | long _ _ => .plain .long e.payload
  | double _ _ => .plain .double e.payload
  | string _ => .plain .string e.payload
  | fieldRef _ _ => .plain .fieldRef e.payload
  | methodRef _ _ => .plain .methodRef e.payload
  | interfaceMethodRef _ _ => .plain .interfaceMethodRef e.payload
  | nameAndType _ _ => .plain .nameAndType e.payload
  | methodHandle _ _ => .plain .methodHandle e.payload
  | methodType _ => .plain .methodType e.payload
  | dynamic _ _ => .plain .dynamic e.payload
  | invokeDynamic _ _ => .plain .invokeDynamic e.payload
  | module _ => .plain .module e.payload
  | package _ => .plain .package e.payload

/-! The three tables of the reader, of tags, sizes and widths, are those of the format. -/

theorem bytes_constant (e : Entry) : e.constant.bytes = e.bytes := by
  cases e <;> rfl

theorem wellFormed_constant (e : Entry) : e.constant.WellFormed := by
  cases e with
  | text payload value fits decodes => exact ⟨fits, decodes⟩
  | classRef nameIndex => trivial
  | _ => rfl

theorem width_constant (e : Entry) : e.constant.width = e.slots := by
  cases e <;> rfl

theorem slots_pos (e : Entry) : 0 < e.slots := by
  cases e <;> exact Nat.succ_pos _

theorem constant_eq_text_iff {e : Entry} {payload : Bytes} {value : String} :
    e.constant = .text payload value ↔ ∃ fits decodes, e = .text payload value fits decodes := by
  constructor
  · intro h
    cases e with
    | text payload' value' fits decodes =>
        obtain ⟨rfl, rfl⟩ := Constant.text.inj h
        exact ⟨fits, decodes, rfl⟩
    | _ => cases h
  · rintro ⟨fits, decodes, rfl⟩
    rfl

theorem constant_eq_classRef_iff {e : Entry} {nameIndex : UInt16} :
    e.constant = .classRef nameIndex ↔ e = .classRef nameIndex := by
  constructor
  · intro h
    cases e with
    | classRef nameIndex' => rw [Constant.classRef.inj h]
    | _ => cases h
  · rintro rfl
    rfl

end Pool.Entry

/-! ## Places of entries -/

namespace Pool

/-- The number of slots of a row of entries. -/
def slotTotal : List Entry → Nat
  | [] => 0
  | e :: entries => e.slots + slotTotal entries

/-- The index is one more than the number of slots of the predecessors of the entry. -/
def EntryAt (entries : List Entry) (index : Nat) (e : Entry) : Prop :=
  ∃ before after, entries = before ++ e :: after ∧ index = 1 + slotTotal before

/-- The index is that of a text entry, with this text. -/
def TextEntryAt (entries : List Entry) (index : Nat) (value : String) : Prop :=
  ∃ payload fits decodes, EntryAt entries index (.text payload value fits decodes)

/-- The index is that of a class entry, and the name index in it that of an entry with this text. -/
def ClassEntryAt (entries : List Entry) (index : Nat) (name : String) : Prop :=
  ∃ nameIndex, EntryAt entries index (.classRef nameIndex) ∧
    TextEntryAt entries nameIndex.toNat name

/-- The index is slot 0, the second slot of an entry, or behind the last slot. -/
inductive Vacant (entries : List Entry) : Nat → Prop
  | zero : Vacant entries 0
  | second {index : Nat} {e : Entry} (hat : EntryAt entries index e) (hwide : e.slots = 2) :
      Vacant entries (index + 1)
  | behind {index : Nat} (hlast : slotTotal entries < index) : Vacant entries index

@[simp] theorem slotTotal_nil : slotTotal [] = 0 := rfl

@[simp] theorem slotTotal_cons (e : Entry) (entries : List Entry) :
    slotTotal (e :: entries) = e.slots + slotTotal entries := rfl

@[simp] theorem slotTotal_append (es fs : List Entry) :
    slotTotal (es ++ fs) = slotTotal es + slotTotal fs := by
  induction es with
  | nil => simp
  | cons e es ih => rw [List.cons_append, slotTotal_cons, slotTotal_cons, ih, Nat.add_assoc]

/-- **Entries do not overlap**: of two entries, the one behind has its index behind all slots of the
one in front. -/
theorem EntryAt.sep {entries : List Entry} {i j : Nat} {e f : Entry} (he : EntryAt entries i e)
    (hf : EntryAt entries j f) (hlt : i < j) : i + e.slots ≤ j := by
  obtain ⟨before, after, rfl, rfl⟩ := he
  obtain ⟨before', after', hsplit, rfl⟩ := hf
  rcases List.append_eq_append_iff.mp hsplit with ⟨between, rfl, hrest⟩ | ⟨between, rfl, -⟩
  · rw [slotTotal_append] at hlt ⊢
    cases between with
    | nil =>
        rw [slotTotal_nil] at hlt
        omega
    | cons b between =>
        -- what stands between starts with the entry in front
        obtain ⟨rfl, -⟩ := List.cons.inj hrest
        rw [slotTotal_cons]
        omega
  · -- the predecessors of `f` are among those of `e`, and its index cannot be larger
    rw [slotTotal_append] at hlt
    omega

/-- All slots of an entry are counted. -/
theorem EntryAt.inside {entries : List Entry} {i : Nat} {e : Entry} (h : EntryAt entries i e) :
    i + e.slots ≤ 1 + slotTotal entries := by
  obtain ⟨before, after, rfl, rfl⟩ := h
  rw [slotTotal_append, slotTotal_cons]
  omega

/-- **A vacant index is that of no entry.** -/
theorem Vacant.not_entryAt {entries : List Entry} {i : Nat} (h : Vacant entries i) (e : Entry) :
    ¬ EntryAt entries i e := by
  intro hat
  cases h with
  | zero =>
      obtain ⟨before, after, -, hindex⟩ := hat
      omega
  | second hfirst hwide =>
      have hsep := hfirst.sep hat (Nat.lt_succ_self _)
      omega
  | behind hlast =>
      have hinside := hat.inside
      have hpos := e.slots_pos
      omega

/-! ## Places of their constants -/

theorem width_map_constant (entries : List Entry) :
    width (entries.map Entry.constant) = slotTotal entries := by
  induction entries with
  | nil => rfl
  | cons e entries ih =>
      rw [List.map_cons, width_cons, slotTotal_cons, e.width_constant, ih]

/-- The places of the constants are the places of the entries. -/
theorem exists_split_map_iff {entries : List Entry} {index : Nat} {c : Constant} :
    (∃ before after, entries.map Entry.constant = before ++ c :: after ∧
        index = 1 + width before) ↔
      ∃ e, EntryAt entries index e ∧ e.constant = c := by
  constructor
  · rintro ⟨before, after, hsplit, rfl⟩
    obtain ⟨front, rest, rfl, rfl, hrest⟩ := List.map_eq_append_iff.mp hsplit
    obtain ⟨e, back, rfl, rfl, -⟩ := List.map_eq_cons_iff.mp hrest
    exact ⟨e, ⟨front, back, rfl, by rw [width_map_constant]⟩, rfl⟩
  · rintro ⟨e, ⟨before, after, rfl, rfl⟩, rfl⟩
    exact ⟨before.map Entry.constant, after.map Entry.constant, by simp,
      by rw [width_map_constant]⟩

theorem exists_text_iff {entries : List Entry} {index : Nat} {value : String} :
    (∃ payload e, EntryAt entries index e ∧ e.constant = .text payload value) ↔
      TextEntryAt entries index value := by
  simp only [TextEntryAt, Entry.constant_eq_text_iff]
  constructor
  · rintro ⟨payload, _, hat, fits, decodes, rfl⟩
    exact ⟨payload, fits, decodes, hat⟩
  · rintro ⟨payload, fits, decodes, hat⟩
    exact ⟨payload, _, hat, fits, decodes, rfl⟩

theorem exists_classRef_iff {entries : List Entry} {index : Nat} {nameIndex : UInt16} :
    (∃ e, EntryAt entries index e ∧ e.constant = .classRef nameIndex) ↔
      EntryAt entries index (.classRef nameIndex) := by
  simp only [Entry.constant_eq_classRef_iff, exists_eq_right]

/-- The slot of an index holds the constant of the entry there. -/
theorem constantAt_map_iff {entries : List Entry} {index : Nat} {c : Constant} :
    Tables.constantAt (entries.map Entry.constant) index = some c ↔
      ∃ e, EntryAt entries index e ∧ e.constant = c :=
  getElem?_row_eq_some_iff.trans exists_split_map_iff

theorem Vacant.constantAt_eq_none {entries : List Entry} {index : Nat} (h : Vacant entries index) :
    Tables.constantAt (entries.map Entry.constant) index = none := by
  rw [Option.eq_none_iff_forall_ne_some]
  intro c hc
  obtain ⟨e, hat, -⟩ := constantAt_map_iff.mp hc
  exact h.not_entryAt e hat

/-! ## Look-ups in the slots -/

/-- The look-ups in the slots answer for the entries. -/
structure Indexes (pool : Pool) (entries : List Entry) : Prop where
  /-- An index can be used exactly if it is that of an entry, and then the entry is found. -/
  usable : ∀ index c, pool.get? index = some c ↔
    ∃ e, EntryAt entries index.toNat e ∧ e.constant = c
  text : ∀ index value, pool.text index = .ok value ↔ TextEntryAt entries index.toNat value
  className : ∀ index name, pool.className index = .ok name ↔
    ClassEntryAt entries index.toNat name
  vacant : ∀ index, Vacant entries index.toNat →
    pool.text index = .error (.unusable index.toNat) ∧
    pool.className index = .error (.unusable index.toNat)

theorem standsAt_map_iff {entries : List Entry} {index : UInt16} {c : Constant} :
    StandsAt (entries.map Entry.constant) index c ↔
      ∃ e, EntryAt entries index.toNat e ∧ e.constant = c :=
  exists_split_map_iff

theorem textAt_map_iff {entries : List Entry} {index : UInt16} {value : String} :
    TextAt (entries.map Entry.constant) index value ↔ TextEntryAt entries index.toNat value := by
  simp only [TextAt, standsAt_map_iff, exists_text_iff]

theorem classAt_map_iff {entries : List Entry} {index : UInt16} {name : String} :
    ClassAt (entries.map Entry.constant) index name ↔ ClassEntryAt entries index.toNat name := by
  simp only [ClassAt, ClassEntryAt, standsAt_map_iff, exists_classRef_iff, textAt_map_iff]

/-- **The slots of the constants of some entries answer for the entries.** -/
theorem indexes_ofConstants (entries : List Entry) :
    (ofConstants (entries.map Entry.constant)).Indexes entries where
  usable := fun _ _ => get?_eq_some_iff.trans standsAt_map_iff
  text := fun _ _ => text_eq_ok_iff.trans textAt_map_iff
  className := fun _ _ => className_eq_ok_iff.trans classAt_map_iff
  vacant := by
    intro index h
    rw [Pool.text, Pool.className, Tables.get?_ofConstants, h.constantAt_eq_none]
    exact ⟨rfl, rfl⟩

end Pool

/-! ## Look-ups in the tables -/

namespace Tables

open Pool (Entry EntryAt TextEntryAt ClassEntryAt Vacant)

/-- The three tables, and the look-ups in them, answer for the entries, at whatever index. -/
structure Indexes (t : Tables) (source : String) (entries : List Entry) : Prop where
  tags : ∀ index tag, t.tags.get? index = some tag ↔
    ∃ e, EntryAt entries index e ∧ e.constant.tag = tag
  texts : ∀ index value, t.texts.get? index = some value ↔ TextEntryAt entries index value
  classes : ∀ index nameIndex, t.classes.get? index = some nameIndex ↔
    EntryAt entries index (.classRef nameIndex)
  text : ∀ index value, t.text index = .ok value ↔ TextEntryAt entries index value
  className : ∀ index name, t.className index = .ok name ↔ ClassEntryAt entries index name
  vacant : ∀ index, Vacant entries index →
    t.text index = .error (refusal source (.unusable index)) ∧
    t.className index = .error (refusal source (.unusable index))

section
variable {t : Tables} {constants : List Constant}

theorem Describes.get?_texts_iff (h : t.Describes constants) {index : Nat} {value : String} :
    t.texts.get? index = some value ↔
      ∃ payload, constantAt constants index = some (.text payload value) := by
  rw [h.texts]
  cases constantAt constants index with
  | none => simp
  | some c => cases c <;> simp [Constant.text?]

theorem Describes.get?_classes_iff (h : t.Describes constants) {index : Nat} {nameIndex : UInt16} :
    t.classes.get? index = some nameIndex ↔
      constantAt constants index = some (.classRef nameIndex) := by
  rw [h.classes]
  cases constantAt constants index with
  | none => simp
  | some c => cases c <;> simp [Pool.nameIndex?]

/-- The look-up of a text gives what the table of texts holds: the check of the tag lets exactly its
indexes pass. -/
theorem Describes.text_eq_ok_iff (h : t.Describes constants) {index : Nat} {value : String} :
    t.text index = .ok value ↔ t.texts.get? index = some value := by
  rw [text, check, lookUp, h.tags, h.texts]
  cases constantAt constants index with
  | none => simp [bind, Except.bind]
  | some c => cases c <;> simp [bind, Except.bind, Constant.tag, Constant.text?]

/-- The look-up of a class goes on with the text at the index that the table of classes holds. -/
theorem Describes.className_eq_ok_iff (h : t.Describes constants) {index : Nat} {name : String} :
    t.className index = .ok name ↔
      ∃ nameIndex, t.classes.get? index = some nameIndex ∧ t.text nameIndex.toNat = .ok name := by
  rw [className, check, lookUp, h.tags, h.classes]
  cases constantAt constants index with
  | none => simp [bind, Except.bind]
  | some c => cases c <;> simp [bind, Except.bind, Constant.tag, Pool.nameIndex?]

end

/-- **Tables that describe the constants of some entries answer for the entries.** -/
theorem Describes.indexes {t : Tables} {entries : List Entry}
    (h : t.Describes (entries.map Entry.constant)) : t.Indexes t.source entries := by
  have htexts : ∀ index value,
      t.texts.get? index = some value ↔ TextEntryAt entries index value := by
    intro index value
    simp only [h.get?_texts_iff, Pool.constantAt_map_iff, Pool.exists_text_iff]
  have hclasses : ∀ index nameIndex, t.classes.get? index = some nameIndex ↔
      EntryAt entries index (.classRef nameIndex) := by
    intro index nameIndex
    rw [h.get?_classes_iff, Pool.constantAt_map_iff, Pool.exists_classRef_iff]
  refine ⟨fun index tag => ?_, htexts, hclasses, fun index value => ?_, fun index name => ?_,
    fun index hvacant => ?_⟩
  · rw [h.tags, Option.map_eq_some_iff]
    constructor
    · rintro ⟨c, hc, rfl⟩
      obtain ⟨e, hat, rfl⟩ := Pool.constantAt_map_iff.mp hc
      exact ⟨e, hat, rfl⟩
    · rintro ⟨e, hat, rfl⟩
      exact ⟨e.constant, Pool.constantAt_map_iff.mpr ⟨e, hat, rfl⟩, rfl⟩
  · rw [h.text_eq_ok_iff, htexts]
  · simp only [h.className_eq_ok_iff, hclasses, h.text_eq_ok_iff, htexts, ClassEntryAt]
  · -- without a tag neither look-up gets to its table
    rw [text, className, check, check, h.tags, hvacant.constantAt_eq_none]
    exact ⟨rfl, rfl⟩

end Tables

/-! ## Reading -/

namespace Pool

/-- The bytes of a pool: the number of slots, slot 0 included, and the entries. -/
def poolBytes (entries : List Entry) : Bytes :=
  bytes2 (UInt16.ofNat (1 + slotTotal entries)) ++ entries.flatMap Entry.bytes

/-- **A written pool is read back**, and nothing behind it is touched. -/
theorem reads_poolBytes {entries : List Entry} (hfit : slotTotal entries ≤ 65534) :
    (u2 >>= readConstants).Reads (poolBytes entries) (entries.map Entry.constant) := by
  intro rest
  have hcount : (UInt16.ofNat (1 + slotTotal entries)).toNat = 1 + slotTotal entries := by
    apply UInt16.toNat_ofNat_of_lt'
    show 1 + slotTotal entries < 65536
    omega
  have hfills : Fills (entries.map Entry.constant)
      ((UInt16.ofNat (1 + slotTotal entries)).toNat - 1) := by
    rw [hcount, Nat.add_sub_cancel_left, ← width_map_constant]
    exact fills_width _
  have hwellFormed : ∀ c ∈ entries.map Entry.constant, c.WellFormed := by
    intro c hc
    obtain ⟨e, -, rfl⟩ := List.mem_map.mp hc
    exact e.wellFormed_constant
  have hbytes : entries.flatMap Entry.bytes =
      (entries.map Entry.constant).flatMap Constant.bytes := by
    simp only [List.flatMap_map, Entry.bytes_constant]
  rw [poolBytes, List.append_assoc, (reads_u2 _).bind_apply, hbytes]
  exact reads_readConstants hwellFormed hfills rest

end Pool

/-- Reading the tables follows reading the constants. -/
theorem Tables.follows_readTables (source : String) :
    Follows source (fun t constants => t.Describes constants ∧ t.source = source) readTables
      (u2 >>= readConstants) := by
  have hlast : (u2 >>= fun count => readConstants count >>= pure) = u2 >>= readConstants := by
    simp only [bind_pure_eq]
  rw [← bind_pure readTables, ← hlast]
  exact follows_readTables_bind fun _ _ _ hdescribes hsource => follows_pure ⟨hdescribes, hsource⟩

open Pool in
/-- **The indexes of a written pool are those of its entries.** Take any row of entries whose slots
can be numbered, and any bytes behind it. Reading the count and the entries leaves exactly these
bytes. An index can be used exactly if it is one more than the number of slots of the predecessors
of some entry, and the constant found there is that entry. A text is found exactly at the index of a
text entry, and the name of a class exactly at the index of a class entry whose name index is that
of a text entry. Index zero, the second slot of a long or a double and every index behind the last
slot are refused.

A reader that fills three tables side by side, with a cursor at any position in any bytes, leaves
the cursor in front of the same bytes, and its tables and look-ups answer so for every number. -/
theorem readConstants_indexes (entries : List Entry) (hfit : slotTotal entries ≤ 65534)
    (rest : Bytes) :
    (u2 >>= readConstants) (poolBytes entries ++ rest) = .ok (entries.map Entry.constant, rest) ∧
    (ofConstants (entries.map Entry.constant)).Indexes entries ∧
    ∀ source front, ∃ t,
      Tables.readTables (.between source front (poolBytes entries ++ rest)) =
        .ok (t, .between source (front ++ poolBytes entries) rest) ∧
      t.Indexes source entries := by
  refine ⟨reads_poolBytes hfit rest, indexes_ofConstants entries, fun source front => ?_⟩
  obtain ⟨t, hread, hdescribes, rfl⟩ :=
    Follows.of_reads (Tables.follows_readTables source) (reads_poolBytes hfit) front rest
  exact ⟨t, hread, hdescribes.indexes⟩

/-- A long, a text, a double and a class, at the indexes 1, 3, 4 and 6. -/
def Pool.wideEntries : List Pool.Entry :=
  [.long 0 7, .text [0x41] "A" (by decide) (by decide), .double 0x40040000 0, .classRef 3]

open Pool in
theorem readConstants_indexes_wide :
    slotTotal wideEntries ≤ 65534 ∧
    (u2 >>= readConstants)
        [0, 7, 5, 0, 0, 0, 0, 0, 0, 0, 7, 1, 0, 1, 0x41, 6, 0x40, 4, 0, 0, 0, 0, 0, 0, 7, 0, 3,
          0xff]
      = .ok (wideEntries.map Entry.constant, [0xff]) ∧
    (ofConstants (wideEntries.map Entry.constant)).className 6 = .ok "A" ∧
    ∀ index ∈ [(0 : UInt16), 2, 5, 7],
      (ofConstants (wideEntries.map Entry.constant)).text index
        = .error (.unusable index.toNat) := by
  have hfit : slotTotal wideEntries ≤ 65534 := by decide
  obtain ⟨hread, hindexes, -⟩ := readConstants_indexes wideEntries hfit [0xff]
  have hlong : EntryAt wideEntries 1 (.long 0 7) :=
    ⟨[], wideEntries.drop 1, rfl, rfl⟩
  have htext : TextEntryAt wideEntries 3 "A" :=
    ⟨[0x41], by decide, by decide, wideEntries.take 1, wideEntries.drop 2, rfl, rfl⟩
  have hdouble : EntryAt wideEntries 4 (.double 0x40040000 0) :=
    ⟨wideEntries.take 2, wideEntries.drop 3, rfl, rfl⟩
  have hclass : EntryAt wideEntries 6 (.classRef 3) :=
    ⟨wideEntries.take 3, [], rfl, rfl⟩
  refine ⟨hfit, hread, (hindexes.className 6 "A").mpr ⟨3, hclass, htext⟩,
    fun index hindex => (hindexes.vacant index ?_).1⟩
  simp only [List.mem_cons, List.not_mem_nil, or_false] at hindex
  rcases hindex with rfl | rfl | rfl | rfl
  · exact .zero
  · exact .second hlong rfl
  · exact .second hdouble rfl
  · exact .behind (by decide)

end JvmDeps.ClassFile
