import JvmDeps.Data.SortedSet
import JvmDeps.Proofs.ClassFile.Cursor
import JvmDeps.Proofs.ClassFile.PrefixFree
import JvmDeps.Proofs.Data.OrderedMap

set_option autoImplicit false

/-! # Constants in three tables

The constants of a class file can also be kept in three tables: the tags of all constants, the
texts, and the name indexes of classes, each by index. A look-up first asks the tags what stands at
an index, and then takes the entry of another table, which might not be there. Likewise the size of
a payload is taken from a table of sizes.

The tables stay in step (`Tables.Describes`): at each index the three say what the row of constants
says. One constant more keeps this (`Describes.store`), and so does the whole loop
(`follows_readTables_bind`). Hence no look-up misses an entry, and each gives what the look-up in
the `Pool` gives (`Describes.text_eq`, `Describes.className_eq`, `Describes.classNames_eq`).
-/

namespace JvmDeps.ClassFile

open Reading (u1 u2 u4 take handling)

/-! ## Tags -/

/-- What kind of constant stands at an index. -/
inductive Tag where
  | text
  | classRef
  | plain (kind : PlainKind)
deriving DecidableEq, Repr

namespace Tag

/-- The tag of a byte. -/
def ofByte (byte : UInt8) : Except Interrupt Tag :=
  if byte = Constant.textTag then .ok .text
  else if byte = Constant.classTag then .ok .classRef
  else (PlainKind.ofTag? byte).elim (.error .unknownTag) fun kind => .ok (.plain kind)

/-- The word for a tag in messages. -/
def word : Tag → String
  | text => Constant.textWord
  | classRef => Constant.classWord
  | plain kind => kind.word

/-- The number of slots that a constant with the tag takes. -/
def width : Tag → Nat
  | plain kind => if kind.isWide then 2 else 1
  | _ => 1

theorem width_pos (tag : Tag) : 0 < tag.width := by
  unfold width
  split
  · split <;> decide
  · decide

/-- The sizes of the payloads of all tags but that of texts. -/
def sizes : OrderedMap Tag Nat :=
  .ofList ((.classRef, 2) :: PlainKind.all.map fun kind => (.plain kind, kind.size))

/-- **The table of sizes has every tag that is looked up in it.** -/
theorem get?_sizes_plain (kind : PlainKind) : sizes.get? (.plain kind) = some kind.size := by
  cases kind <;> decide

end Tag

/-- The tag of a constant. -/
def Constant.tag : Constant → Tag
  | text _ _ => .text
  | classRef _ => .classRef
  | plain kind _ => .plain kind

/-- The text that a constant is. -/
def Constant.text? : Constant → Option String
  | text _ value => some value
  | _ => none

theorem Constant.width_tag (c : Constant) : c.tag.width = c.width := by
  cases c <;> rfl

/-! ## Tables -/

/-- The entry of a table under a key. -/
def lookUp {κ α : Type} [DecidableEq κ] (m : OrderedMap κ α) (k : κ) : Except Interrupt α :=
  (m.get? k).elim (.error .missingKey) .ok

/-- The constants of a class file by index: their tags, the texts, and the name indexes of classes;
and the label of the file. -/
structure Tables where
  tags : OrderedMap Nat Tag
  texts : OrderedMap Nat String
  classes : OrderedMap Nat UInt16
  source : String

namespace Tables

/-- What stands at the index must have the tag. -/
def check (t : Tables) (index : Nat) (expected : Tag) : Except Interrupt Unit :=
  match t.tags.get? index with
  | none => .error (.refused t.source (Cause.unusable index).text)
  | some tag =>
    if tag = expected then .ok ()
    else .error (.refused t.source (Cause.wrongKind index tag.word expected.word).text)

/-- The text at an index. -/
def text (t : Tables) (index : Nat) : Except Interrupt String := do
  t.check index .text
  lookUp t.texts index

/-- The name of the class at an index. -/
def className (t : Tables) (index : Nat) : Except Interrupt String := do
  t.check index .classRef
  let nameIndex ← lookUp t.classes index
  t.text nameIndex.toNat

/-- The names of all classes, each once, in the order of their indexes. -/
def classNames (t : Tables) : Except Interrupt (List String) := do
  let names ← (SortedSet.ofList t.classes.keys).toList.mapM t.className
  return names.eraseDups

/-- Interrupts of one kind are refused for a reason. -/
def only (i : Interrupt) (reason : String) : Interrupt → Option String := fun j =>
  if j = i then some reason else none

/-- The text that a payload encodes. -/
def decodeText (payload : Bytes) : Except Interrupt String :=
  (ModifiedUtf8.decode? payload).elim (.error .undecodable) .ok

/-- Reads the constant that is to stand at an index, and gives its tag and the tables with it. -/
def readEntry (index : Nat) (t : Tables) : Reading (Tag × Tables) := do
  let byte ← u1
  let tag ← handling (only .unknownTag (Cause.unknownTag byte index).text) (Tag.ofByte byte)
  let t := { t with tags := t.tags.insert index tag }
  match tag with
  | .text =>
    let size ← u2
    let payload ← take size.toNat
    let value ← handling (only .undecodable (Cause.badText index).text) (decodeText payload)
    return (tag, { t with texts := t.texts.insert index value })
  | .classRef =>
    let nameIndex ← u2
    return (tag, { t with classes := t.classes.insert index nameIndex })
  | .plain _ =>
    let size ← lookUp Tag.sizes tag
    let _ ← take size
    return (tag, t)

/-- Reads constants from an index on, while it is below the count. -/
def readEntries (count index : Nat) (t : Tables) : Reading Tables :=
  if index < count then do
    let read ← readEntry index t
    readEntries count (index + read.1.width) read.2
  else pure t
termination_by count - index
decreasing_by
  have := read.1.width_pos
  omega

/-- Reads the count of the slots, slot 0 included, and the constants. -/
def readTables : Reading Tables := do
  let count ← u2
  let c ← get
  readEntries count.toNat 1 ⟨∅, ∅, ∅, c.source⟩

/-! ## Tables in step -/

/-- The constant at an index of a row of constants. -/
def constantAt (constants : List Constant) (index : Nat) : Option Constant :=
  (none :: constants.flatMap Constant.slots)[index]?.join

/-- **The three tables are in step**: at each index they say what the row of constants says, and the
indexes of classes are entered in increasing order. -/
structure Describes (t : Tables) (constants : List Constant) : Prop where
  tags : ∀ index, t.tags.get? index = (constantAt constants index).map Constant.tag
  texts : ∀ index, t.texts.get? index = (constantAt constants index).bind Constant.text?
  classes : ∀ index, t.classes.get? index = (constantAt constants index).bind Pool.nameIndex?
  order : t.classes.keys.Pairwise (· < ·)
  values : t.classes.values = constants.filterMap Pool.nameIndex?

/-- The tables with one constant more. -/
def store (t : Tables) (index : Nat) (c : Constant) : Tables where
  tags := t.tags.insert index c.tag
  texts := c.text?.elim t.texts (t.texts.insert index)
  classes := (Pool.nameIndex? c).elim t.classes (t.classes.insert index)
  source := t.source

theorem length_flatMap_slots (constants : List Constant) :
    (constants.flatMap Constant.slots).length = width constants := by
  induction constants with
  | nil => rfl
  | cons c constants ih =>
      rw [List.flatMap_cons, List.length_append, c.length_slots, ih, width_cons]

theorem constantAt_eq_none {constants : List Constant} {index : Nat}
    (h : 1 + width constants ≤ index) : constantAt constants index = none := by
  rw [constantAt, List.getElem?_eq_none]
  · rfl
  · rw [List.length_cons, length_flatMap_slots]
    omega

/-- A constant behind the others stands at the first free index. -/
theorem constantAt_append (constants : List Constant) (c : Constant) (index : Nat) :
    constantAt (constants ++ [c]) index =
      if index = 1 + width constants then some c else constantAt constants index := by
  have hlength : (none :: constants.flatMap Constant.slots).length = 1 + width constants := by
    rw [List.length_cons, length_flatMap_slots, Nat.add_comm]
  have hslots : none :: (constants ++ [c]).flatMap Constant.slots =
      (none :: constants.flatMap Constant.slots) ++ c.slots := by simp
  rw [constantAt, hslots]
  by_cases hbefore : index < 1 + width constants
  · rw [List.getElem?_append_left (by omega), if_neg (by omega)]
    rfl
  · rw [List.getElem?_append_right (by omega), hlength, constantAt_eq_none (by omega)]
    -- of the slots of the constant only the first holds it
    unfold Constant.slots
    by_cases hfirst : index = 1 + width constants
    · rw [if_pos hfirst, hfirst, Nat.sub_self]
      split <;> rfl
    · rw [if_neg hfirst]
      obtain ⟨k, hk⟩ : ∃ k, index - (1 + width constants) = k + 1 :=
        ⟨index - (1 + width constants) - 1, by omega⟩
      rw [hk]
      split
      · cases k <;> rfl
      · rfl

theorem Describes.lt_of_mem {t : Tables} {constants : List Constant} (h : t.Describes constants)
    {index : Nat} (hindex : index ∈ t.classes.keys) : index < 1 + width constants := by
  obtain ⟨nameIndex, hget⟩ := OrderedMap.mem_keys_iff.mp hindex
  by_contra hbehind
  rw [h.classes, constantAt_eq_none (by omega)] at hget
  cases hget

theorem describes_empty (source : String) : Describes ⟨∅, ∅, ∅, source⟩ [] := by
  have hnone : ∀ index, constantAt [] index = none := by
    intro index
    cases index <;> rfl
  refine ⟨fun index => ?_, fun index => ?_, fun index => ?_, List.Pairwise.nil, rfl⟩
  · rw [hnone]
    rfl
  · rw [hnone]
    rfl
  · rw [hnone]
    rfl

/-- **One constant more leaves the tables in step.** -/
theorem Describes.store {t : Tables} {constants : List Constant} (h : t.Describes constants)
    (c : Constant) : (t.store (1 + width constants) c).Describes (constants ++ [c]) := by
  have hfree : 1 + width constants ∉ t.classes.keys := fun hmem =>
    Nat.lt_irrefl _ (h.lt_of_mem hmem)
  have hnone : constantAt constants (1 + width constants) = none :=
    constantAt_eq_none (Nat.le_refl _)
  refine ⟨fun index => ?_, fun index => ?_, fun index => ?_, ?_, ?_⟩
  · rw [Tables.store, OrderedMap.get?_insert, constantAt_append, h.tags]
    split <;> rfl
  -- the texts change by a text only, the classes by a reference only, and both at its index
  · rw [constantAt_append]
    by_cases hindex : index = 1 + width constants
    · rw [if_pos hindex, Tables.store, hindex]
      cases c with
      | text payload value => exact (OrderedMap.get?_insert _ _ _ _).trans (if_pos rfl)
      | classRef nameIndex => exact (h.texts _).trans (by rw [hnone]; rfl)
      | plain kind payload => exact (h.texts _).trans (by rw [hnone]; rfl)
    · rw [if_neg hindex, Tables.store, ← h.texts]
      cases c with
      | text payload value => exact (OrderedMap.get?_insert _ _ _ _).trans (if_neg hindex)
      | classRef nameIndex => rfl
      | plain kind payload => rfl
  · rw [constantAt_append]
    by_cases hindex : index = 1 + width constants
    · rw [if_pos hindex, Tables.store, hindex]
      cases c with
      | text payload value => exact (h.classes _).trans (by rw [hnone]; rfl)
      | classRef nameIndex => exact (OrderedMap.get?_insert _ _ _ _).trans (if_pos rfl)
      | plain kind payload => exact (h.classes _).trans (by rw [hnone]; rfl)
    · rw [if_neg hindex, Tables.store, ← h.classes]
      cases c with
      | text payload value => rfl
      | classRef nameIndex => exact (OrderedMap.get?_insert _ _ _ _).trans (if_neg hindex)
      | plain kind payload => rfl
  · cases c with
    | text payload value => exact h.order
    | classRef nameIndex =>
        show (t.classes.insert _ _).keys.Pairwise _
        rw [OrderedMap.keys_insert_of_not_mem _ hfree, List.pairwise_append]
        refine ⟨h.order, List.pairwise_singleton _ _, fun a ha b hb => ?_⟩
        rw [List.mem_singleton.mp hb]
        exact h.lt_of_mem ha
    | plain kind payload => exact h.order
  · rw [List.filterMap_append, ← h.values]
    cases c with
    | text payload value => exact (List.append_nil _).symm
    | classRef nameIndex =>
        show (OrderedMap.put _ _ t.classes.entries).map Prod.snd = _
        rw [OrderedMap.put_of_not_mem hfree, List.map_append]
        rfl
    | plain kind payload => exact (List.append_nil _).symm

/-! ## Look-ups -/

theorem get?_ofConstants (constants : List Constant) (index : UInt16) :
    (Pool.ofConstants constants).get? index = constantAt constants index.toNat := by
  simp [Pool.get?, Pool.ofConstants, constantAt]

/-- A refusal of the pool, with the label. -/
abbrev refusal (source : String) (cause : Cause) : Interrupt := .refused source cause.text

/-- **A look-up of a text misses no entry**, and gives what the pool gives. -/
theorem Describes.text_eq {t : Tables} {constants : List Constant} (h : t.Describes constants)
    (index : UInt16) :
    t.text index.toNat = ((Pool.ofConstants constants).text index).mapError (refusal t.source) := by
  have htags := h.tags index.toNat
  have htexts := h.texts index.toNat
  rw [Pool.text, get?_ofConstants, text, check, lookUp, htags, htexts]
  cases constantAt constants index.toNat with
  | none => rfl
  | some c => cases c <;> rfl

/-- **A look-up of a class misses no entry**, and gives what the pool gives. -/
theorem Describes.className_eq {t : Tables} {constants : List Constant} (h : t.Describes constants)
    (index : UInt16) :
    t.className index.toNat =
      ((Pool.ofConstants constants).className index).mapError (refusal t.source) := by
  have htags := h.tags index.toNat
  have hclasses := h.classes index.toNat
  rw [Pool.className, get?_ofConstants, className, check, lookUp, htags, hclasses]
  cases constantAt constants index.toNat with
  | none => rfl
  | some c =>
      cases c with
      | text payload value => rfl
      | classRef nameIndex => exact h.text_eq nameIndex
      | plain kind payload => rfl

/-- The class of an entry has the text at its name index as name. -/
theorem Describes.className_of_mem {t : Tables} {constants : List Constant}
    (h : t.Describes constants) {e : Nat × UInt16} (he : e ∈ t.classes.entries) :
    t.className e.1 = t.text e.2.toNat := by
  have hget : t.classes.get? e.1 = some e.2 := OrderedMap.get?_eq_some_iff.mpr he
  have hstands : constantAt constants e.1 = some (.classRef e.2) := by
    rw [h.classes] at hget
    cases hconstant : constantAt constants e.1 with
    | none =>
        rw [hconstant] at hget
        cases hget
    | some c =>
        rw [hconstant] at hget
        cases c with
        | text payload value => cases hget
        | classRef nameIndex => rw [← Option.some.inj hget]
        | plain kind payload => cases hget
  rw [className, check, lookUp, h.tags, hget, hstands]
  rfl

/-- Keys that were entered in increasing order are sorted. -/
theorem toList_ofList_of_pairwise {keys : List Nat} (h : keys.Pairwise (· < ·)) :
    (SortedSet.ofList keys).toList = keys := by
  apply SortedSet.eq_of_pairwise_of_mem_iff (SortedSet.ofList keys).sorted
  · exact h.imp Nat.compare_eq_lt.mpr
  · intro k
    exact SortedSet.mem_ofList

/-- Look-ups over a list, one by one. -/
theorem mapM_eq_collect {α β : Type} {source : String} {f : α → Except Interrupt β}
    {g : α → Except Cause β} (h : ∀ a, f a = (g a).mapError (refusal source)) (l : List α) :
    l.mapM f = (Pool.collect g l).mapError (refusal source) := by
  induction l with
  | nil => rfl
  | cons a l ih =>
      rw [List.mapM_cons, Pool.collect, h a, ih]
      cases g a with
      | error cause => rfl
      | ok b => cases Pool.collect g l <;> rfl

theorem mapM_congr_of_mem {α β : Type} {f g : α → Except Interrupt β} {l : List α}
    (h : ∀ a ∈ l, f a = g a) : l.mapM f = l.mapM g := by
  induction l with
  | nil => rfl
  | cons a l ih =>
      obtain ⟨ha, hl⟩ := List.forall_mem_cons.mp h
      rw [List.mapM_cons, List.mapM_cons, ha, ih hl]

/-- **The names of all classes are found**, or refused, as in the pool. -/
theorem Describes.classNames_eq {t : Tables} {constants : List Constant}
    (h : t.Describes constants) :
    t.classNames =
      ((Pool.ofConstants constants).classNames constants).mapError (refusal t.source) := by
  have hentries : t.classes.keys.mapM t.className =
      t.classes.values.mapM fun nameIndex => t.text nameIndex.toNat := by
    rw [OrderedMap.keys, OrderedMap.values, List.mapM_map, List.mapM_map]
    exact mapM_congr_of_mem fun e he => h.className_of_mem he
  rw [classNames, toList_ofList_of_pairwise h.order, hentries, h.values,
    mapM_eq_collect h.text_eq, Pool.classNames]
  cases Pool.collect (Pool.ofConstants constants).text (constants.filterMap Pool.nameIndex?) <;> rfl

/-! ## The loop -/

variable {source : String}

/-- A step that looks at the cursor first. -/
theorem follows_get {α β : Type} {R : α → β → Prop} {f : Cursor → Reading α} {p : Parser Cause β}
    (h : ∀ c : Cursor, c.source = source → Follows source R (f c) p) :
    Follows source R (get >>= f) p where
  ok := fun {c _ _} hc hp => (h c hc.label).ok hc hp
  error := fun {c _} hc hp => (h c hc.label).error hc hp

theorem handling_ok_bind {α β : Type} (handled : Interrupt → Option String) (a : α)
    (f : α → Reading β) : (handling handled (.ok a) >>= f) = f a := rfl

theorem lift_ok_bind {α β : Type} (a : α) (f : α → Reading β) :
    ((liftM (Except.ok a : Except Interrupt α) : Reading α) >>= f) = f a := rfl

/-- An interrupt that is handled is a refusal. -/
theorem handling_error_bind {α β : Type} {handled : Interrupt → Option String} {i : Interrupt}
    {reason : String} (h : handled i = some reason) (f : α → Reading β) :
    (handling handled (.error i) >>= f) = Reading.refuse reason := by
  funext c
  simp only [handling, bind, StateT.bind, Except.bind, h, Option.elim_some, Reading.refuse]

/-- A constant is read into the tables. -/
theorem follows_readEntry (index : Nat) (t : Tables) :
    Follows source (fun read c => read = (c.tag, t.store index c)) (readEntry index t)
      (Constant.read index) := by
  refine follows_u1.bind fun byte byte' hbyte => ?_
  subst hbyte
  -- the parser asks for the two tags with an entry of their own first, and so does the proof
  by_cases htext : byte = Constant.textTag
  · have htag : Tag.ofByte byte = .ok .text := by rw [Tag.ofByte, if_pos htext]
    rw [htag, handling_ok_bind, if_pos htext]
    refine follows_u2.bind fun size size' hsize => ?_
    subst hsize
    refine (follows_take size.toNat).bind fun payload payload' hpayload => ?_
    obtain ⟨rfl, -⟩ := hpayload
    cases hvalue : ModifiedUtf8.decode? payload with
    | none =>
        have hdecode : decodeText payload = .error .undecodable := by rw [decodeText, hvalue]; rfl
        rw [hdecode, handling_error_bind (if_pos rfl)]
        exact follows_refuse _
    | some value =>
        have hdecode : decodeText payload = .ok value := by rw [decodeText, hvalue]; rfl
        rw [hdecode, handling_ok_bind]
        exact follows_pure rfl
  rw [if_neg htext]
  by_cases hclass : byte = Constant.classTag
  · have htag : Tag.ofByte byte = .ok .classRef := by
      rw [Tag.ofByte, if_neg htext, if_pos hclass]
    rw [htag, handling_ok_bind, if_pos hclass]
    refine follows_u2.bind fun nameIndex nameIndex' hnameIndex => ?_
    subst hnameIndex
    exact follows_pure rfl
  rw [if_neg hclass]
  cases hkind : PlainKind.ofTag? byte with
  | none =>
      have htag : Tag.ofByte byte = .error .unknownTag := by
        rw [Tag.ofByte, if_neg htext, if_neg hclass, hkind]
        rfl
      rw [htag, handling_error_bind (if_pos rfl)]
      exact follows_refuse _
  | some kind =>
      have htag : Tag.ofByte byte = .ok (.plain kind) := by
        rw [Tag.ofByte, if_neg htext, if_neg hclass, hkind]
        rfl
      have hsize : lookUp Tag.sizes (.plain kind) = .ok kind.size := by
        rw [lookUp, Tag.get?_sizes_plain]
        rfl
      rw [htag, handling_ok_bind]
      simp only [hsize, lift_ok_bind]
      exact (follows_take kind.size).bind fun _ _ _ => follows_pure rfl

/-- A wide constant takes one slot more, if one is left. -/
theorem readConstantsOnto_width (left index : Nat) (c : Constant) (acc : List Constant) :
    readConstantsOnto left (index + 1) c.isWide acc =
      readConstantsOnto (left + 1 - c.width) (index + c.width) false acc := by
  cases hwide : c.isWide with
  | false => rw [Constant.width_of_narrow hwide, Nat.add_sub_cancel]
  | true =>
      rw [Constant.width_of_wide hwide]
      funext s
      cases left with
      | zero => rfl
      | succ left => rfl

/-- **The loop keeps the tables in step** with the constants that were read. -/
theorem follows_readEntries {count index : Nat} {t : Tables} {acc : List Constant}
    (h : t.Describes acc.reverse) (hindex : index = 1 + width acc.reverse) :
    Follows source (fun t' constants => t'.Describes constants ∧ t'.source = t.source)
      (readEntries count index t) (readConstantsOnto (count - index) index false acc) := by
  -- the index grows by one or two, so the induction is on how far it is from the count
  induction hleft : count - index using Nat.strong_induction_on generalizing index t acc with
  | _ left ih =>
      rw [readEntries]
      by_cases hless : index < count
      · rw [if_pos hless]
        obtain ⟨left', rfl⟩ : ∃ left', left = left' + 1 := ⟨count - index - 1, by omega⟩
        rw [readConstantsOnto_succ]
        refine (follows_readEntry index t).bind fun read c hread => ?_
        rw [hread, readConstantsOnto_width, Constant.width_tag]
        have hpos : 0 < c.width := c.width_tag ▸ c.tag.width_pos
        have hrow : (c :: acc).reverse = acc.reverse ++ [c] := List.reverse_cons
        have hnext : index + c.width = 1 + width (c :: acc).reverse := by
          rw [hrow, ← length_flatMap_slots, List.flatMap_append, List.length_append,
            length_flatMap_slots, List.flatMap_singleton, c.length_slots]
          omega
        have hdescribes : (t.store index c).Describes (c :: acc).reverse := by
          rw [hrow, hindex]
          exact h.store c
        have hleft' : left' + 1 - c.width = count - (index + c.width) := by omega
        rw [hleft']
        exact ih _ (by omega) hdescribes hnext rfl
      · obtain rfl : left = 0 := by omega
        rw [if_neg hless]
        exact follows_pure ⟨h, rfl⟩

/-- **The tables that are read describe the constants**, and have the label of the bytes. -/
theorem follows_readTables_bind {α β : Type} {R : α → β → Prop} {f : Tables → Reading α}
    {g : UInt16 → List Constant → Parser Cause β}
    (hf : ∀ count t constants, t.Describes constants → t.source = source →
      Follows source R (f t) (g count constants)) :
    Follows source R (readTables >>= f)
      (Parser.u2 >>= fun count => readConstants count >>= g count) := by
  simp only [readTables, bind_assoc]
  refine follows_u2.bind fun count count' hcount => ?_
  subst hcount
  refine follows_get fun c hc => ?_
  rw [hc]
  have hempty : Describes ⟨∅, ∅, ∅, source⟩ ([] : List Constant).reverse := describes_empty source
  exact (follows_readEntries hempty rfl).bind fun t constants h => hf count t constants h.1 h.2

end Tables

end JvmDeps.ClassFile
