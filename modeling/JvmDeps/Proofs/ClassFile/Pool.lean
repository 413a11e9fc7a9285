import JvmDeps.Proofs.Bytes.Reading
import JvmDeps.Proofs.Data.Outcome
import Mathlib.Data.List.Forall2

set_option autoImplicit false

/-! # Slots of the constant pool

Which constant an index means is told without slots: `StandsAt constants index c` says that `c` is a
member of the row of constants and that `index` is one more than the width of the constants before
it, where long and double constants are two wide. `TextAt` and `ClassAt` say what an index means as
a text and as a class. The look-ups in a `Pool` find exactly this (`get?_eq_some_iff`,
`text_eq_ok_iff`, `className_eq_ok_iff`), and written constants are read back as they are
(`reads_readConstants`).
-/

namespace JvmDeps.ClassFile

open JvmDeps.Parser

/-! ## Indexes -/

/-- The number of slots that a constant takes. -/
def Constant.width (c : Constant) : Nat := if c.isWide then 2 else 1

/-- The number of slots that a row of constants takes. -/
def width : List Constant → Nat
  | [] => 0
  | c :: constants => c.width + width constants

/-- The index means this constant. -/
def StandsAt (constants : List Constant) (index : UInt16) (c : Constant) : Prop :=
  ∃ before after, constants = before ++ c :: after ∧ index.toNat = 1 + width before

/-- The index means this text. -/
def TextAt (constants : List Constant) (index : UInt16) (text : String) : Prop :=
  ∃ payload, StandsAt constants index (.text payload text)

/-- The index means the class of this name. -/
def ClassAt (constants : List Constant) (index : UInt16) (name : String) : Prop :=
  ∃ nameIndex, StandsAt constants index (.classRef nameIndex) ∧ TextAt constants nameIndex name

@[simp] theorem width_nil : width [] = 0 := rfl

@[simp] theorem width_cons (c : Constant) (constants : List Constant) :
    width (c :: constants) = c.width + width constants := rfl

theorem Constant.length_slots (c : Constant) : c.slots.length = c.width := by
  rw [slots, width]
  cases c.isWide <;> rfl

theorem StandsAt.ne_zero {constants : List Constant} {index : UInt16} {c : Constant}
    (h : StandsAt constants index c) : index ≠ 0 := by
  obtain ⟨before, after, -, hindex⟩ := h
  rintro rfl
  rw [UInt16.toNat_zero] at hindex
  omega

theorem StandsAt.mem {constants : List Constant} {index : UInt16} {c : Constant}
    (h : StandsAt constants index c) : c ∈ constants := by
  obtain ⟨before, after, rfl, -⟩ := h
  simp

/-! ## Look-ups -/

namespace Pool

/-- The first constant, or one behind it. -/
theorem exists_split_cons_iff {d c : Constant} {ds : List Constant} {k : Nat} :
    (∃ before after, d :: ds = before ++ c :: after ∧ k = width before) ↔
      (d = c ∧ k = 0) ∨
        ∃ before after, ds = before ++ c :: after ∧ k = d.width + width before := by
  constructor
  · rintro ⟨before, after, hsplit, rfl⟩
    cases before with
    | nil =>
        obtain ⟨rfl, rfl⟩ := List.cons.inj hsplit
        exact Or.inl ⟨rfl, rfl⟩
    | cons b bs =>
        obtain ⟨rfl, hds⟩ := List.cons.inj hsplit
        exact Or.inr ⟨bs, after, hds, rfl⟩
  · rintro (⟨rfl, rfl⟩ | ⟨before, after, rfl, rfl⟩)
    · exact ⟨[], ds, rfl, rfl⟩
    · exact ⟨d :: before, after, rfl, rfl⟩

/-- Of the slots of a constant the first holds it. -/
theorem getElem?_slots_eq_some_iff {d c : Constant} {k : Nat} (hk : k < d.width) :
    d.slots[k]?.join = some c ↔ d = c ∧ k = 0 := by
  rw [Constant.width] at hk
  rw [Constant.slots]
  cases hwide : d.isWide with
  | false =>
      have hzero : k = 0 := by simpa [hwide] using hk
      simp [hzero]
  | true =>
      have hlt : k < 2 := by simpa [hwide] using hk
      rcases Nat.lt_succ_iff_lt_or_eq.mp hlt with hzero | rfl
      · simp [Nat.lt_one_iff.mp hzero]
      · simp

/-- The slot at a distance from the first holds the constant that so many slots precede. -/
theorem getElem?_flatMap_slots_eq_some_iff {constants : List Constant} {k : Nat} {c : Constant} :
    (constants.flatMap Constant.slots)[k]?.join = some c ↔
      ∃ before after, constants = before ++ c :: after ∧ k = width before := by
  induction constants generalizing k with
  | nil => simp
  | cons d ds ih =>
      rw [List.flatMap_cons, exists_split_cons_iff]
      -- the slot is one of the first constant's, or one behind them
      by_cases hk : k < d.width
      · rw [List.getElem?_append_left (by rwa [d.length_slots]), getElem?_slots_eq_some_iff hk]
        constructor
        · exact Or.inl
        · rintro (hfirst | ⟨before, after, -, rfl⟩)
          · exact hfirst
          · omega
      · rw [List.getElem?_append_right (by rw [d.length_slots]; omega), d.length_slots, ih]
        have hpos : 0 < d.width := by
          rw [Constant.width]
          split <;> omega
        constructor
        · rintro ⟨before, after, hds, hwidth⟩
          exact Or.inr ⟨before, after, hds, by omega⟩
        · rintro (⟨-, rfl⟩ | ⟨before, after, hds, hwidth⟩)
          · omega
          · exact ⟨before, after, hds, by omega⟩

/-- The slot of an index, slot 0 included, holds the constant that one slot less precedes. -/
theorem getElem?_row_eq_some_iff {constants : List Constant} {index : Nat} {c : Constant} :
    (none :: constants.flatMap Constant.slots)[index]?.join = some c ↔
      ∃ before after, constants = before ++ c :: after ∧ index = 1 + width before := by
  cases index with
  | zero =>
      -- slot 0 holds nothing, and no constant stands there
      simp only [List.getElem?_cons_zero, Option.join_some, reduceCtorEq, false_iff, not_exists]
      rintro before after ⟨-, hwidth⟩
      omega
  | succ k =>
      rw [List.getElem?_cons_succ, getElem?_flatMap_slots_eq_some_iff]
      constructor
      · rintro ⟨before, after, hsplit, rfl⟩
        exact ⟨before, after, hsplit, by omega⟩
      · rintro ⟨before, after, hsplit, hwidth⟩
        exact ⟨before, after, hsplit, by omega⟩

/-- **A look-up finds the constant that the index means.** -/
theorem get?_eq_some_iff {constants : List Constant} {index : UInt16} {c : Constant} :
    (ofConstants constants).get? index = some c ↔ StandsAt constants index c := by
  have hslot : (ofConstants constants).get? index
      = (none :: constants.flatMap Constant.slots)[index.toNat]?.join := by
    simp [get?, ofConstants]
  rw [hslot, StandsAt]
  exact getElem?_row_eq_some_iff

theorem text_eq_ok_iff {constants : List Constant} {index : UInt16} {text : String} :
    (ofConstants constants).text index = .ok text ↔ TextAt constants index text := by
  simp only [TextAt, ← get?_eq_some_iff, Pool.text]
  cases (ofConstants constants).get? index with
  | none => simp
  | some c =>
      cases c with
      | text payload value => simp [eq_comm]
      | classRef nameIndex => simp
      | plain kind payload => simp

/-- An index means one text at most. -/
theorem textAt_unique {constants : List Constant} {index : UInt16} {s t : String}
    (hs : TextAt constants index s) (ht : TextAt constants index t) : s = t :=
  eq_of_eq_ok_iff (fun _ => text_eq_ok_iff) hs ht

theorem className_eq_ok_iff {constants : List Constant} {index : UInt16} {name : String} :
    (ofConstants constants).className index = .ok name ↔ ClassAt constants index name := by
  simp only [ClassAt, ← get?_eq_some_iff, ← text_eq_ok_iff, Pool.className]
  cases (ofConstants constants).get? index with
  | none => simp
  | some c =>
      cases c with
      | text payload value => simp
      | classRef nameIndex => simp
      | plain kind payload => simp

/-- Look-ups over a list find, in order, what each of them finds. -/
theorem collect_eq_ok_iff {α β : Type} {f : α → Except Cause β} {R : α → β → Prop}
    (hf : ∀ a b, f a = .ok b ↔ R a b) {as : List α} {bs : List β} :
    collect f as = .ok bs ↔ List.Forall₂ R as bs := by
  induction as generalizing bs with
  | nil => simp [collect, eq_comm]
  | cons a as ih =>
      simp only [collect, bind_eq_ok_iff, pure_eq_ok_iff, hf, ih]
      rw [List.forall₂_cons_left_iff]
      constructor
      · rintro ⟨b, hb, bs', hbs', rfl⟩
        exact ⟨b, bs', hb, hbs', rfl⟩
      · rintro ⟨b, bs', hb, hbs', rfl⟩
        exact ⟨b, hb, bs', hbs', rfl⟩

end Pool

/-! ## Reading -/

/-- A written constant is read back. -/
theorem Constant.reads_read {c : Constant} (h : c.WellFormed) (index : Nat) :
    (Constant.read index).Reads c.bytes c := by
  intro rest
  rw [Constant.read]
  cases c with
  | text payload value =>
      obtain ⟨hfit, hvalue⟩ := h
      show (u1 >>= _) ([textTag] ++ (bytes2 (UInt16.ofNat payload.length) ++ payload ++ rest)) = _
      rw [(reads_u1 _).bind_apply, if_pos rfl, List.append_assoc, (reads_u2 _).bind_apply,
        UInt16.toNat_ofNat_of_lt' hfit, (reads_take rfl).bind_apply, hvalue]
      rfl
  | classRef nameIndex =>
      show (u1 >>= _) ([classTag] ++ (bytes2 nameIndex ++ rest)) = _
      rw [(reads_u1 _).bind_apply, if_neg (by decide), if_pos rfl, (reads_u2 _).bind_apply,
        pure_apply]
  | plain kind payload =>
      show (u1 >>= _) ([kind.tag] ++ (payload ++ rest)) = _
      have htext : kind.tag ≠ textTag := by cases kind <;> decide
      have hclass : kind.tag ≠ classTag := by cases kind <;> decide
      rw [(reads_u1 _).bind_apply, if_neg htext, if_neg hclass, PlainKind.ofTag?_tag]
      show (take kind.size >>= _) (payload ++ rest) = _
      rw [(reads_take h).bind_apply, pure_apply]

/-- The constants fill so many slots. The second slot of a wide constant at the end may be missing,
since the reader does not look at it. -/
inductive Fills : List Constant → Nat → Prop
  | nil : Fills [] 0
  | narrow {c : Constant} {cs : List Constant} {slots : Nat} (hwide : c.isWide = false)
      (hrest : Fills cs slots) : Fills (c :: cs) (slots + 1)
  | wide {c : Constant} {cs : List Constant} {slots : Nat} (hwide : c.isWide = true)
      (hrest : Fills cs slots) : Fills (c :: cs) (slots + 2)
  | last {c : Constant} (hwide : c.isWide = true) : Fills [c] 1

/-- The last of the constants is wide. -/
def EndsWide (constants : List Constant) : Prop :=
  ∃ front c, constants = front ++ [c] ∧ c.isWide = true

theorem Constant.width_of_narrow {c : Constant} (h : c.isWide = false) : c.width = 1 := by
  simp [width, h]

theorem Constant.width_of_wide {c : Constant} (h : c.isWide = true) : c.width = 2 := by
  simp [width, h]

theorem EndsWide.cons {cs : List Constant} (h : EndsWide cs) (c : Constant) :
    EndsWide (c :: cs) := by
  obtain ⟨front, d, rfl, hwide⟩ := h
  exact ⟨c :: front, d, rfl, hwide⟩

theorem fills_width (constants : List Constant) : Fills constants (width constants) := by
  induction constants with
  | nil => exact .nil
  | cons c cs ih =>
      rw [width_cons]
      cases hwide : c.isWide with
      | false =>
          rw [Constant.width_of_narrow hwide, Nat.add_comm]
          exact .narrow hwide ih
      | true =>
          rw [Constant.width_of_wide hwide, Nat.add_comm]
          exact .wide hwide ih

/-- Constants that end with a wide one also fill a slot less than their width. -/
theorem exists_fills_of_endsWide {constants : List Constant} (h : EndsWide constants) :
    ∃ slots, slots + 1 = width constants ∧ Fills constants slots := by
  obtain ⟨front, c, rfl, hlast⟩ := h
  induction front with
  | nil => exact ⟨1, by simp [Constant.width_of_wide hlast], .last hlast⟩
  | cons b front ih =>
      obtain ⟨slots, hslots, hfills⟩ := ih
      rw [List.cons_append, width_cons]
      cases hwide : b.isWide with
      | false =>
          rw [Constant.width_of_narrow hwide]
          exact ⟨slots + 1, by omega, .narrow hwide hfills⟩
      | true =>
          rw [Constant.width_of_wide hwide]
          exact ⟨slots + 2, by omega, .wide hwide hfills⟩

theorem Fills.eq_width {constants : List Constant} {slots : Nat} (h : Fills constants slots) :
    slots = width constants ∨ (slots + 1 = width constants ∧ EndsWide constants) := by
  induction h with
  | nil => exact Or.inl rfl
  | @narrow c cs slots hwide _ ih =>
      rw [width_cons, Constant.width_of_narrow hwide]
      rcases ih with heq | ⟨heq, hends⟩
      · exact Or.inl (by omega)
      · exact Or.inr ⟨by omega, hends.cons c⟩
  | @wide c cs slots hwide _ ih =>
      rw [width_cons, Constant.width_of_wide hwide]
      rcases ih with heq | ⟨heq, hends⟩
      · exact Or.inl (by omega)
      · exact Or.inr ⟨by omega, hends.cons c⟩
  | @last c hwide =>
      rw [width_cons, Constant.width_of_wide hwide]
      exact Or.inr ⟨rfl, [], c, rfl, hwide⟩

/-- The declared number of slots is that of slot 0 and of the constants, or one less if the last
constant is wide. -/
def SlotsDeclared (count : UInt16) (constants : List Constant) : Prop :=
  count.toNat = 1 + width constants ∨ (count.toNat = width constants ∧ EndsWide constants)

theorem SlotsDeclared.fills {count : UInt16} {constants : List Constant}
    (h : SlotsDeclared count constants) : Fills constants (count.toNat - 1) := by
  rcases h with hcount | ⟨hcount, hends⟩
  · rw [hcount, Nat.add_sub_cancel_left]
    exact fills_width constants
  · obtain ⟨slots, hslots, hfills⟩ := exists_fills_of_endsWide hends
    have hcount' : count.toNat - 1 = slots := by omega
    rw [hcount']
    exact hfills

theorem Fills.slotsDeclared {count : UInt16} {constants : List Constant}
    (h : Fills constants (count.toNat - 1)) (hne : constants ≠ []) :
    SlotsDeclared count constants := by
  have hpos : 0 < count.toNat - 1 := by
    generalize count.toNat - 1 = slots at h
    cases h with
    | nil => exact absurd rfl hne
    | narrow _ _ => omega
    | wide _ _ => omega
    | last _ => omega
  rcases h.eq_width with hwidth | ⟨hwidth, hends⟩
  · exact Or.inl (by omega)
  · exact Or.inr ⟨by omega, hends⟩

/-- Written constants are read back behind those that were read before. -/
theorem readConstantsOnto_bytes {constants : List Constant} {slots : Nat}
    (hfills : Fills constants slots) (h : ∀ c ∈ constants, c.WellFormed)
    (index : Nat) (acc : List Constant) (rest : Bytes) :
    readConstantsOnto slots index false acc (constants.flatMap Constant.bytes ++ rest)
      = .ok (acc.reverse ++ constants, rest) := by
  induction hfills generalizing index acc with
  | nil => simp [readConstantsOnto]
  | narrow hwide _ ih =>
      obtain ⟨hc, hcs⟩ := List.forall_mem_cons.mp h
      rw [List.flatMap_cons, List.append_assoc, readConstantsOnto, Constant.reads_read hc index]
      simp only [hwide]
      rw [ih hcs]
      simp
  | wide hwide _ ih =>
      -- the second slot is passed over without reading
      obtain ⟨hc, hcs⟩ := List.forall_mem_cons.mp h
      rw [List.flatMap_cons, List.append_assoc, readConstantsOnto, Constant.reads_read hc index]
      simp only [hwide]
      rw [readConstantsOnto, ih hcs]
      simp
  | last hwide =>
      obtain ⟨hc, -⟩ := List.forall_mem_cons.mp h
      rw [List.flatMap_cons, List.flatMap_nil, List.append_nil, readConstantsOnto,
        Constant.reads_read hc index]
      simp [readConstantsOnto]

/-- **Written constants are read back.** The count includes slot 0. -/
theorem reads_readConstants {constants : List Constant} {count : UInt16}
    (h : ∀ c ∈ constants, c.WellFormed) (hfills : Fills constants (count.toNat - 1)) :
    (readConstants count).Reads (constants.flatMap Constant.bytes) constants := by
  intro rest
  rw [readConstants, readConstantsOnto_bytes hfills h]
  rfl

end JvmDeps.ClassFile
