import JvmDeps.Proofs.Bytes.Accepting
import JvmDeps.Proofs.ClassFile.RoundTrip

set_option autoImplicit false

/-! # What is read is a class file

The converse of `RoundTrip`: whatever bytes the reader accepts, they are the written form of a
layout that can be read (`ClassFile.Readable`), with nothing left over, and the class that it gives
is the one that this layout declares.

Each part of the reader reads only written forms (`Parser.ReadsOnly`): constants, annotations with
values of any depth, attributes, members. `readsOnly_read` puts them together for the layout
(`Parsed`); what is checked after it, annotation bodies and the classes among the constants, comes
from `within_of_lastAnnotations` and `declares_of_declaration`. Together with the converse they make
`ofBytes_eq_ok_iff`.
-/

namespace JvmDeps.ClassFile

open JvmDeps.Parser

/-! ## Constants -/

theorem PlainKind.tag_of_ofTag? {t : UInt8} {kind : PlainKind} (h : ofTag? t = some kind) :
    kind.tag = t := by
  have := List.find?_some h
  simpa using this

theorem Constant.readsOnly_read (index : Nat) :
    (Constant.read index).ReadsOnly Constant.bytes Constant.WellFormed := by
  intro s c rest h
  rw [Constant.read, bind_apply_eq_ok_iff] at h
  obtain ⟨tag, mid, htag, h⟩ := h
  obtain rfl := eq_of_u1 htag
  split at h
  · rename_i htext
    simp only [bind_apply_eq_ok_iff] at h
    obtain ⟨size, mid, hsize, payload, mid', hpayload, h⟩ := h
    obtain rfl := eq_of_u2 hsize
    obtain ⟨rfl, hlength⟩ := eq_of_take hpayload
    cases hvalue : ModifiedUtf8.decode? payload with
    | none =>
        rw [hvalue] at h
        cases h
    | some value =>
        rw [hvalue] at h
        obtain ⟨rfl, rfl⟩ := pure_apply_eq_ok_iff.mp h
        refine ⟨?_, hlength ▸ size.toNat_lt, hvalue⟩
        rw [bytes, hlength, UInt16.ofNat_toNat, htext]
        simp
  · split at h
    · rename_i hclass
      simp only [bind_apply_eq_ok_iff, pure_apply_eq_ok_iff] at h
      obtain ⟨nameIndex, mid, hnameIndex, rfl, rfl⟩ := h
      obtain rfl := eq_of_u2 hnameIndex
      exact ⟨by rw [bytes, hclass]; rfl, trivial⟩
    · cases hkind : PlainKind.ofTag? tag with
      | none =>
          rw [hkind] at h
          cases h
      | some kind =>
          rw [hkind] at h
          simp only [bind_apply_eq_ok_iff, pure_apply_eq_ok_iff] at h
          obtain ⟨payload, mid, hpayload, rfl, rfl⟩ := h
          obtain ⟨rfl, hlength⟩ := eq_of_take hpayload
          exact ⟨by rw [bytes, PlainKind.tag_of_ofTag? hkind]; rfl, hlength⟩

/-- Constants that were read behind others stood there in their written form, and fill the slots
that were left. -/
theorem exists_of_readConstantsOnto {left index : Nat} {acc constants : List Constant}
    {s rest : Bytes} (h : readConstantsOnto left index false acc s = .ok (constants, rest)) :
    ∃ cs, constants = acc.reverse ++ cs ∧ s = cs.flatMap Constant.bytes ++ rest ∧
      (∀ c ∈ cs, c.WellFormed) ∧ Fills cs left := by
  -- a wide constant takes two slots at once, so the induction has to reach back by two
  induction left using Nat.strong_induction_on generalizing index acc s with
  | _ left ih =>
      cases left with
      | zero =>
          simp only [readConstantsOnto, Except.ok.injEq, Prod.mk.injEq] at h
          obtain ⟨rfl, rfl⟩ := h
          exact ⟨[], by simp, by simp, by simp, .nil⟩
      | succ left =>
          rw [readConstantsOnto] at h
          split at h
          · cases h
          · rename_i c mid hread
            obtain ⟨rfl, hc⟩ := Constant.readsOnly_read index hread
            cases hwide : c.isWide with
            | false =>
                rw [hwide] at h
                obtain ⟨cs, rfl, rfl, hcs, hfills⟩ := ih left (by omega) h
                refine ⟨c :: cs, by simp, by simp, ?_, .narrow hwide hfills⟩
                exact List.forall_mem_cons.mpr ⟨hc, hcs⟩
            | true =>
                rw [hwide] at h
                cases left with
                | zero =>
                    simp only [readConstantsOnto, Except.ok.injEq, Prod.mk.injEq] at h
                    obtain ⟨rfl, rfl⟩ := h
                    exact ⟨[c], by simp, by simp, by simpa using hc, .last hwide⟩
                | succ left =>
                    rw [readConstantsOnto] at h
                    obtain ⟨cs, rfl, rfl, hcs, hfills⟩ := ih left (by omega) h
                    refine ⟨c :: cs, by simp, by simp, ?_, .wide hwide hfills⟩
                    exact List.forall_mem_cons.mpr ⟨hc, hcs⟩

theorem readsOnly_readConstants (count : UInt16) :
    (readConstants count).ReadsOnly (List.flatMap Constant.bytes)
      fun cs => (∀ c ∈ cs, c.WellFormed) ∧ Fills cs (count.toNat - 1) := by
  intro s constants rest h
  obtain ⟨cs, rfl, rfl, hcs, hfills⟩ := exists_of_readConstantsOnto h
  exact ⟨rfl, hcs, hfills⟩

/-! ## Annotations -/

namespace ElementValue

theorem readsOnly_readPair {value : Parser Cause ElementValue} {P : ElementValue → Prop}
    (h : value.ReadsOnly bytes P) : (readPair value).ReadsOnly pairBytes fun p => P p.2 := by
  intro s p rest hs
  simp only [readPair, bind_apply_eq_ok_iff, pure_apply_eq_ok_iff] at hs
  obtain ⟨nameIndex, mid, hnameIndex, v, mid', hv, rfl, rfl⟩ := hs
  obtain rfl := eq_of_u2 hnameIndex
  obtain ⟨rfl, hP⟩ := h hv
  exact ⟨by simp [pairBytes], hP⟩

/-- **What is read is one value in its written form**, of no more levels than the depth. -/
theorem readsOnly_readWithin (depth : Nat) :
    (readWithin depth).ReadsOnly bytes fun v => v.WellFormed ∧ v.levels ≤ depth := by
  induction depth with
  | zero =>
      intro s v rest h
      cases h
  | succ depth ih =>
      intro s v rest h
      rw [readWithin] at h
      cases s with
      | nil => cases h
      | cons tag s =>
      rcases tag_cases tag with hconst | rfl | rfl | rfl | rfl | hother
      -- a value without values in it has one level, and the depth is not zero
      · simp only [level_const hconst, bind_apply_eq_ok_iff, pure_apply_eq_ok_iff] at h
        obtain ⟨index, mid, hindex, rfl, rfl⟩ := h
        obtain rfl := eq_of_u2 hindex
        exact ⟨rfl, hconst, Nat.succ_le_succ (Nat.zero_le depth)⟩
      · simp only [level_classInfo, bind_apply_eq_ok_iff, pure_apply_eq_ok_iff] at h
        obtain ⟨index, mid, hindex, rfl, rfl⟩ := h
        obtain rfl := eq_of_u2 hindex
        exact ⟨rfl, trivial, Nat.succ_le_succ (Nat.zero_le depth)⟩
      · simp only [level_enum, bind_apply_eq_ok_iff, pure_apply_eq_ok_iff] at h
        obtain ⟨typeIndex, mid, htype, nameIndex, mid', hname, rfl, rfl⟩ := h
        obtain rfl := eq_of_u2 htype
        obtain rfl := eq_of_u2 hname
        exact ⟨by simp [bytes], trivial, Nat.succ_le_succ (Nat.zero_le depth)⟩
      · simp only [level_nested, bind_apply_eq_ok_iff, pure_apply_eq_ok_iff] at h
        obtain ⟨typeIndex, mid, htype, pairs, mid', hpairs, rfl, rfl⟩ := h
        obtain rfl := eq_of_u2 htype
        obtain ⟨rfl, hfit, hall⟩ := (readsOnly_readPair ih).counted hpairs
        refine ⟨by simp [bytes_nested],
          ⟨hfit, pairsWellFormed_iff.mpr fun p hp => (hall p hp).1⟩, ?_⟩
        exact Nat.succ_le_succ (levelsOfPairs_le_iff.mpr fun p hp => (hall p hp).2)
      · simp only [level_array, bind_apply_eq_ok_iff, pure_apply_eq_ok_iff] at h
        obtain ⟨values, mid, hvalues, rfl, rfl⟩ := h
        obtain ⟨rfl, hfit, hall⟩ := ih.counted hvalues
        refine ⟨by simp [bytes_array],
          ⟨hfit, valuesWellFormed_iff.mpr fun v hv => (hall v hv).1⟩, ?_⟩
        exact Nat.succ_le_succ (levelsOfValues_le_iff.mpr fun v hv => (hall v hv).2)
      · rw [hother] at h
        cases h

end ElementValue

section
variable {constants : List Constant} {depth : Nat}

theorem AnnotationEntry.readsOnly_read :
    (AnnotationEntry.read depth (.ofConstants constants)).ReadsOnly AnnotationEntry.bytes
      fun a => (a.WellFormed ∧ ∃ type, TextAt constants a.typeIndex type) ∧ a.levels ≤ depth := by
  intro s a rest h
  simp only [AnnotationEntry.read, bind_apply_eq_ok_iff, ofExcept_apply_eq_ok_iff,
    pure_apply_eq_ok_iff, Pool.text_eq_ok_iff] at h
  obtain ⟨typeIndex, mid, htype, type, mid', ⟨htext, rfl⟩, pairs, mid'', hpairs, rfl, rfl⟩ := h
  obtain rfl := eq_of_u2 htype
  obtain ⟨rfl, hfit, hall⟩ :=
    (ElementValue.readsOnly_readPair (ElementValue.readsOnly_readWithin depth)).counted hpairs
  have hwf := ElementValue.pairsWellFormed_iff.mpr fun p hp => (hall p hp).1
  have hlevels := ElementValue.levelsOfPairs_le_iff.mpr fun p hp => (hall p hp).2
  refine ⟨?_, ⟨⟨hfit, hwf⟩, type, htext⟩, hlevels⟩
  rw [AnnotationEntry.bytes_eq, List.append_assoc]

/-- The body of an attribute from which annotation types were read lists annotations, all of them
within the depth. -/
theorem exists_lists_of_annotationTypes {a : Attribute} {types : List String}
    (h : annotationTypes depth (.ofConstants constants) a.body = .ok types) :
    ∃ entries, a.Lists constants entries ∧ ∀ e ∈ entries, e.levels ≤ depth := by
  simp only [annotationTypes, bind_eq_ok_iff, runFrom, mapError_eq_ok_iff] at h
  obtain ⟨⟨entries, rest⟩, hread, h⟩ := h
  obtain ⟨hbody, hcount, hall⟩ := AnnotationEntry.readsOnly_read.counted hread
  split at h
  · rename_i hempty
    obtain rfl := List.isEmpty_iff.mp hempty
    rw [List.append_nil] at hbody
    exact ⟨entries, ⟨hbody, hcount, fun e he => (hall e he).1.1, fun e he => (hall e he).1.2⟩,
      fun e he => (hall e he).2⟩
  · cases h

/-- If the annotation types of a class were found, every attribute that holds annotations lists
some, all of them within the depth. -/
theorem within_of_lastAnnotations {attributes : List Attribute}
    {last annotations : Option (List String)}
    (h : lastAnnotations depth (.ofConstants constants) last attributes = .ok annotations) :
    AnnotationsWithin depth constants attributes := by
  induction attributes generalizing last with
  | nil => simp [AnnotationsWithin]
  | cons a attributes ih =>
      rw [lastAnnotations] at h
      split at h
      · obtain ⟨types, htypes, hrest⟩ := bind_eq_ok_iff.mp h
        exact List.forall_mem_cons.mpr
          ⟨fun _ => exists_lists_of_annotationTypes htypes, ih hrest⟩
      · rename_i hnot
        refine List.forall_mem_cons.mpr ⟨fun hholds => ?_, ih h⟩
        exact absurd (Attribute.isAnnotations_iff.mpr hholds) hnot

/-! ## Attributes, members and indexes -/

theorem Attribute.readsOnly_read :
    (Attribute.read (.ofConstants constants)).ReadsOnly Attribute.bytes
      (Attribute.WellLaid constants) := by
  intro s a rest h
  simp only [Attribute.read, bind_apply_eq_ok_iff, ofExcept_apply_eq_ok_iff, pure_apply_eq_ok_iff,
    Pool.text_eq_ok_iff] at h
  obtain ⟨nameIndex, mid, hnameIndex, name, mid', ⟨hname, rfl⟩, size, mid'', hsize, body, mid''',
    hbody, rfl, rfl⟩ := h
  obtain rfl := eq_of_u2 hnameIndex
  obtain rfl := eq_of_u4 hsize
  obtain ⟨rfl, hlength⟩ := eq_of_take hbody
  refine ⟨?_, ⟨name, hname⟩, hlength ▸ size.toNat_lt⟩
  rw [Attribute.bytes, hlength, UInt32.ofNat_toNat]
  simp

theorem Member.readsOnly_read :
    (Member.read (.ofConstants constants)).ReadsOnly Member.bytes
      (Member.WellLaid constants) := by
  intro s m rest h
  simp only [Member.read, bind_apply_eq_ok_iff, ofExcept_apply_eq_ok_iff, pure_apply_eq_ok_iff,
    Pool.text_eq_ok_iff] at h
  obtain ⟨flags, mid₁, hflags, nameIndex, mid₂, hnameIndex, name, mid₃, ⟨hname, rfl⟩,
    descriptorIndex, mid₄, hdescriptorIndex, descriptor, mid₅, ⟨hdescriptor, rfl⟩, attributes,
    mid₆, hattributes, rfl, rfl⟩ := h
  obtain rfl := eq_of_u2 hflags
  obtain rfl := eq_of_u2 hnameIndex
  obtain rfl := eq_of_u2 hdescriptorIndex
  obtain ⟨rfl, hwellLaid⟩ := Attribute.readsOnly_read.counted hattributes
  exact ⟨by simp [Member.bytes], ⟨name, hname⟩, ⟨descriptor, hdescriptor⟩, hwellLaid⟩

theorem readsOnly_readClassIndex :
    (readClassIndex (.ofConstants constants)).ReadsOnly bytes2
      fun index => ∃ name, ClassAt constants index name := by
  intro s index rest h
  simp only [readClassIndex, bind_apply_eq_ok_iff, ofExcept_apply_eq_ok_iff, pure_apply_eq_ok_iff,
    Pool.className_eq_ok_iff] at h
  obtain ⟨index', mid, hindex, name, mid', ⟨hname, rfl⟩, rfl, rfl⟩ := h
  exact ⟨eq_of_u2 hindex, name, hname⟩

theorem readsOnly_readClassIndex? :
    (readClassIndex? (.ofConstants constants)).ReadsOnly bytes2
      fun index => index = 0 ∨ ∃ name, ClassAt constants index name := by
  intro s index rest h
  rw [readClassIndex?, bind_apply_eq_ok_iff] at h
  obtain ⟨index', mid, hindex, h⟩ := h
  obtain rfl := eq_of_u2 hindex
  split at h
  · rename_i hzero
    obtain ⟨rfl, rfl⟩ := pure_apply_eq_ok_iff.mp h
    exact ⟨rfl, Or.inl hzero⟩
  · simp only [bind_apply_eq_ok_iff, ofExcept_apply_eq_ok_iff, pure_apply_eq_ok_iff,
      Pool.className_eq_ok_iff] at h
    obtain ⟨name, mid', ⟨hname, rfl⟩, rfl, rfl⟩ := h
    exact ⟨rfl, Or.inr ⟨name, hname⟩⟩

end

/-! ## The layout -/

/-- What has been checked when the layout has been read, before annotation bodies and the classes
among the constants are looked at. -/
structure Parsed (f : ClassFile) : Prop where
  constants : ∀ c ∈ f.constants, c.WellFormed
  filled : Fills f.constants (f.slotCount.toNat - 1)
  thisClass : ∃ name, ClassAt f.constants f.thisIndex name
  superClass : f.superIndex = 0 ∨ ∃ name, ClassAt f.constants f.superIndex name
  interfaceCount : f.interfaceIndexes.length < 65536
  interfaces : ∀ index ∈ f.interfaceIndexes, ∃ name, ClassAt f.constants index name
  fields : MembersWellLaid f.constants f.fields
  methods : MembersWellLaid f.constants f.methods
  attributes : AttributesWellLaid f.constants f.attributes

/-- **A layout that was read stood there in its written form.** -/
theorem readsOnly_read : ClassFile.read.ReadsOnly ClassFile.bytes Parsed := by
  intro s f rest h
  rw [read, bind_apply_eq_ok_iff] at h
  obtain ⟨start, mid, hstart, h⟩ := h
  obtain rfl := eq_of_u4 hstart
  split at h
  · cases h
  rename_i hmagic
  obtain rfl : start = magic := not_not.mp hmagic
  simp only [bind_apply_eq_ok_iff, pure_apply_eq_ok_iff] at h
  obtain ⟨minorVersion, mid₁, hminor, majorVersion, mid₂, hmajor, slotCount, mid₃, hslotCount,
    constants, mid₄, hconstants, flags, mid₅, hflags, thisIndex, mid₆, hthis, superIndex, mid₇,
    hsuper, interfaceIndexes, mid₈, hinterfaces, fields, mid₉, hfields, methods, mid₁₀, hmethods,
    attributes, mid₁₁, hattributes, rfl, rfl⟩ := h
  -- part by part, in the order of the layout
  obtain rfl := eq_of_u2 hminor
  obtain rfl := eq_of_u2 hmajor
  obtain rfl := eq_of_u2 hslotCount
  obtain ⟨rfl, hwellFormed, hfilled⟩ := readsOnly_readConstants slotCount hconstants
  obtain rfl := eq_of_u2 hflags
  obtain ⟨rfl, hthisClass⟩ := readsOnly_readClassIndex hthis
  obtain ⟨rfl, hsuperClass⟩ := readsOnly_readClassIndex? hsuper
  obtain ⟨rfl, hinterfaceCount, hinterfaceClasses⟩ := readsOnly_readClassIndex.counted hinterfaces
  obtain ⟨rfl, hfieldsLaid⟩ := Member.readsOnly_read.counted hfields
  obtain ⟨rfl, hmethodsLaid⟩ := Member.readsOnly_read.counted hmethods
  obtain ⟨rfl, hattributesLaid⟩ := Attribute.readsOnly_read.counted hattributes
  refine ⟨?_, hwellFormed, hfilled, hthisClass, hsuperClass, hinterfaceCount, hinterfaceClasses,
    hfieldsLaid, hmethodsLaid, hattributesLaid⟩
  simp [bytes]

theorem ClassAt.standsAt {constants : List Constant} {index : UInt16}
    (h : ∃ name, ClassAt constants index name) :
    ∃ nameIndex, StandsAt constants index (.classRef nameIndex) := by
  obtain ⟨name, nameIndex, hstands, -⟩ := h
  exact ⟨nameIndex, hstands⟩

/-- A layout that was read can be read, if its classes have names and its annotations are listed. -/
theorem Parsed.readable {f : ClassFile} (h : f.Parsed)
    (hclasses : ∀ nameIndex, .classRef nameIndex ∈ f.constants →
      ∃ name, TextAt f.constants nameIndex name)
    (hannotations : AnnotationsListed f.constants f.attributes) : f.Readable where
  constants := h.constants
  slotCount := by
    -- there is a constant, since the class itself is one
    obtain ⟨nameIndex, hstands⟩ := ClassAt.standsAt h.thisClass
    exact h.filled.slotsDeclared (List.ne_nil_of_mem hstands.mem)
  classes := hclasses
  thisClass := ClassAt.standsAt h.thisClass
  superClass := h.superClass.imp id ClassAt.standsAt
  interfaceCount := h.interfaceCount
  interfaces := fun index hindex => ClassAt.standsAt (h.interfaces index hindex)
  fields := h.fields
  methods := h.methods
  attributes := h.attributes
  annotations := hannotations

/-! ## The declaration -/

/-- A declaration that passes the checks is given as it is. -/
theorem check_mapError_eq_ok_iff {d e : ClassDecl} :
    d.check.mapError Cause.badDeclaration = .ok e ↔ d = e ∧ d.Sound := by
  rw [mapError_eq_ok_iff]
  constructor
  · intro h
    have heq : d = e := by
      unfold ClassDecl.check at h
      split at h
      · cases h
      · exact Except.ok.inj h
    subst heq
    exact ⟨rfl, ClassDecl.check_eq_ok_iff.mp h⟩
  · rintro ⟨rfl, hsound⟩
    exact ClassDecl.check_eq_ok_iff.mpr hsound

/-- A class that was looked up is the one that the layout declares, and has no defect. -/
theorem declares_of_declaration {f : ClassFile} {annotations : Option (List String)} {d : ClassDecl}
    (hannotated : AnnotatedWith f.constants f.attributes annotations)
    (h : f.declaration annotations = .ok d) : f.Declares d ∧ d.Sound := by
  have hinterfaces : ∀ names,
      Pool.collect (Pool.ofConstants f.constants).className f.interfaceIndexes = .ok names ↔
        List.Forall₂ (ClassAt f.constants) f.interfaceIndexes names :=
    fun _ => Pool.collect_eq_ok_iff fun _ _ => Pool.className_eq_ok_iff
  have hfields : ∀ fields,
      Pool.collect (Member.field (.ofConstants f.constants)) f.fields = .ok fields ↔
        List.Forall₂ (fun m fd => m.Declares f.constants fd.name fd.descriptor fd.flags)
          f.fields fields :=
    fun _ => Pool.collect_eq_ok_iff fun _ _ => Member.field_eq_ok_iff
  have hmethods : ∀ methods,
      Pool.collect (Member.method (.ofConstants f.constants)) f.methods = .ok methods ↔
        List.Forall₂ (fun m md => m.Declares f.constants md.name md.descriptor md.flags)
          f.methods methods :=
    fun _ => Pool.collect_eq_ok_iff fun _ _ => Member.method_eq_ok_iff
  simp only [declaration, pool, ite_bind, bind_eq_ok_iff, Pool.className_eq_ok_iff,
    superName_eq_ok_iff, hinterfaces, hfields, hmethods, classNames_eq_ok_iff,
    check_mapError_eq_ok_iff] at h
  obtain ⟨name, hname, superName, hsuperName, interfaces, hinterfaces, fields, hfields, methods,
    hmethods, references, hreferences, rfl, hsound⟩ := h
  exact ⟨⟨rfl, rfl, rfl, hname, hsuperName, hinterfaces, hfields, hmethods, hannotated,
    hreferences⟩,
    hsound⟩

/-- The classes of a layout that declares something have names. -/
theorem Declares.exists_textAt {f : ClassFile} {d : ClassDecl} (h : f.Declares d) :
    ∀ nameIndex, .classRef nameIndex ∈ f.constants → ∃ name, TextAt f.constants nameIndex name := by
  intro nameIndex hmem
  obtain ⟨names, hnames, -⟩ := h.references
  obtain ⟨name, -, hname⟩ :=
    exists_right_of_forall₂ hnames (mem_filterMap_nameIndex?.mpr hmem)
  exact ⟨name, hname⟩

/-- What a class that was read comes from: a layout without anything behind it, whose annotations
and declaration were then looked up. -/
theorem readDecl_eq_ok_iff {depth : Nat} {b : Bytes} {d : ClassDecl} :
    readDecl depth b = .ok d ↔ ∃ f annotations, ClassFile.read b = .ok (f, []) ∧
      lastAnnotations depth f.pool none f.attributes = .ok annotations ∧
      f.declaration annotations = .ok d := by
  simp only [readDecl, bind_eq_ok_iff, runFrom, mapError_eq_ok_iff]
  constructor
  · rintro ⟨⟨f, rest⟩, hread, annotations, hannotations, h⟩
    split at h
    · rename_i hempty
      obtain rfl : rest = [] := List.isEmpty_iff.mp hempty
      exact ⟨f, annotations, hread, hannotations, mapError_eq_ok_iff.mp h⟩
    · cases h
  · rintro ⟨f, annotations, hread, hannotations, h⟩
    exact ⟨(f, []), hread, annotations, hannotations, mapError_eq_ok_iff.mpr h⟩

/-- Bytes from which a class was read are the written form of a readable layout that declares it,
with values that are within the depth. -/
theorem exists_readable_of_readDecl {depth : Nat} {b : Bytes} {d : ClassDecl}
    (h : readDecl depth b = .ok d) :
    ∃ f : ClassFile, b = f.bytes ∧ f.Readable ∧ f.NestedWithin depth ∧ f.Declares d ∧ d.Sound := by
  obtain ⟨f, annotations, hread, hannotations, hdeclaration⟩ := readDecl_eq_ok_iff.mp h
  obtain ⟨hbytes, hparsed⟩ := readsOnly_read hread
  rw [List.append_nil] at hbytes
  have hwithin : AnnotationsWithin depth f.constants f.attributes :=
    within_of_lastAnnotations hannotations
  -- the annotations that were found are those that the layout has
  have hannotated : AnnotatedWith f.constants f.attributes annotations := by
    obtain ⟨annotations', hannotated⟩ := exists_annotatedWith hwithin.listed
    have heq : annotations' = annotations :=
      Except.ok.inj ((lastAnnotations_eq hwithin hannotated).symm.trans hannotations)
    rw [← heq]
    exact hannotated
  obtain ⟨hdeclares, hsound⟩ := declares_of_declaration hannotated hdeclaration
  exact ⟨f, hbytes, hparsed.readable hdeclares.exists_textAt hwithin.listed, hwithin, hdeclares,
    hsound⟩

/-- **The reader accepts class files and nothing else.** It gives a class exactly for the bytes of a
layout that can be read, nothing left over and no value deeper than it can go, and then the one
class that this layout declares, which has no defect. -/
theorem ofBytes_eq_ok_iff {depth : Nat} {source : String} {b : Bytes} {d : ClassDecl} :
    ClassDecl.ofBytes depth source b = .ok d ↔
      ∃ f : ClassFile, b = f.bytes ∧ f.Readable ∧ f.NestedWithin depth ∧
        (∀ e, f.Declares e ↔ e = d) ∧ d.Sound := by
  rw [ClassDecl.ofBytes, mapError_eq_ok_iff]
  constructor
  · intro h
    obtain ⟨f, hbytes, hreadable, hwithin, hdeclares, hsound⟩ := exists_readable_of_readDecl h
    refine ⟨f, hbytes, hreadable, hwithin, fun e => ⟨fun he => ?_, fun he => ?_⟩, hsound⟩
    · exact he.eq_of_listed hreadable.annotations hdeclares
    · rw [he]
      exact hdeclares
  · rintro ⟨f, rfl, hreadable, hwithin, honly, hsound⟩
    have hdeclares : f.Declares d := (honly d).mpr rfl
    rw [hdeclares.readDecl_bytes hreadable hwithin, ClassDecl.check_eq_ok_iff.mpr hsound]
    rfl

end JvmDeps.ClassFile
