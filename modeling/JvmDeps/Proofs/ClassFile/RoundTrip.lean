import JvmDeps.ClassFile.Declaration
import JvmDeps.Proofs.Bytes.ModifiedUtf8
import JvmDeps.Proofs.ClassFile.Annotations
import JvmDeps.Proofs.Data.Paired

set_option autoImplicit false

/-! # Class files are read back

`ClassFile.WellLaid` says when a layout can be written at all: constants have the sizes of their
kinds, indexes mean constants of the right kind, and counts and sizes fit their fields.
`ClassFile.Declares f d` says, part by part and without the reader, which class the layout `f`
declares: every name is what its index means, members stand in their order, the annotations are
those of the last attribute that holds any, and the references are the names of the classes among
the constants, each once. `ClassFile.NestedWithin` bounds the levels of the values in annotations.

The layout is read back from its bytes (`reads_read`), its declaration is then looked up
(`readDecl_bytes`), and the two make `ofBytes_bytes`: reading gives the class that is declared, as
long as the values are within the depth of the reader. For others nothing is read, and
`ofBytes_bytes_deep` is a small class file of this kind.
-/

namespace JvmDeps

/-! ## Declarations without defect -/

namespace ClassDecl

/-- The declaration has no defect: every name is there, field descriptors are not empty, method
descriptors start with a parameter list, and no two methods have the same name and descriptor. -/
structure Sound (d : ClassDecl) : Prop where
  name : d.name ≠ ""
  fields : ∀ f ∈ d.fields, f.name ≠ "" ∧ f.descriptor ≠ ""
  methods : ∀ m ∈ d.methods, m.name ≠ "" ∧ m.descriptor.toList.head? = some '('
  keys : (d.methods.map MethodDecl.key).Nodup

theorem firstRepeat?_eq_none_iff {seen : List (String × String)} {ms : List MethodDecl} :
    firstRepeat? seen ms = none ↔
      (ms.map MethodDecl.key).Nodup ∧ ∀ m ∈ ms, m.key ∉ seen := by
  induction ms generalizing seen with
  | nil => simp [firstRepeat?]
  | cons m ms ih =>
      rw [firstRepeat?]
      by_cases hm : m.key ∈ seen
      · simp [hm]
      · rw [if_neg hm, ih, List.map_cons, List.nodup_cons]
        constructor
        · rintro ⟨hnodup, hseen⟩
          refine ⟨⟨?_, hnodup⟩, List.forall_mem_cons.mpr ⟨hm, ?_⟩⟩
          · intro hmem
            obtain ⟨m', hm', hkey⟩ := List.mem_map.mp hmem
            exact hseen m' hm' (List.mem_cons.mpr (Or.inl hkey))
          · intro m' hm' hmem
            exact hseen m' hm' (List.mem_cons_of_mem _ hmem)
        · rintro ⟨⟨hnot, hnodup⟩, hseen⟩
          refine ⟨hnodup, ?_⟩
          intro m' hm' hmem
          rcases List.mem_cons.mp hmem with hkey | hmem
          · exact hnot (List.mem_map.mpr ⟨m', hm', hkey⟩)
          · exact (List.forall_mem_cons.mp hseen).2 m' hm' hmem

theorem fieldDefect?_eq_none_iff {f : FieldDecl} :
    fieldDefect? f = none ↔ f.name ≠ "" ∧ f.descriptor ≠ "" := by
  rw [fieldDefect?]
  split <;> simp_all

theorem methodDefect?_eq_none_iff {m : MethodDecl} :
    methodDefect? m = none ↔ m.name ≠ "" ∧ m.descriptor.toList.head? = some '(' := by
  rw [methodDefect?]
  split <;> simp_all

theorem classDefect?_eq_none_iff {d : ClassDecl} :
    d.classDefect? = none ↔ d.name ≠ "" ∧ (d.methods.map MethodDecl.key).Nodup := by
  rw [classDefect?]
  split
  · simp_all
  · rename_i hname
    simp [firstRepeat?_eq_none_iff, hname]

/-- The checks pass exactly the declarations without defect. -/
theorem check_eq_ok_iff {d : ClassDecl} : d.check = .ok d ↔ d.Sound := by
  have hcheck : d.check = .ok d ↔ d.defect? = none := by
    rw [check]
    split <;> simp_all
  have hdefect : d.defect? = none ↔
      (∀ f ∈ d.fields, fieldDefect? f = none) ∧ (∀ m ∈ d.methods, methodDefect? m = none) ∧
        d.classDefect? = none := by
    simp [defect?, List.findSome?_eq_none_iff]
  rw [hcheck, hdefect]
  simp only [fieldDefect?_eq_none_iff, methodDefect?_eq_none_iff, classDefect?_eq_none_iff]
  constructor
  · rintro ⟨hfields, hmethods, hname, hkeys⟩
    exact ⟨hname, hfields, hmethods, hkeys⟩
  · rintro ⟨hname, hfields, hmethods, hkeys⟩
    exact ⟨hfields, hmethods, hname, hkeys⟩

end ClassDecl

namespace ClassFile

open JvmDeps.Parser

/-! ## Layouts that can be written -/

/-- The attribute can be written: its name is a text, and its size fits. -/
structure Attribute.WellLaid (constants : List Constant) (a : Attribute) : Prop where
  name : ∃ name, TextAt constants a.nameIndex name
  size : a.body.length < 4294967296

/-- The rows of a table of attributes can be written, and their number fits. -/
def AttributesWellLaid (constants : List Constant) (attributes : List Attribute) : Prop :=
  attributes.length < 65536 ∧ ∀ a ∈ attributes, a.WellLaid constants

/-- The member can be written: its name and descriptor are texts, and so are its attributes. -/
structure Member.WellLaid (constants : List Constant) (m : Member) : Prop where
  name : ∃ name, TextAt constants m.nameIndex name
  descriptor : ∃ descriptor, TextAt constants m.descriptorIndex descriptor
  attributes : AttributesWellLaid constants m.attributes

/-- The members of a table can be written, and their number fits. -/
def MembersWellLaid (constants : List Constant) (members : List Member) : Prop :=
  members.length < 65536 ∧ ∀ m ∈ members, m.WellLaid constants

/-- The attribute holds visible annotations. -/
def Attribute.HoldsAnnotations (constants : List Constant) (a : Attribute) : Prop :=
  TextAt constants a.nameIndex annotationsName

/-- The body of the attribute is this list of annotations, with values of any depth. -/
structure Attribute.Lists (constants : List Constant) (a : Attribute)
    (entries : List AnnotationEntry) : Prop where
  body : a.body = annotationBytes entries
  count : entries.length < 65536
  wellFormed : ∀ e ∈ entries, e.WellFormed
  types : ∀ e ∈ entries, ∃ type, TextAt constants e.typeIndex type

/-- Every attribute that holds annotations lists some. -/
def AnnotationsListed (constants : List Constant) (attributes : List Attribute) : Prop :=
  ∀ a ∈ attributes, a.HoldsAnnotations constants → ∃ entries, a.Lists constants entries

/-- Every attribute that holds annotations lists some, with values of at most `depth` levels. -/
def AnnotationsWithin (depth : Nat) (constants : List Constant) (attributes : List Attribute) :
    Prop :=
  ∀ a ∈ attributes, a.HoldsAnnotations constants →
    ∃ entries, a.Lists constants entries ∧ ∀ e ∈ entries, e.levels ≤ depth

/-- The values in the annotations of the layout have at most `depth` levels. -/
def NestedWithin (f : ClassFile) (depth : Nat) : Prop :=
  AnnotationsWithin depth f.constants f.attributes

/-- The layout can be written: constants have the sizes of their kinds and are as many as declared,
indexes mean constants of the right kind, and counts and sizes fit their fields. -/
structure WellLaid (f : ClassFile) : Prop where
  constants : ∀ c ∈ f.constants, c.WellFormed
  slotCount : f.slotCount.toNat = 1 + width f.constants
  classes : ∀ nameIndex, .classRef nameIndex ∈ f.constants →
    ∃ name, TextAt f.constants nameIndex name
  thisClass : ∃ nameIndex, StandsAt f.constants f.thisIndex (.classRef nameIndex)
  superClass : f.superIndex = 0 ∨
    ∃ nameIndex, StandsAt f.constants f.superIndex (.classRef nameIndex)
  interfaceCount : f.interfaceIndexes.length < 65536
  interfaces : ∀ index ∈ f.interfaceIndexes,
    ∃ nameIndex, StandsAt f.constants index (.classRef nameIndex)
  fields : MembersWellLaid f.constants f.fields
  methods : MembersWellLaid f.constants f.methods
  attributes : AttributesWellLaid f.constants f.attributes
  annotations : AnnotationsListed f.constants f.attributes

/-- The layout can be read: it is as one that can be written, but the declared number of slots need
not count the second slot of a wide constant at the end. -/
structure Readable (f : ClassFile) : Prop where
  constants : ∀ c ∈ f.constants, c.WellFormed
  slotCount : SlotsDeclared f.slotCount f.constants
  classes : ∀ nameIndex, .classRef nameIndex ∈ f.constants →
    ∃ name, TextAt f.constants nameIndex name
  thisClass : ∃ nameIndex, StandsAt f.constants f.thisIndex (.classRef nameIndex)
  superClass : f.superIndex = 0 ∨
    ∃ nameIndex, StandsAt f.constants f.superIndex (.classRef nameIndex)
  interfaceCount : f.interfaceIndexes.length < 65536
  interfaces : ∀ index ∈ f.interfaceIndexes,
    ∃ nameIndex, StandsAt f.constants index (.classRef nameIndex)
  fields : MembersWellLaid f.constants f.fields
  methods : MembersWellLaid f.constants f.methods
  attributes : AttributesWellLaid f.constants f.attributes
  annotations : AnnotationsListed f.constants f.attributes

theorem WellLaid.readable {f : ClassFile} (h : f.WellLaid) : f.Readable where
  constants := h.constants
  slotCount := Or.inl h.slotCount
  classes := h.classes
  thisClass := h.thisClass
  superClass := h.superClass
  interfaceCount := h.interfaceCount
  interfaces := h.interfaces
  fields := h.fields
  methods := h.methods
  attributes := h.attributes
  annotations := h.annotations

theorem Readable.exists_className {f : ClassFile} (h : f.Readable) {index : UInt16}
    (hindex : ∃ nameIndex, StandsAt f.constants index (.classRef nameIndex)) :
    ∃ name, ClassAt f.constants index name := by
  obtain ⟨nameIndex, hclass⟩ := hindex
  obtain ⟨name, htext⟩ := h.classes nameIndex hclass.mem
  exact ⟨name, nameIndex, hclass, htext⟩

/-! ## Reading the layout -/

section
variable {constants : List Constant}

/-- A written attribute is read back, whatever its body is. -/
theorem Attribute.reads_read {a : Attribute} (h : a.WellLaid constants) :
    (Attribute.read (.ofConstants constants)).Reads a.bytes a := by
  intro rest
  obtain ⟨name, hname⟩ := h.name
  have hsize : (UInt32.ofNat a.body.length).toNat = a.body.length :=
    UInt32.toNat_ofNat_of_lt' h.size
  rw [Attribute.read, Attribute.bytes, List.append_assoc, List.append_assoc,
    (reads_u2 _).bind_apply, bind_ofExcept_apply (Pool.text_eq_ok_iff.mpr hname),
    (reads_u4 _).bind_apply, (reads_take hsize.symm).bind_apply, pure_apply]

theorem reads_attributes {attributes : List Attribute}
    (h : AttributesWellLaid constants attributes) :
    (counted (Attribute.read (.ofConstants constants))).Reads
      (tableBytes Attribute.bytes attributes) attributes :=
  reads_counted h.1 fun a ha => Attribute.reads_read (h.2 a ha)

/-- A written member is read back. -/
theorem Member.reads_read {m : Member} (h : m.WellLaid constants) :
    (Member.read (.ofConstants constants)).Reads m.bytes m := by
  intro rest
  obtain ⟨name, hname⟩ := h.name
  obtain ⟨descriptor, hdescriptor⟩ := h.descriptor
  rw [Member.read, Member.bytes]
  simp only [List.append_assoc]
  rw [(reads_u2 _).bind_apply, (reads_u2 _).bind_apply,
    bind_ofExcept_apply (Pool.text_eq_ok_iff.mpr hname), (reads_u2 _).bind_apply,
    bind_ofExcept_apply (Pool.text_eq_ok_iff.mpr hdescriptor),
    (reads_attributes h.attributes).bind_apply, pure_apply]

theorem reads_members {members : List Member} (h : MembersWellLaid constants members) :
    (counted (Member.read (.ofConstants constants))).Reads
      (tableBytes Member.bytes members) members :=
  reads_counted h.1 fun m hm => Member.reads_read (h.2 m hm)

theorem reads_readClassIndex {index : UInt16} (h : ∃ name, ClassAt constants index name) :
    (readClassIndex (.ofConstants constants)).Reads (bytes2 index) index := by
  intro rest
  obtain ⟨name, hname⟩ := h
  rw [readClassIndex, (reads_u2 _).bind_apply,
    bind_ofExcept_apply (Pool.className_eq_ok_iff.mpr hname), pure_apply]

theorem reads_readClassIndex? {index : UInt16}
    (h : index = 0 ∨ ∃ name, ClassAt constants index name) :
    (readClassIndex? (.ofConstants constants)).Reads (bytes2 index) index := by
  intro rest
  rw [readClassIndex?, (reads_u2 _).bind_apply]
  by_cases hzero : index = 0
  · rw [if_pos hzero, pure_apply]
  · obtain ⟨name, hname⟩ := h.resolve_left hzero
    rw [if_neg hzero, bind_ofExcept_apply (Pool.className_eq_ok_iff.mpr hname), pure_apply]

end

/-- **A written class file is read back**, and nothing behind it is touched. -/
theorem reads_read {f : ClassFile} (h : f.Readable) : ClassFile.read.Reads f.bytes f := by
  intro rest
  have hsuper : f.superIndex = 0 ∨ ∃ name, ClassAt f.constants f.superIndex name :=
    h.superClass.imp id h.exists_className
  have hinterfaces : (counted (readClassIndex (.ofConstants f.constants))).Reads
      (tableBytes bytes2 f.interfaceIndexes) f.interfaceIndexes :=
    reads_counted h.interfaceCount fun index hindex =>
      reads_readClassIndex (h.exists_className (h.interfaces index hindex))
  rw [read, bytes]
  simp only [List.append_assoc]
  -- part by part, in the order of the layout
  rw [(reads_u4 _).bind_apply, if_neg (not_not.mpr rfl), (reads_u2 _).bind_apply,
    (reads_u2 _).bind_apply, (reads_u2 _).bind_apply,
    (reads_readConstants h.constants h.slotCount.fills).bind_apply, (reads_u2 _).bind_apply,
    (reads_readClassIndex (h.exists_className h.thisClass)).bind_apply,
    (reads_readClassIndex? hsuper).bind_apply, hinterfaces.bind_apply,
    (reads_members h.fields).bind_apply, (reads_members h.methods).bind_apply,
    (reads_attributes h.attributes).bind_apply, pure_apply]

/-! ## The class that a layout declares -/

/-- These are the types of the annotations of a class: there is none if no attribute holds
annotations, and else they are those that the last such attribute lists. -/
def AnnotatedWith (constants : List Constant) (attributes : List Attribute) :
    Option (List String) → Prop
  | none => ∀ a ∈ attributes, ¬ a.HoldsAnnotations constants
  | some types => ∃ before a after entries,
    attributes = before ++ a :: after ∧ a.HoldsAnnotations constants ∧
      (∀ b ∈ after, ¬ b.HoldsAnnotations constants) ∧ a.Lists constants entries ∧
      List.Forall₂ (fun e type => TextAt constants e.typeIndex type) entries types

/-- The member declares a field, or a method, of this name, descriptor and flags. -/
structure Member.Declares (constants : List Constant) (m : Member) (name descriptor : String)
    (flags : Int) : Prop where
  name : TextAt constants m.nameIndex name
  descriptor : TextAt constants m.descriptorIndex descriptor
  flags : flags = m.flags.toNat

/-- The index means this superclass, or none. -/
def SuperAt (constants : List Constant) (index : UInt16) : Option String → Prop
  | none => index = 0
  | some name => ClassAt constants index name

/-- The names of the classes among the constants, in the order of the constants. -/
def ClassesNamed (constants : List Constant) (names : List String) : Prop :=
  List.Forall₂ (TextAt constants) (constants.filterMap Pool.nameIndex?) names

/-- The layout declares this class. -/
structure Declares (f : ClassFile) (d : ClassDecl) : Prop where
  minorVersion : d.minorVersion = f.minorVersion.toNat
  majorVersion : d.majorVersion = f.majorVersion.toNat
  flags : d.flags = f.flags.toNat
  name : ClassAt f.constants f.thisIndex d.name
  superName : SuperAt f.constants f.superIndex d.superName
  interfaces : List.Forall₂ (ClassAt f.constants) f.interfaceIndexes d.interfaces
  fields : List.Forall₂
    (fun m fd => m.Declares f.constants fd.name fd.descriptor fd.flags) f.fields d.fields
  methods : List.Forall₂
    (fun m md => m.Declares f.constants md.name md.descriptor md.flags) f.methods d.methods
  annotations : AnnotatedWith f.constants f.attributes d.annotations
  references : ∃ names, ClassesNamed f.constants names ∧ d.references = names.eraseDups

/-! ## Looking up the declaration -/

section
variable {constants : List Constant}

theorem superName_eq_ok_iff {index : UInt16} {superName : Option String} :
    (if index = 0 then pure none else ((Pool.ofConstants constants).className index).map some)
      = .ok superName ↔ SuperAt constants index superName := by
  by_cases hzero : index = 0
  · rw [if_pos hzero]
    cases superName with
    | none => simp [SuperAt, hzero, pure, Except.pure]
    | some name =>
        have hnot : ¬ ClassAt constants index name := fun ⟨_, hclass, _⟩ => hclass.ne_zero hzero
        simp [SuperAt, hnot, pure, Except.pure]
  · rw [if_neg hzero]
    cases superName with
    | none => simp [SuperAt, hzero, map_eq_ok_iff]
    | some name => simp [SuperAt, map_eq_ok_iff, Pool.className_eq_ok_iff]

/-- What the two look-ups of a member find, whatever is made of it. -/
theorem Member.lookUp_eq_ok_iff {α : Type} {make : String → String → α} {m : Member} {a : α} :
    (do let name ← (Pool.ofConstants constants).text m.nameIndex
        let descriptor ← (Pool.ofConstants constants).text m.descriptorIndex
        return make name descriptor) = .ok a ↔
      ∃ name descriptor, TextAt constants m.nameIndex name ∧
        TextAt constants m.descriptorIndex descriptor ∧ make name descriptor = a := by
  simp only [bind_eq_ok_iff, pure_eq_ok_iff, Pool.text_eq_ok_iff]
  constructor
  · rintro ⟨name, hname, descriptor, hdescriptor, hmake⟩
    exact ⟨name, descriptor, hname, hdescriptor, hmake⟩
  · rintro ⟨name, descriptor, hname, hdescriptor, hmake⟩
    exact ⟨name, hname, descriptor, hdescriptor, hmake⟩

theorem Member.field_eq_ok_iff {m : Member} {fd : FieldDecl} :
    m.field (.ofConstants constants) = .ok fd ↔
      m.Declares constants fd.name fd.descriptor fd.flags := by
  rw [Member.field, Member.lookUp_eq_ok_iff]
  constructor
  · rintro ⟨name, descriptor, hname, hdescriptor, rfl⟩
    exact ⟨hname, hdescriptor, rfl⟩
  · rintro ⟨hname, hdescriptor, hflags⟩
    exact ⟨fd.name, fd.descriptor, hname, hdescriptor, by rw [← hflags]⟩

theorem Member.method_eq_ok_iff {m : Member} {md : MethodDecl} :
    m.method (.ofConstants constants) = .ok md ↔
      m.Declares constants md.name md.descriptor md.flags := by
  rw [Member.method, Member.lookUp_eq_ok_iff]
  constructor
  · rintro ⟨name, descriptor, hname, hdescriptor, rfl⟩
    exact ⟨hname, hdescriptor, rfl⟩
  · rintro ⟨hname, hdescriptor, hflags⟩
    exact ⟨md.name, md.descriptor, hname, hdescriptor, by rw [← hflags]⟩

theorem classNames_eq_ok_iff {references : List String} :
    (Pool.ofConstants constants).classNames constants = .ok references ↔
      ∃ names, ClassesNamed constants names ∧ references = names.eraseDups := by
  have hcollect : ∀ names, Pool.collect (Pool.ofConstants constants).text
      (constants.filterMap Pool.nameIndex?) = .ok names ↔ ClassesNamed constants names :=
    fun _ => Pool.collect_eq_ok_iff fun _ _ => Pool.text_eq_ok_iff
  rw [Pool.classNames, map_eq_ok_iff]
  simp only [hcollect, eq_comm (b := references)]

theorem Attribute.isAnnotations_iff {a : Attribute} :
    a.isAnnotations (.ofConstants constants) = true ↔ a.HoldsAnnotations constants := by
  rw [Attribute.HoldsAnnotations, ← Pool.text_eq_ok_iff, Attribute.isAnnotations]
  cases (Pool.ofConstants constants).text a.nameIndex <;> simp

/-- The types of listed annotations are found, and the body is used up. -/
theorem annotationTypes_eq_ok_iff {a : Attribute} {entries : List AnnotationEntry} {depth : Nat}
    (h : a.Lists constants entries) (hlevels : ∀ e ∈ entries, e.levels ≤ depth)
    {types : List String} :
    annotationTypes depth (.ofConstants constants) a.body = .ok types ↔
      List.Forall₂ (fun e type => TextAt constants e.typeIndex type) entries types := by
  have hread : runFrom (readAnnotations depth (.ofConstants constants)) a.body
      = .ok (entries, []) := by
    have hreads := reads_readAnnotations h.count (fun e he => ⟨h.wellFormed e he, h.types e he⟩)
      hlevels
    rw [runFrom, h.body, ← List.append_nil (annotationBytes entries), hreads []]
    rfl
  have hcollect : Pool.collect (fun e => (Pool.ofConstants constants).text e.typeIndex) entries
      = .ok types ↔ List.Forall₂ (fun e type => TextAt constants e.typeIndex type) entries types :=
    Pool.collect_eq_ok_iff fun _ _ => Pool.text_eq_ok_iff
  simp only [annotationTypes, bind_eq_ok_iff, hread, Except.ok.injEq, exists_eq_left',
    List.isEmpty_nil, if_true, mapError_eq_ok_iff, hcollect]

/-- Of listed annotations with too deep a value no types are found. -/
theorem annotationTypes_eq_tooDeep {a : Attribute} {entries : List AnnotationEntry} {depth : Nat}
    (h : a.Lists constants entries) (hdeep : ¬ ∀ e ∈ entries, e.levels ≤ depth) :
    annotationTypes depth (.ofConstants constants) a.body = .error .tooDeep := by
  have hstops := stops_readAnnotations h.count (fun e he => ⟨h.wellFormed e he, h.types e he⟩) hdeep
  have hread : runFrom (readAnnotations depth (.ofConstants constants)) a.body
      = .error .tooDeep := by
    rw [runFrom, h.body, ← List.append_nil (annotationBytes entries), hstops []]
    rfl
  simp only [annotationTypes, hread, bind, Except.bind]

/-- Some depth is enough for some annotations. -/
theorem exists_levels_le (entries : List AnnotationEntry) :
    ∃ depth, ∀ e ∈ entries, e.levels ≤ depth := by
  induction entries with
  | nil => exact ⟨0, by simp⟩
  | cons e entries ih =>
      obtain ⟨depth, hdepth⟩ := ih
      refine ⟨max e.levels depth, List.forall_mem_cons.mpr ⟨Nat.le_max_left _ _, ?_⟩⟩
      exact fun a ha => Nat.le_trans (hdepth a ha) (Nat.le_max_right _ _)

/-- A body is one list of annotations at most. -/
theorem Attribute.Lists.unique {a : Attribute} {entries entries' : List AnnotationEntry}
    (h : a.Lists constants entries) (h' : a.Lists constants entries') : entries = entries' := by
  obtain ⟨depth, hdepth⟩ := exists_levels_le (entries ++ entries')
  obtain ⟨hlevels, hlevels'⟩ := List.forall_mem_append.mp hdepth
  have hreads := reads_readAnnotations h.count (fun e he => ⟨h.wellFormed e he, h.types e he⟩)
    hlevels
  have hreads' := reads_readAnnotations h'.count (fun e he => ⟨h'.wellFormed e he, h'.types e he⟩)
    hlevels'
  have hsame := hreads' []
  rw [← h'.body, h.body, hreads []] at hsame
  exact (Prod.mk.inj (Except.ok.inj hsame)).1

theorem AnnotationsWithin.listed {depth : Nat} {attributes : List Attribute}
    (h : AnnotationsWithin depth constants attributes) :
    AnnotationsListed constants attributes := by
  intro a ha hholds
  obtain ⟨entries, hlists, -⟩ := h a ha hholds
  exact ⟨entries, hlists⟩

/-- Whatever an attribute lists is within the depth. -/
theorem AnnotationsWithin.levels_le {depth : Nat} {attributes : List Attribute}
    (h : AnnotationsWithin depth constants attributes) {a : Attribute} (ha : a ∈ attributes)
    (hholds : a.HoldsAnnotations constants) {entries : List AnnotationEntry}
    (hlists : a.Lists constants entries) : ∀ e ∈ entries, e.levels ≤ depth := by
  obtain ⟨entries', hlists', hlevels⟩ := h a ha hholds
  rw [hlists.unique hlists']
  exact hlevels

theorem AnnotationsWithin.mono {depth depth' : Nat} {attributes : List Attribute}
    (h : AnnotationsWithin depth constants attributes) (hle : depth ≤ depth') :
    AnnotationsWithin depth' constants attributes := by
  intro a ha hholds
  obtain ⟨entries, hlists, hlevels⟩ := h a ha hholds
  exact ⟨entries, hlists, fun e he => Nat.le_trans (hlevels e he) hle⟩

/-- Listed annotations are within some depth. -/
theorem AnnotationsListed.exists_within {attributes : List Attribute}
    (h : AnnotationsListed constants attributes) :
    ∃ depth, AnnotationsWithin depth constants attributes := by
  induction attributes with
  | nil => exact ⟨0, by simp [AnnotationsWithin]⟩
  | cons a attributes ih =>
      obtain ⟨ha, hattributes⟩ := List.forall_mem_cons.mp h
      obtain ⟨depth, hwithin⟩ := ih hattributes
      by_cases hholds : a.HoldsAnnotations constants
      · obtain ⟨entries, hlists⟩ := ha hholds
        obtain ⟨depth', hlevels⟩ := exists_levels_le entries
        refine ⟨depth + depth', List.forall_mem_cons.mpr ⟨fun _ => ⟨entries, hlists, ?_⟩, ?_⟩⟩
        · exact fun e he => Nat.le_trans (hlevels e he) (Nat.le_add_left _ _)
        · exact hwithin.mono (Nat.le_add_right _ _)
      · exact ⟨depth, List.forall_mem_cons.mpr ⟨fun hnot => absurd hnot hholds, hwithin⟩⟩

/-- Attributes that hold no annotations change nothing. -/
theorem lastAnnotations_of_not_holds {attributes : List Attribute}
    (h : ∀ a ∈ attributes, ¬ a.HoldsAnnotations constants) (depth : Nat)
    (last : Option (List String)) :
    lastAnnotations depth (.ofConstants constants) last attributes = .ok last := by
  induction attributes with
  | nil => rfl
  | cons a attributes ih =>
      obtain ⟨ha, hattributes⟩ := List.forall_mem_cons.mp h
      rw [lastAnnotations, if_neg (mt Attribute.isAnnotations_iff.mp ha), ih hattributes]

/-- Attributes in front are read, and only what was found last matters behind them. -/
theorem lastAnnotations_append {depth : Nat} {attributes : List Attribute}
    (h : AnnotationsWithin depth constants attributes) (rest : List Attribute)
    (last : Option (List String)) :
    ∃ last', lastAnnotations depth (.ofConstants constants) last (attributes ++ rest)
      = lastAnnotations depth (.ofConstants constants) last' rest := by
  induction attributes generalizing last with
  | nil => exact ⟨last, rfl⟩
  | cons a attributes ih =>
      obtain ⟨ha, hattributes⟩ := List.forall_mem_cons.mp h
      rw [List.cons_append, lastAnnotations]
      by_cases hholds : a.HoldsAnnotations constants
      · -- what it lists takes the place of what was found before
        obtain ⟨entries, hlists, hlevels⟩ := ha hholds
        obtain ⟨types, htypes⟩ := exists_forall₂ hlists.types
        rw [if_pos (Attribute.isAnnotations_iff.mpr hholds),
          (annotationTypes_eq_ok_iff hlists hlevels).mpr htypes]
        exact ih hattributes (some types)
      · rw [if_neg (mt Attribute.isAnnotations_iff.mp hholds)]
        exact ih hattributes last

/-- **The annotations that count are those of the last attribute.** -/
theorem lastAnnotations_eq {depth : Nat} {attributes : List Attribute}
    {annotations : Option (List String)} (h : AnnotationsWithin depth constants attributes)
    (hannotated : AnnotatedWith constants attributes annotations) :
    lastAnnotations depth (.ofConstants constants) none attributes = .ok annotations := by
  cases annotations with
  | none => exact lastAnnotations_of_not_holds hannotated depth none
  | some types =>
      obtain ⟨before, a, after, entries, rfl, hholds, hafter, hlists, htypes⟩ := hannotated
      have hbefore : AnnotationsWithin depth constants before := fun b hb =>
        h b (List.mem_append_left _ hb)
      have hlevels := h.levels_le (List.mem_append_right _ List.mem_cons_self) hholds hlists
      obtain ⟨last, hlast⟩ := lastAnnotations_append hbefore (a :: after) none
      rw [hlast, lastAnnotations, if_pos (Attribute.isAnnotations_iff.mpr hholds),
        (annotationTypes_eq_ok_iff hlists hlevels).mpr htypes]
      exact lastAnnotations_of_not_holds hafter depth (some types)

/-- **Too deep a value in any of the attributes stops the reader**, whatever the others hold. -/
theorem lastAnnotations_eq_tooDeep {depth : Nat} {attributes : List Attribute}
    (h : AnnotationsListed constants attributes)
    (hdeep : ¬ AnnotationsWithin depth constants attributes) (last : Option (List String)) :
    lastAnnotations depth (.ofConstants constants) last attributes = .error .tooDeep := by
  induction attributes generalizing last with
  | nil => exact absurd (by simp [AnnotationsWithin]) hdeep
  | cons a attributes ih =>
      obtain ⟨ha, hattributes⟩ := List.forall_mem_cons.mp h
      rw [AnnotationsWithin, List.forall_mem_cons] at hdeep
      rw [lastAnnotations]
      by_cases hholds : a.HoldsAnnotations constants
      · obtain ⟨entries, hlists⟩ := ha hholds
        rw [if_pos (Attribute.isAnnotations_iff.mpr hholds)]
        by_cases hlevels : ∀ e ∈ entries, e.levels ≤ depth
        · -- this one is read, so that a later one is too deep
          obtain ⟨types, htypes⟩ := exists_forall₂ hlists.types
          rw [(annotationTypes_eq_ok_iff hlists hlevels).mpr htypes]
          exact ih hattributes (fun hrest => hdeep ⟨fun _ => ⟨entries, hlists, hlevels⟩, hrest⟩)
            (some types)
        · rw [annotationTypes_eq_tooDeep hlists hlevels]
          rfl
      · rw [if_neg (mt Attribute.isAnnotations_iff.mp hholds)]
        exact ih hattributes (fun hrest => hdeep ⟨fun hnot => absurd hnot hholds, hrest⟩) last

theorem exists_annotatedWith {attributes : List Attribute}
    (h : AnnotationsListed constants attributes) :
    ∃ annotations, AnnotatedWith constants attributes annotations := by
  induction attributes with
  | nil => exact ⟨none, by simp [AnnotatedWith]⟩
  | cons a attributes ih =>
      obtain ⟨ha, hattributes⟩ := List.forall_mem_cons.mp h
      obtain ⟨annotations, hannotated⟩ := ih hattributes
      -- the first attribute counts only if none behind it holds annotations
      cases annotations with
      | some types =>
          obtain ⟨before, b, after, entries, rfl, hb⟩ := hannotated
          exact ⟨some types, a :: before, b, after, entries, rfl, hb⟩
      | none =>
          by_cases hholds : a.HoldsAnnotations constants
          · obtain ⟨entries, hlists⟩ := ha hholds
            obtain ⟨types, htypes⟩ := exists_forall₂ hlists.types
            exact ⟨some types, [], a, attributes, entries, rfl, hholds, hannotated, hlists, htypes⟩
          · exact ⟨none, List.forall_mem_cons.mpr ⟨hholds, hannotated⟩⟩

end

/-- The declared class is looked up, and is then checked. -/
theorem Declares.declaration_eq {f : ClassFile} {d : ClassDecl} (h : f.Declares d) :
    f.declaration d.annotations = d.check.mapError .badDeclaration := by
  have hname := Pool.className_eq_ok_iff.mpr h.name
  have hsuper := superName_eq_ok_iff.mpr h.superName
  have hinterfaces := (Pool.collect_eq_ok_iff fun _ _ => Pool.className_eq_ok_iff).mpr h.interfaces
  have hfields := (Pool.collect_eq_ok_iff fun _ _ => Member.field_eq_ok_iff).mpr h.fields
  have hmethods := (Pool.collect_eq_ok_iff fun _ _ => Member.method_eq_ok_iff).mpr h.methods
  have hreferences := classNames_eq_ok_iff.mpr h.references
  by_cases hzero : f.superIndex = 0
  · rw [if_pos hzero] at hsuper
    simp only [declaration, pool, bind, Except.bind, hname, if_pos hzero, hsuper, hinterfaces,
      hfields, hmethods, hreferences, ← h.flags, ← h.majorVersion, ← h.minorVersion]
  · rw [if_neg hzero] at hsuper
    simp only [declaration, pool, bind, Except.bind, hname, if_neg hzero, hsuper, hinterfaces,
      hfields, hmethods, hreferences, ← h.flags, ← h.majorVersion, ← h.minorVersion]

/-- A layout declares one class at most, if its annotations are listed. -/
theorem Declares.eq_of_listed {f : ClassFile} {d e : ClassDecl}
    (hlisted : AnnotationsListed f.constants f.attributes) (hd : f.Declares d)
    (he : f.Declares e) : d = e := by
  have hname : d.name = e.name :=
    eq_of_eq_ok_iff (fun _ => Pool.className_eq_ok_iff) hd.name he.name
  have hsuper : d.superName = e.superName :=
    eq_of_eq_ok_iff (fun _ => superName_eq_ok_iff) hd.superName he.superName
  have hinterfaces : d.interfaces = e.interfaces :=
    eq_of_eq_ok_iff (fun _ => Pool.collect_eq_ok_iff fun _ _ => Pool.className_eq_ok_iff)
      hd.interfaces he.interfaces
  have hfields : d.fields = e.fields :=
    eq_of_eq_ok_iff (fun _ => Pool.collect_eq_ok_iff fun _ _ => Member.field_eq_ok_iff)
      hd.fields he.fields
  have hmethods : d.methods = e.methods :=
    eq_of_eq_ok_iff (fun _ => Pool.collect_eq_ok_iff fun _ _ => Member.method_eq_ok_iff)
      hd.methods he.methods
  -- annotations are found by a loop, and not by one look-up
  obtain ⟨depth, hwithin⟩ := hlisted.exists_within
  have hannotations : d.annotations = e.annotations :=
    Except.ok.inj ((lastAnnotations_eq hwithin hd.annotations).symm.trans
      (lastAnnotations_eq hwithin he.annotations))
  have hreferences : d.references = e.references :=
    eq_of_eq_ok_iff (fun _ => classNames_eq_ok_iff) hd.references he.references
  have hflags : d.flags = e.flags := hd.flags.trans he.flags.symm
  have hmajor : d.majorVersion = e.majorVersion := hd.majorVersion.trans he.majorVersion.symm
  have hminor : d.minorVersion = e.minorVersion := hd.minorVersion.trans he.minorVersion.symm
  cases d
  cases e
  simp_all

/-- A layout that can be written declares one class at most. -/
theorem Declares.unique {f : ClassFile} {d e : ClassDecl} (hlaid : f.WellLaid) (hd : f.Declares d)
    (he : f.Declares e) : d = e :=
  hd.eq_of_listed hlaid.annotations he

theorem Member.WellLaid.exists_declares {constants : List Constant} {m : Member}
    (h : m.WellLaid constants) :
    ∃ name descriptor, m.Declares constants name descriptor m.flags.toNat := by
  obtain ⟨name, hname⟩ := h.name
  obtain ⟨descriptor, hdescriptor⟩ := h.descriptor
  exact ⟨name, descriptor, hname, hdescriptor, rfl⟩

theorem mem_filterMap_nameIndex? {constants : List Constant} {nameIndex : UInt16} :
    nameIndex ∈ constants.filterMap Pool.nameIndex? ↔ .classRef nameIndex ∈ constants := by
  rw [List.mem_filterMap]
  constructor
  · rintro ⟨c, hc, hnameIndex⟩
    cases c with
    | classRef index =>
        obtain rfl : index = nameIndex := Option.some.inj hnameIndex
        exact hc
    | text payload value => cases hnameIndex
    | plain kind payload => cases hnameIndex
  · exact fun hmem => ⟨_, hmem, rfl⟩

/-- The classes among the constants all have names. -/
theorem WellLaid.exists_classesNamed {f : ClassFile} (h : f.WellLaid) :
    ∃ names, ClassesNamed f.constants names :=
  exists_forall₂ fun nameIndex hmem => h.classes nameIndex (mem_filterMap_nameIndex?.mp hmem)

/-- A layout that can be written declares a class. -/
theorem WellLaid.exists_declares {f : ClassFile} (h : f.WellLaid) : ∃ d, f.Declares d := by
  obtain ⟨name, hname⟩ := h.readable.exists_className h.thisClass
  have hsuper : ∃ superName, SuperAt f.constants f.superIndex superName := by
    rcases h.superClass with hzero | hclass
    · exact ⟨none, hzero⟩
    · obtain ⟨superName, hsuperName⟩ := h.readable.exists_className hclass
      exact ⟨some superName, hsuperName⟩
  obtain ⟨superName, hsuperName⟩ := hsuper
  obtain ⟨interfaces, hinterfaces⟩ :=
    exists_forall₂ fun index hindex => h.readable.exists_className (h.interfaces index hindex)
  have hfields : ∀ m ∈ f.fields,
      ∃ fd : FieldDecl, m.Declares f.constants fd.name fd.descriptor fd.flags := by
    intro m hm
    obtain ⟨name, descriptor, hdeclares⟩ := (h.fields.2 m hm).exists_declares
    exact ⟨⟨name, descriptor, m.flags.toNat⟩, hdeclares⟩
  have hmethods : ∀ m ∈ f.methods,
      ∃ md : MethodDecl, m.Declares f.constants md.name md.descriptor md.flags := by
    intro m hm
    obtain ⟨name, descriptor, hdeclares⟩ := (h.methods.2 m hm).exists_declares
    exact ⟨⟨name, descriptor, m.flags.toNat⟩, hdeclares⟩
  obtain ⟨fields, hfields⟩ := exists_forall₂ hfields
  obtain ⟨methods, hmethods⟩ := exists_forall₂ hmethods
  obtain ⟨annotations, hannotations⟩ := exists_annotatedWith h.annotations
  obtain ⟨names, hnames⟩ := h.exists_classesNamed
  exact ⟨{ name, superName, interfaces, fields, methods, annotations
           references := names.eraseDups
           flags := f.flags.toNat
           majorVersion := f.majorVersion.toNat
           minorVersion := f.minorVersion.toNat },
    { minorVersion := rfl, majorVersion := rfl, flags := rfl, name := hname
      superName := hsuperName, interfaces := hinterfaces, fields := hfields, methods := hmethods
      annotations := hannotations, references := ⟨names, hnames, rfl⟩ }⟩

theorem runFrom_bytes {f : ClassFile} (h : f.Readable) :
    runFrom ClassFile.read f.bytes = .ok (f, []) := by
  rw [runFrom, ← List.append_nil f.bytes, reads_read h []]
  rfl

/-- Reading the bytes of a layout gives the class that it declares, after the checks. -/
theorem Declares.readDecl_bytes {f : ClassFile} {d : ClassDecl} {depth : Nat} (hlaid : f.Readable)
    (hwithin : f.NestedWithin depth) (hd : f.Declares d) :
    readDecl depth f.bytes = (d.check.mapError .badDeclaration).mapError .refused := by
  rw [readDecl, runFrom_bytes hlaid]
  simp only [bind, Except.bind]
  -- nothing is left over, so the declaration is looked up
  rw [pool, lastAnnotations_eq hwithin hd.annotations]
  simp only [List.isEmpty_nil, if_true, hd.declaration_eq]

/-- Nothing is read from the bytes of a layout with too deep a value. -/
theorem Readable.readDecl_bytes_eq_tooDeep {f : ClassFile} {depth : Nat} (h : f.Readable)
    (hdeep : ¬ f.NestedWithin depth) : readDecl depth f.bytes = .error .tooDeep := by
  rw [readDecl, runFrom_bytes h]
  simp only [bind, Except.bind]
  rw [pool, lastAnnotations_eq_tooDeep h.annotations hdeep]

/-- Reading gives the declared class if that has no defect. -/
theorem Declares.ofBytes_eq_ok {f : ClassFile} {d : ClassDecl} {depth : Nat} (hlaid : f.WellLaid)
    (hwithin : f.NestedWithin depth) (hd : f.Declares d) (hsound : d.Sound) (source : String) :
    ClassDecl.ofBytes depth source f.bytes = .ok d := by
  rw [ClassDecl.ofBytes, hd.readDecl_bytes hlaid.readable hwithin,
    ClassDecl.check_eq_ok_iff.mpr hsound]
  rfl

theorem Readable.ofBytes_eq_tooDeep {f : ClassFile} {depth : Nat} (h : f.Readable)
    (hdeep : ¬ f.NestedWithin depth) (source : String) :
    ClassDecl.ofBytes depth source f.bytes = .error (.misuse .nestedTooDeep) := by
  rw [ClassDecl.ofBytes, h.readDecl_bytes_eq_tooDeep hdeep]
  rfl

/-- **Class files are read back, within the depth of the reader.** A layout that can be written
declares exactly one class. If the values in its annotations are within the depth, and the class has
no defect, then reading the bytes of the layout gives this class. If a value is deeper, reading them
gives no class, whatever the layout declares. -/
theorem ofBytes_bytes {f : ClassFile} (h : f.WellLaid) (depth : Nat) (source : String) :
    ∃ d, (∀ e, f.Declares e ↔ e = d) ∧
      (f.NestedWithin depth → d.Sound → ClassDecl.ofBytes depth source f.bytes = .ok d) ∧
      (¬ f.NestedWithin depth →
        ClassDecl.ofBytes depth source f.bytes = .error (.misuse .nestedTooDeep)) := by
  obtain ⟨d, hd⟩ := h.exists_declares
  refine ⟨d, fun e => ⟨fun he => he.unique h hd, ?_⟩,
    fun hwithin hsound => hd.ofBytes_eq_ok h hwithin hsound source,
    fun hdeep => h.readable.ofBytes_eq_tooDeep hdeep source⟩
  rintro rfl
  exact hd

/-! ## Sample layouts -/

/-- A layout with a wide constant in front of texts, a field, and an annotation that has one
value. -/
def layoutWith (v : ElementValue) : ClassFile where
  minorVersion := 0
  majorVersion := 61
  slotCount := 8
  constants := [
    .text (ModifiedUtf8.encode "A") "A", .classRef 1, .plain .long [0, 0, 0, 0, 0, 0, 0, 1],
    .text (ModifiedUtf8.encode "LB;") "LB;",
    .text (ModifiedUtf8.encode annotationsName) annotationsName,
    .text (ModifiedUtf8.encode "x") "x"]
  flags := 0x21
  thisIndex := 2
  superIndex := 0
  interfaceIndexes := []
  fields := [⟨2, 7, 5, [⟨7, [1, 2, 3]⟩]⟩]
  methods := []
  attributes := [⟨6, annotationBytes [⟨5, [(7, v)]⟩]⟩]

/-- The class that such a layout declares. -/
def sampleClass : ClassDecl where
  name := "A"
  fields := [⟨"x", "LB;", 2⟩]
  annotations := some ["LB;"]
  references := ["A"]
  flags := 0x21
  majorVersion := 61

section
variable {v : ElementValue}

theorem layoutWith_textAt {index : UInt16} {text : String}
    (h : (layoutWith v).pool.text index = .ok text) : TextAt (layoutWith v).constants index text :=
  Pool.text_eq_ok_iff.mp h

theorem layoutWith_lists (h : v.WellFormed) :
    Attribute.Lists (layoutWith v).constants ⟨6, annotationBytes [⟨5, [(7, v)]⟩]⟩
      [⟨5, [(7, v)]⟩] where
  body := rfl
  count := by simp
  wellFormed := List.forall_mem_singleton.mpr ⟨by simp, h, trivial⟩
  types := List.forall_mem_singleton.mpr ⟨"LB;", layoutWith_textAt rfl⟩

/-- The value is all that is nested. -/
theorem layoutWith_nestedWithin_iff (h : v.WellFormed) {depth : Nat} :
    (layoutWith v).NestedWithin depth ↔ v.levels ≤ depth := by
  have hholds : Attribute.HoldsAnnotations (layoutWith v).constants
      ⟨6, annotationBytes [⟨5, [(7, v)]⟩]⟩ := layoutWith_textAt rfl
  have hlevels : AnnotationEntry.levels ⟨5, [(7, v)]⟩ = v.levels := Nat.max_zero _
  constructor
  · intro hwithin
    rw [← hlevels]
    exact hwithin.levels_le List.mem_cons_self hholds (layoutWith_lists h) _ List.mem_cons_self
  · intro hle
    refine List.forall_mem_singleton.mpr fun _ => ⟨_, layoutWith_lists h, ?_⟩
    rw [List.forall_mem_singleton, hlevels]
    exact hle

theorem length_annotationBytes_singleton (typeIndex nameIndex : UInt16) :
    (annotationBytes [⟨typeIndex, [(nameIndex, v)]⟩]).length = v.bytes.length + 8 := by
  simp [annotationBytes, AnnotationEntry.bytes, ElementValue.bytesOfPairs, bytes2]

theorem layoutWith_wellLaid (h : v.WellFormed) (hsize : v.bytes.length + 8 < 4294967296) :
    (layoutWith v).WellLaid where
  constants := by
    have htext : ∀ s, (ModifiedUtf8.encode s).length < 65536 →
        (Constant.text (ModifiedUtf8.encode s) s).WellFormed :=
      fun s hs => ⟨hs, ModifiedUtf8.decode?_encode s⟩
    simp only [layoutWith, List.forall_mem_cons]
    refine ⟨htext "A" (by decide), trivial, rfl, htext "LB;" (by decide),
      htext annotationsName (by decide), htext "x" (by decide), by simp⟩
  slotCount := by rfl
  classes := by
    intro nameIndex hmem
    have hone : nameIndex = 1 := by simpa [layoutWith] using hmem
    exact ⟨"A", layoutWith_textAt (by rw [hone]; rfl)⟩
  thisClass := ⟨1, Pool.get?_eq_some_iff.mp (by rfl)⟩
  superClass := Or.inl rfl
  interfaceCount := by simp [layoutWith]
  interfaces := by simp [layoutWith]
  fields := by
    refine ⟨by simp [layoutWith], List.forall_mem_singleton.mpr ?_⟩
    refine ⟨⟨"x", layoutWith_textAt rfl⟩, ⟨"LB;", layoutWith_textAt rfl⟩, by decide, ?_⟩
    exact List.forall_mem_singleton.mpr ⟨⟨"x", layoutWith_textAt rfl⟩, by decide⟩
  methods := ⟨by simp [layoutWith], by simp [layoutWith]⟩
  attributes := by
    refine ⟨by simp [layoutWith], List.forall_mem_singleton.mpr ?_⟩
    refine ⟨⟨annotationsName, layoutWith_textAt rfl⟩, ?_⟩
    rw [length_annotationBytes_singleton]
    exact hsize
  annotations := List.forall_mem_singleton.mpr fun _ => ⟨_, layoutWith_lists h⟩

theorem layoutWith_declares (h : v.WellFormed) : (layoutWith v).Declares sampleClass where
  minorVersion := rfl
  majorVersion := rfl
  flags := rfl
  name := Pool.className_eq_ok_iff.mp rfl
  superName := rfl
  interfaces := .nil
  fields := .cons ⟨layoutWith_textAt rfl, layoutWith_textAt rfl, rfl⟩ .nil
  methods := .nil
  annotations := ⟨[], _, [], _, rfl, layoutWith_textAt rfl, by simp, layoutWith_lists h,
    .cons (layoutWith_textAt rfl) .nil⟩
  references := ⟨["A"], .cons (layoutWith_textAt rfl) .nil, rfl⟩

end

theorem sampleClass_sound : sampleClass.Sound where
  name := by decide
  fields := by decide
  methods := by simp [sampleClass]
  keys := by simp [sampleClass]

/-- An array of a nested annotation and a number. -/
def sampleValue : ElementValue := .array [.nested 5 [], .const 0x49 7]

theorem sampleValue_wellFormed : sampleValue.WellFormed := by
  simp [sampleValue, ElementValue.WellFormed, ElementValue.ValuesWellFormed,
    ElementValue.PairsWellFormed, ElementValue.constTags]

theorem sampleLayout_wellLaid : (layoutWith sampleValue).WellLaid :=
  layoutWith_wellLaid sampleValue_wellFormed (by decide)

/-- Two levels are enough for the sample, and one is not. -/
theorem ofBytes_bytes_sample : (layoutWith sampleValue).WellLaid ∧ sampleClass.Sound ∧
    ClassDecl.ofBytes 2 "sample" (layoutWith sampleValue).bytes = .ok sampleClass ∧
    ClassDecl.ofBytes 1 "sample" (layoutWith sampleValue).bytes
      = .error (.misuse .nestedTooDeep) := by
  have hwithin {depth : Nat} : (layoutWith sampleValue).NestedWithin depth ↔ 2 ≤ depth :=
    layoutWith_nestedWithin_iff sampleValue_wellFormed
  obtain ⟨d, honly, hread, -⟩ := ofBytes_bytes sampleLayout_wellLaid 2 "sample"
  obtain rfl : sampleClass = d :=
    (honly sampleClass).mp (layoutWith_declares sampleValue_wellFormed)
  obtain ⟨-, -, -, hdeep⟩ := ofBytes_bytes sampleLayout_wellLaid 1 "sample"
  exact ⟨sampleLayout_wellLaid, sampleClass_sound, hread (hwithin.mpr (Nat.le_refl 2))
    sampleClass_sound, hdeep fun h => absurd (hwithin.mp h) (by decide)⟩

/-! ## Deep values -/

namespace ElementValue

/-- Arrays in arrays, around a value. -/
def arraysAround (v : ElementValue) : Nat → ElementValue
  | 0 => v
  | n + 1 => .array [arraysAround v n]

theorem wellFormed_arraysAround {v : ElementValue} (h : v.WellFormed) (n : Nat) :
    (arraysAround v n).WellFormed := by
  induction n with
  | zero => exact h
  | succ n ih => exact ⟨by simp, ih, trivial⟩

theorem levels_arraysAround (v : ElementValue) (n : Nat) :
    (arraysAround v n).levels = v.levels + n := by
  induction n with
  | zero => rfl
  | succ n ih => rw [arraysAround, levels, levelsOfValues, levelsOfValues, ih, Nat.max_zero]; rfl

theorem length_bytes_arraysAround (v : ElementValue) (n : Nat) :
    (arraysAround v n).bytes.length = v.bytes.length + 3 * n := by
  induction n with
  | zero => rfl
  | succ n ih =>
      rw [arraysAround, bytes, bytesOfValues, bytesOfValues]
      simp only [List.length_append, List.length_cons, List.length_nil, ih, bytes2]
      omega

/-- A number in a thousand arrays. -/
def deepValue : ElementValue := arraysAround (.const 0x49 7) 1000

theorem deepValue_wellFormed : deepValue.WellFormed := by
  apply wellFormed_arraysAround
  exact (by decide : (0x49 : UInt8) ∈ constTags)

theorem deepValue_levels : deepValue.levels = 1001 :=
  levels_arraysAround (.const 0x49 7) 1000

end ElementValue

theorem deepLayout_wellLaid : (layoutWith .deepValue).WellLaid := by
  apply layoutWith_wellLaid ElementValue.deepValue_wellFormed
  rw [ElementValue.deepValue, ElementValue.length_bytes_arraysAround]
  decide

theorem deepLayout_not_nestedWithin : ¬ (layoutWith .deepValue).NestedWithin 1000 := by
  rw [layoutWith_nestedWithin_iff ElementValue.deepValue_wellFormed,
    ElementValue.deepValue_levels]
  decide

/-- **A depth of a thousand levels is not enough for every class file**: a layout with a number in a
thousand arrays can be written and declares a class without defect, but it is not read. -/
theorem ofBytes_bytes_deep : (layoutWith .deepValue).WellLaid ∧
    (∀ e, (layoutWith .deepValue).Declares e ↔ e = sampleClass) ∧ sampleClass.Sound ∧
    ClassDecl.ofBytes 1000 "deep" (layoutWith .deepValue).bytes
      = .error (.misuse .nestedTooDeep) := by
  have hdeclares := layoutWith_declares ElementValue.deepValue_wellFormed
  refine ⟨deepLayout_wellLaid, fun e => ⟨fun he => he.unique deepLayout_wellLaid hdeclares, ?_⟩,
    sampleClass_sound,
    deepLayout_wellLaid.readable.ofBytes_eq_tooDeep deepLayout_not_nestedWithin "deep"⟩
  rintro rfl
  exact hdeclares

end ClassFile

end JvmDeps
