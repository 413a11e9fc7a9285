import JvmDeps.Proofs.ClassFile.RoundTrip
import JvmDeps.Proofs.Descriptor.Grammar
import Mathlib.Data.List.Nodup

set_option autoImplicit false

/-! # Blueprints of classes

A `Blueprint` is a class before it is laid out: types are trees, names are texts, and the values of
annotations are trees with texts and numbers at their leaves. No index and no order of constants is
part of it.

`ClassFile.Encodes f b` says that the layout `f` is one of the many layouts of `b`: all that the
blueprint says is what the indexes of the layout mean, descriptors are written by the grammar, and
the classes among the constants are the class itself, its superclass, its interfaces and its
references. The constants may stand in any order, and others may stand between them.

A layout declares what its blueprint says (`Encodes.exists_declares`), its values have as many
levels as those of the blueprint (`Encodes.nestedWithin_iff`), and a legal blueprint has no defect
(`Legal.sound`).
-/

namespace JvmDeps

namespace Blueprint

/-- A value in an annotation. -/
inductive Value where
  | text (s : String)
  /-- A number: the tag of its type, and the constant that holds it. -/
  | number (tag : UInt8) (kind : ClassFile.PlainKind) (payload : Bytes)
  /-- A class, given by its descriptor. -/
  | classInfo (descriptor : String)
  /-- An enumeration constant: the descriptor of its type, and its name. -/
  | enum (type name : String)
  /-- A nested annotation: the class of its type, and its named values. -/
  | nested (type : String) (pairs : List (String × Value))
  | array (values : List Value)

/-- An annotation: the class of its type, and its named values. -/
structure AnnotationTree where
  type : String
  pairs : List (String × Value)

/-- A field. -/
structure Field where
  flags : UInt16
  name : String
  type : FieldType

/-- A method or constructor; `none` as result stands for no result. -/
structure Method where
  flags : UInt16
  name : String
  parameters : List FieldType
  result : Option FieldType

/-- A reference to a class, or to an array type with one dimension more than `extra`. -/
inductive Reference where
  | plain (name : String)
  | array (extra : Nat) (element : ElementType)

/-- The descriptor of a class. -/
def typeText (name : String) : String := (Descriptor.field ⟨0, .object name⟩).text

/-- The type of a field. -/
def Field.descriptor (f : Field) : Descriptor := .field f.type

/-- The type of a method. -/
def Method.descriptor (m : Method) : Descriptor := .method m.parameters m.result

/-- What tells the methods of one class apart. -/
def Method.key (m : Method) : String × Descriptor := (m.name, m.descriptor)

namespace Reference

/-- How a reference is written: a class by its name, an array type by its descriptor. -/
def text : Reference → String
  | plain name => name
  | array extra element => (Descriptor.field ⟨extra + 1, element⟩).text

/-- The class that a reference stands for: an array stands for its element class. -/
def className? : Reference → Option String
  | plain name => some name
  | array _ element => element.className?

/-- The class of a reference, if it has one, has a legal name. -/
def Legal : Reference → Prop
  | plain name => Name.Legal name
  | array _ element => element.Legal

instance : (r : Reference) → Decidable r.Legal
  | plain name => inferInstanceAs (Decidable (Name.Legal name))
  | array _ element => inferInstanceAs (Decidable element.Legal)

end Reference

end Blueprint

open Blueprint in
/-- A class before it is laid out. -/
structure Blueprint where
  minorVersion : UInt16
  majorVersion : UInt16
  flags : UInt16
  name : String
  /-- The superclass; only the root class has none. -/
  superName : Option String
  interfaces : List String
  fields : List Field
  methods : List Method
  /-- The visible annotations; `none` if the class has no such attribute. -/
  annotations : Option (List AnnotationTree)
  /-- The classes and arrays that the class refers to, besides its own kin. -/
  references : List Reference

namespace Blueprint

/-- Class names are legal, member names are not empty, and no two methods have the same name and
descriptor. -/
structure Legal (b : Blueprint) : Prop where
  name : Name.Legal b.name
  superName : ∀ name ∈ b.superName, Name.Legal name
  interfaces : ∀ name ∈ b.interfaces, Name.Legal name
  fields : ∀ f ∈ b.fields, f.name ≠ "" ∧ f.descriptor.Legal
  methods : ∀ m ∈ b.methods, m.name ≠ "" ∧ m.descriptor.Legal
  keys : (b.methods.map Method.key).Nodup
  annotations : ∀ a ∈ b.annotations.getD [], Name.Legal a.type
  references : ∀ r ∈ b.references, r.Legal

/-- What has a class constant of its own: the class, its superclass, its interfaces and its
references. -/
def classEntries (b : Blueprint) : List Reference :=
  .plain b.name :: b.superName.toList.map .plain ++ b.interfaces.map .plain ++ b.references

theorem Legal.classEntries {b : Blueprint} (h : b.Legal) : ∀ r ∈ b.classEntries, r.Legal := by
  intro r hr
  simp only [Blueprint.classEntries, List.cons_append, List.mem_cons, List.mem_append, List.mem_map]
    at hr
  rcases hr with rfl | (⟨name, hname, rfl⟩ | ⟨name, hname, rfl⟩) | hr
  · exact h.name
  · exact h.superName name (Option.mem_toList.mp hname)
  · exact h.interfaces name hname
  · exact h.references r hr

/-! ## The declaration of a blueprint -/

/-- The declared field. -/
def Field.decl (f : Field) : FieldDecl := ⟨f.name, f.descriptor.text, f.flags.toNat⟩

/-- The declared method. -/
def Method.decl (m : Method) : MethodDecl := ⟨m.name, m.descriptor.text, m.flags.toNat⟩

/-- The declared class, with the references in the order in which they were found. -/
def decl (b : Blueprint) (references : List String) : ClassDecl where
  name := b.name
  superName := b.superName
  interfaces := b.interfaces
  fields := b.fields.map Field.decl
  methods := b.methods.map Method.decl
  annotations := b.annotations.map (·.map fun a => typeText a.type)
  references := references
  flags := b.flags.toNat
  majorVersion := b.majorVersion.toNat
  minorVersion := b.minorVersion.toNat

/-- Methods that differ in name or types differ in name or written descriptor. -/
theorem Legal.nodup_keys {b : Blueprint} (h : b.Legal) :
    ((b.methods.map Method.decl).map MethodDecl.key).Nodup := by
  rw [List.map_map]
  refine List.Nodup.map_on ?_ (h.keys.of_map _)
  intro m hm m' hm' hkey
  obtain ⟨hname, htext⟩ := Prod.mk.inj hkey
  -- a written descriptor has only one derivation
  have hdescriptor : m.descriptor = m'.descriptor :=
    Descriptor.eq_of_text_eq (h.methods m hm).2 (h.methods m' hm').2 htext
  exact List.inj_on_of_nodup_map h.keys hm hm' (Prod.ext hname hdescriptor)

/-- **A legal blueprint declares a class without defect.** -/
theorem Legal.sound {b : Blueprint} (h : b.Legal) (references : List String) :
    (b.decl references).Sound where
  name := h.name.1
  fields := by
    intro fd hfd
    obtain ⟨f, hf, rfl⟩ := List.mem_map.mp hfd
    obtain ⟨c, cs, hchars, -⟩ := Descriptor.exists_type_chars_eq_cons f.type
    refine ⟨(h.fields f hf).1, fun hempty => ?_⟩
    have htext : (Field.decl f).descriptor.toList = c :: cs := by
      rw [Field.decl, Field.descriptor, Descriptor.text, Descriptor.chars, String.toList_ofList,
        hchars]
    rw [hempty] at htext
    cases htext
  methods := by
    intro md hmd
    obtain ⟨m, hm, rfl⟩ := List.mem_map.mp hmd
    refine ⟨(h.methods m hm).1, ?_⟩
    rw [Method.decl, Method.descriptor, Descriptor.text, String.toList_ofList]
    rfl
  keys := h.nodup_keys

/-! ## Values of annotations -/

open JvmDeps.ClassFile

/-- The tag of a text in an annotation, `s`. -/
def textTag : UInt8 := 0x73

mutual

/-- The laid-out value is this value: its indexes mean the texts and numbers. -/
def Value.Spelled (constants : List Constant) : Value → ElementValue → Prop
  | .text s, .const tag index => tag = textTag ∧ TextAt constants index s
  | .number tag kind payload, .const tag' index =>
    tag' = tag ∧ StandsAt constants index (.plain kind payload)
  | .classInfo descriptor, .classInfo index => TextAt constants index descriptor
  | .enum type name, .enum typeIndex nameIndex =>
    TextAt constants typeIndex type ∧ TextAt constants nameIndex name
  | .nested type pairs, .nested typeIndex laid =>
    TextAt constants typeIndex (typeText type) ∧ PairsSpelled constants pairs laid
  | .array values, .array laid => ValuesSpelled constants values laid
  | _, _ => False

/-- The laid-out values are these values. -/
def ValuesSpelled (constants : List Constant) : List Value → List ElementValue → Prop
  | [], [] => True
  | v :: vs, e :: es => v.Spelled constants e ∧ ValuesSpelled constants vs es
  | _, _ => False

/-- The laid-out named values are these named values. -/
def PairsSpelled (constants : List Constant) :
    List (String × Value) → List (UInt16 × ElementValue) → Prop
  | [], [] => True
  | (name, v) :: pairs, (nameIndex, e) :: laid =>
    TextAt constants nameIndex name ∧ v.Spelled constants e ∧ PairsSpelled constants pairs laid
  | _, _ => False

end

mutual

/-- The number of levels of a value: one more than those of the deepest value in it. -/
def Value.levels : Value → Nat
  | .text _ => 1
  | .number _ _ _ => 1
  | .classInfo _ => 1
  | .enum _ _ => 1
  | .nested _ pairs => levelsOfPairs pairs + 1
  | .array values => levelsOfValues values + 1

/-- The number of levels of the deepest of some values. -/
def levelsOfValues : List Value → Nat
  | [] => 0
  | v :: vs => max v.levels (levelsOfValues vs)

/-- The number of levels of the deepest of some named values. -/
def levelsOfPairs : List (String × Value) → Nat
  | [] => 0
  | (_, v) :: pairs => max v.levels (levelsOfPairs pairs)

end

mutual

/-- A laid-out value has as many levels. -/
theorem levels_eq_of_spelled {constants : List Constant} : ∀ (v : Value) (e : ElementValue),
    v.Spelled constants e → e.levels = v.levels
  | .text _, .const _ _, _ => rfl
  | .number _ _ _, .const _ _, _ => rfl
  | .classInfo _, .classInfo _, _ => rfl
  | .enum _ _, .enum _ _, _ => rfl
  | .nested _ pairs, .nested _ laid, h =>
      congrArg (· + 1) (levelsOfPairs_eq_of_spelled pairs laid h.2)
  | .array values, .array laid, h => congrArg (· + 1) (levelsOfValues_eq_of_spelled values laid h)

theorem levelsOfValues_eq_of_spelled {constants : List Constant} :
    ∀ (vs : List Value) (es : List ElementValue),
      ValuesSpelled constants vs es → ElementValue.levelsOfValues es = levelsOfValues vs
  | [], [], _ => rfl
  | v :: vs, e :: es, h =>
      congrArg₂ max (levels_eq_of_spelled v e h.1) (levelsOfValues_eq_of_spelled vs es h.2)

theorem levelsOfPairs_eq_of_spelled {constants : List Constant} :
    ∀ (pairs : List (String × Value)) (laid : List (UInt16 × ElementValue)),
      PairsSpelled constants pairs laid → ElementValue.levelsOfPairs laid = levelsOfPairs pairs
  | [], [], _ => rfl
  | (_, v) :: pairs, (_, e) :: laid, h =>
      congrArg₂ max (levels_eq_of_spelled v e h.2.1)
        (levelsOfPairs_eq_of_spelled pairs laid h.2.2)

end

/-- The number of levels of the deepest value in an annotation. -/
def AnnotationTree.levels (a : AnnotationTree) : Nat := levelsOfPairs a.pairs

/-- The values in the annotations of the class have at most `depth` levels. -/
def NestedWithin (b : Blueprint) (depth : Nat) : Prop :=
  ∀ annotations ∈ b.annotations, ∀ a ∈ annotations, a.levels ≤ depth

/-- The laid-out annotation is this annotation. -/
structure AnnotationTree.Spelled (constants : List Constant) (e : AnnotationEntry)
    (a : AnnotationTree) : Prop where
  type : TextAt constants e.typeIndex (typeText a.type)
  pairs : PairsSpelled constants a.pairs e.pairs

/-- The attributes hold these annotations: one attribute lists them, and without annotations there
is no such attribute. -/
def AnnotatedBy (constants : List Constant) (attributes : List Attribute) :
    Option (List AnnotationTree) → Prop
  | none => ∀ a ∈ attributes, ¬ a.HoldsAnnotations constants
  | some annotations => ∃ before a after entries,
    attributes = before ++ a :: after ∧ a.HoldsAnnotations constants ∧
      (∀ other ∈ before ++ after, ¬ other.HoldsAnnotations constants) ∧
      a.Lists constants entries ∧
      List.Forall₂ (AnnotationTree.Spelled constants) entries annotations

end Blueprint

/-! ## Layouts of a blueprint -/

namespace ClassFile

/-- One of the constants is a class of this name. -/
def NamesClass (constants : List Constant) (name : String) : Prop :=
  ∃ nameIndex, Constant.classRef nameIndex ∈ constants ∧ TextAt constants nameIndex name

/-- The layout is one of those of the blueprint. -/
structure Encodes (f : ClassFile) (b : Blueprint) : Prop where
  wellLaid : f.WellLaid
  minorVersion : f.minorVersion = b.minorVersion
  majorVersion : f.majorVersion = b.majorVersion
  flags : f.flags = b.flags
  name : ClassAt f.constants f.thisIndex b.name
  superName : SuperAt f.constants f.superIndex b.superName
  interfaces : List.Forall₂ (ClassAt f.constants) f.interfaceIndexes b.interfaces
  fields : List.Forall₂
    (fun m fd => m.Declares f.constants fd.name fd.descriptor.text fd.flags.toNat)
    f.fields b.fields
  methods : List.Forall₂
    (fun m md => m.Declares f.constants md.name md.descriptor.text md.flags.toNat)
    f.methods b.methods
  annotations : Blueprint.AnnotatedBy f.constants f.attributes b.annotations
  classes : ∀ name, NamesClass f.constants name ↔ ∃ r ∈ b.classEntries, r.text = name

/-- Spelled annotations have as many levels as the annotations. -/
theorem levels_le_iff_of_spelled {constants : List Constant} {entries : List AnnotationEntry}
    {annotations : List Blueprint.AnnotationTree}
    (h : List.Forall₂ (Blueprint.AnnotationTree.Spelled constants) entries annotations)
    (depth : Nat) : (∀ e ∈ entries, e.levels ≤ depth) ↔ ∀ a ∈ annotations, a.levels ≤ depth := by
  induction h with
  | nil => simp
  | @cons e a entries annotations he _ ih =>
      have hlevels : e.levels = a.levels :=
        Blueprint.levelsOfPairs_eq_of_spelled a.pairs e.pairs he.pairs
      rw [List.forall_mem_cons, List.forall_mem_cons, hlevels, ih]

/-- **A layout nests its values as deep as its blueprint does.** -/
theorem Encodes.nestedWithin_iff {f : ClassFile} {b : Blueprint} (h : f.Encodes b) (depth : Nat) :
    f.NestedWithin depth ↔ b.NestedWithin depth := by
  have hannotated := h.annotations
  rw [Blueprint.NestedWithin]
  cases hsome : b.annotations with
  | none =>
      rw [hsome] at hannotated
      exact iff_of_true (fun a ha hholds => absurd hholds (hannotated a ha)) (by simp)
  | some annotations =>
      rw [hsome] at hannotated
      obtain ⟨before, a, after, entries, hsplit, hholds, hothers, hlists, hspelled⟩ := hannotated
      have hmem : a ∈ f.attributes := by simp [hsplit]
      have hlevels := levels_le_iff_of_spelled hspelled depth
      simp only [Option.mem_def, Option.some.injEq, forall_eq']
      rw [← hlevels]
      constructor
      · exact fun hwithin => hwithin.levels_le hmem hholds hlists
      · -- the other attributes hold no annotations
        intro hle other hother hholds'
        have hcases : other = a ∨ other ∈ before ++ after := by
          rw [hsplit] at hother
          simpa [or_left_comm] using hother
        rcases hcases with rfl | hcases
        · exact ⟨entries, hlists, hle⟩
        · exact absurd hholds' (hothers other hcases)

theorem annotatedWith_of_annotatedBy {constants : List Constant} {attributes : List Attribute}
    {annotations : Option (List Blueprint.AnnotationTree)}
    (h : Blueprint.AnnotatedBy constants attributes annotations) :
    AnnotatedWith constants attributes
      (annotations.map (·.map fun a => Blueprint.typeText a.type)) := by
  cases annotations with
  | none => exact h
  | some annotations =>
      obtain ⟨before, a, after, entries, hsplit, hholds, hothers, hlists, hspelled⟩ := h
      refine ⟨before, a, after, entries, hsplit, hholds, ?_, hlists, ?_⟩
      · exact fun other hother => hothers other (List.mem_append_right _ hother)
      · exact List.forall₂_map_right_iff.mpr (hspelled.imp fun _ _ he => he.type)

/-- The values of a list under a relation that gives one value at most. -/
theorem mem_iff_of_forall₂ {α β : Type} {R : α → β → Prop} {as : List α} {bs : List β}
    (h : List.Forall₂ R as bs) (hunique : ∀ a b b', R a b → R a b' → b = b') {x : β} :
    x ∈ bs ↔ ∃ a ∈ as, R a x := by
  induction h with
  | nil => simp
  | @cons a b as bs hab _ ih =>
      have hhead : x = b ↔ R a x := ⟨fun hx => hx ▸ hab, fun hax => hunique a x b hax hab⟩
      simp only [List.mem_cons, ih, hhead, exists_eq_or_imp]

/-- The names of the classes among the constants. -/
theorem ClassesNamed.mem_iff {constants : List Constant} {names : List String}
    (h : ClassesNamed constants names) {name : String} :
    name ∈ names ↔ NamesClass constants name := by
  have hmem : name ∈ names ↔ ∃ nameIndex ∈ constants.filterMap Pool.nameIndex?,
      TextAt constants nameIndex name :=
    mem_iff_of_forall₂ h fun _ _ _ => Pool.textAt_unique
  simp only [hmem, NamesClass, mem_filterMap_nameIndex?]

/-- **A layout declares what its blueprint says**, and its references are the class entries. -/
theorem Encodes.exists_declares {f : ClassFile} {b : Blueprint} (h : f.Encodes b) :
    ∃ references, f.Declares (b.decl references) ∧
      ∀ text, text ∈ references ↔ ∃ r ∈ b.classEntries, r.text = text := by
  obtain ⟨names, hnames⟩ := h.wellLaid.exists_classesNamed
  refine ⟨names.eraseDups, ?_, ?_⟩
  · exact {
      minorVersion := by rw [h.minorVersion]; rfl
      majorVersion := by rw [h.majorVersion]; rfl
      flags := by rw [h.flags]; rfl
      name := h.name
      superName := h.superName
      interfaces := h.interfaces
      fields := List.forall₂_map_right_iff.mpr h.fields
      methods := List.forall₂_map_right_iff.mpr h.methods
      annotations := annotatedWith_of_annotatedBy h.annotations
      references := ⟨names, hnames, rfl⟩ }
  · intro text
    rw [List.mem_eraseDups, hnames.mem_iff, h.classes]

end ClassFile

end JvmDeps
