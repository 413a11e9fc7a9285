import JvmDeps.Proofs.Bytes.ModifiedUtf8
import JvmDeps.Proofs.ClassFile.Blueprint

set_option autoImplicit false

/-! # Laying out a blueprint

`Blueprint.layout` lays a blueprint out: first the texts and numbers that it needs, each once, and
behind them the classes, which refer to the texts by index. `Blueprint.Fits` says that counts and
sizes fit their fields. The main statement is `Fits.layout_encodes`: a blueprint that fits is
encoded by its layout, so that there is a layout for every blueprint of the sizes that class files
can hold.
-/

namespace JvmDeps

namespace ClassFile

/-! ## Places of constants -/

/-- The index of the first place of a constant. -/
def indexIn (constants : List Constant) (c : Constant) : UInt16 :=
  UInt16.ofNat (1 + width (constants.takeWhile (· ≠ c)))

theorem width_append (cs ds : List Constant) : width (cs ++ ds) = width cs + width ds := by
  induction cs with
  | nil => simp
  | cons c cs ih => rw [List.cons_append, width_cons, width_cons, ih, Nat.add_assoc]

/-- A constant stands at its index, if the slots can be numbered. -/
theorem standsAt_indexIn {constants : List Constant} {c : Constant} (hc : c ∈ constants)
    (hfit : width constants < 65535) : StandsAt constants (indexIn constants c) c := by
  have hsplit : constants.takeWhile (· ≠ c) ++ constants.dropWhile (· ≠ c) = constants :=
    List.takeWhile_append_dropWhile
  have hwidth : 1 + width (constants.takeWhile (· ≠ c)) < 65536 := by
    have := width_append (constants.takeWhile (· ≠ c)) (constants.dropWhile (· ≠ c))
    rw [hsplit] at this
    omega
  cases hrest : constants.dropWhile (· ≠ c) with
  | nil =>
      -- nothing is left only if every constant differs
      have hall := List.dropWhile_eq_nil_iff.mp hrest c hc
      simp at hall
  | cons d rest =>
      have hd : d = c := by
        have hhead := List.head?_dropWhile_not (· ≠ c) constants
        rw [hrest] at hhead
        simpa using hhead
      refine ⟨constants.takeWhile (· ≠ c), rest, ?_, ?_⟩
      · rw [← hd, ← hrest, hd, hsplit]
      · rw [indexIn, UInt16.toNat_ofNat_of_lt' hwidth]

/-- Constants behind the others move none of them. -/
theorem StandsAt.append {constants : List Constant} {index : UInt16} {c : Constant}
    (h : StandsAt constants index c) (more : List Constant) :
    StandsAt (constants ++ more) index c := by
  obtain ⟨before, after, rfl, hindex⟩ := h
  exact ⟨before, after ++ more, by simp, hindex⟩

end ClassFile

namespace Blueprint

open JvmDeps.ClassFile

/-! ## Leaves -/

/-- What a blueprint holds in constants of its own, besides classes. -/
inductive Leaf where
  | text (s : String)
  | number (kind : PlainKind) (payload : Bytes)
deriving DecidableEq

namespace Leaf

/-- The constant of a leaf. -/
def constant : Leaf → Constant
  | text s => .text (ModifiedUtf8.encode s) s
  | number kind payload => .plain kind payload

/-- The leaf fits: a text is not too long, and a number has the size of its kind. -/
def Fits : Leaf → Prop
  | text s => (ModifiedUtf8.encode s).length < 65536
  | number kind payload => payload.length = kind.size

instance : (l : Leaf) → Decidable l.Fits
  | text s => inferInstanceAs (Decidable ((ModifiedUtf8.encode s).length < 65536))
  | number kind payload => inferInstanceAs (Decidable (payload.length = kind.size))

theorem Fits.constant_wellFormed {l : Leaf} (h : l.Fits) : l.constant.WellFormed := by
  cases l with
  | text s => exact ⟨h, ModifiedUtf8.decode?_encode s⟩
  | number kind payload => exact h

end Leaf

mutual

/-- The leaves of a value. -/
def Value.leaves : Value → List Leaf
  | .text s => [.text s]
  | .number _ kind payload => [.number kind payload]
  | .classInfo descriptor => [.text descriptor]
  | .enum type name => [.text type, .text name]
  | .nested type pairs => .text (typeText type) :: leavesOfPairs pairs
  | .array values => leavesOfValues values

/-- The leaves of some values. -/
def leavesOfValues : List Value → List Leaf
  | [] => []
  | v :: vs => v.leaves ++ leavesOfValues vs

/-- The leaves of some named values. -/
def leavesOfPairs : List (String × Value) → List Leaf
  | [] => []
  | (name, v) :: pairs => .text name :: v.leaves ++ leavesOfPairs pairs

end

mutual

/-- The laid-out value, given the indexes of leaves. -/
def Value.layOut (index : Leaf → UInt16) : Value → ElementValue
  | .text s => .const textTag (index (.text s))
  | .number tag kind payload => .const tag (index (.number kind payload))
  | .classInfo descriptor => .classInfo (index (.text descriptor))
  | .enum type name => .enum (index (.text type)) (index (.text name))
  | .nested type pairs => .nested (index (.text (typeText type))) (layOutPairs index pairs)
  | .array values => .array (layOutValues index values)

/-- The laid-out values. -/
def layOutValues (index : Leaf → UInt16) : List Value → List ElementValue
  | [] => []
  | v :: vs => v.layOut index :: layOutValues index vs

/-- The laid-out named values. -/
def layOutPairs (index : Leaf → UInt16) : List (String × Value) → List (UInt16 × ElementValue)
  | [] => []
  | (name, v) :: pairs => (index (.text name), v.layOut index) :: layOutPairs index pairs

end

/-- The leaves of an annotation. -/
def AnnotationTree.leaves (a : AnnotationTree) : List Leaf :=
  .text (typeText a.type) :: leavesOfPairs a.pairs

/-- The laid-out annotation. -/
def AnnotationTree.layOut (index : Leaf → UInt16) (a : AnnotationTree) : AnnotationEntry :=
  ⟨index (.text (typeText a.type)), layOutPairs index a.pairs⟩

section
variable {constants : List Constant} {index : Leaf → UInt16}

mutual

/-- A laid-out value is the value, if every leaf stands at its index. -/
theorem Value.layOut_spelled : ∀ v : Value,
    (∀ l ∈ v.leaves, StandsAt constants (index l) l.constant) →
    v.Spelled constants (v.layOut index)
  | .text _, h => ⟨rfl, _, h _ List.mem_cons_self⟩
  | .number _ _ _, h => ⟨rfl, h _ List.mem_cons_self⟩
  | .classInfo _, h => ⟨_, h _ List.mem_cons_self⟩
  | .enum _ _, h =>
      ⟨⟨_, h _ List.mem_cons_self⟩, _, h _ (List.mem_cons_of_mem _ List.mem_cons_self)⟩
  | .nested _ pairs, h =>
      ⟨⟨_, h _ List.mem_cons_self⟩,
        layOutPairs_spelled pairs fun l hl => h l (List.mem_cons_of_mem _ hl)⟩
  | .array values, h => layOutValues_spelled values h

theorem layOutValues_spelled : ∀ vs : List Value,
    (∀ l ∈ leavesOfValues vs, StandsAt constants (index l) l.constant) →
    ValuesSpelled constants vs (layOutValues index vs)
  | [], _ => trivial
  | v :: vs, h =>
      ⟨v.layOut_spelled fun l hl => h l (List.mem_append_left _ hl),
        layOutValues_spelled vs fun l hl => h l (List.mem_append_right _ hl)⟩

theorem layOutPairs_spelled : ∀ pairs : List (String × Value),
    (∀ l ∈ leavesOfPairs pairs, StandsAt constants (index l) l.constant) →
    PairsSpelled constants pairs (layOutPairs index pairs)
  | [], _ => trivial
  | (_, v) :: pairs, h =>
      ⟨⟨_, h _ List.mem_cons_self⟩,
        v.layOut_spelled fun l hl => h l (List.mem_cons_of_mem _ (List.mem_append_left _ hl)),
        layOutPairs_spelled pairs fun l hl =>
          h l (List.mem_cons_of_mem _ (List.mem_append_right _ hl))⟩

end

theorem AnnotationTree.layOut_spelled {a : AnnotationTree}
    (h : ∀ l ∈ a.leaves, StandsAt constants (index l) l.constant) :
    a.Spelled constants (a.layOut index) where
  type := ⟨_, h _ List.mem_cons_self⟩
  pairs := layOutPairs_spelled a.pairs fun l hl => h l (List.mem_cons_of_mem _ hl)

end

/-! ## The layout -/

/-- The leaves of a list of annotations, with the name of their attribute. -/
def annotationLeaves : Option (List AnnotationTree) → List Leaf
  | none => []
  | some annotations => .text annotationsName :: annotations.flatMap AnnotationTree.leaves

/-- The leaves of a blueprint. -/
def leaves (b : Blueprint) : List Leaf :=
  b.classEntries.map (fun r => .text r.text) ++
    b.fields.flatMap (fun f => [.text f.name, .text f.descriptor.text]) ++
    b.methods.flatMap (fun m => [.text m.name, .text m.descriptor.text]) ++
    annotationLeaves b.annotations

/-- The constants of the leaves, each once. -/
def base (b : Blueprint) : List Constant := b.leaves.eraseDups.map Leaf.constant

/-- The constant of a class entry, which refers to its text. -/
def classConstant (b : Blueprint) (r : Reference) : Constant :=
  .classRef (indexIn b.base (Leaf.text r.text).constant)

/-- The constants of the layout: the leaves, and behind them the class entries, each once. -/
def constants (b : Blueprint) : List Constant :=
  b.base ++ (b.classEntries.map b.classConstant).eraseDups

/-- The index of a leaf. -/
def index (b : Blueprint) (l : Leaf) : UInt16 := indexIn b.constants l.constant

/-- The index of a class entry. -/
def classIndex (b : Blueprint) (r : Reference) : UInt16 := indexIn b.constants (b.classConstant r)

/-- A laid-out member, without attributes. -/
def layOutMember (b : Blueprint) (flags : UInt16) (name : String) (descriptor : Descriptor) :
    Member :=
  ⟨flags, b.index (.text name), b.index (.text descriptor.text), []⟩

/-- The attribute that lists the annotations. -/
def annotationAttribute (b : Blueprint) (annotations : List AnnotationTree) : Attribute :=
  ⟨b.index (.text annotationsName),
    annotationBytes (annotations.map (AnnotationTree.layOut b.index))⟩

/-- The blueprint as it is laid out. -/
def layout (b : Blueprint) : ClassFile where
  minorVersion := b.minorVersion
  majorVersion := b.majorVersion
  slotCount := UInt16.ofNat (1 + width b.constants)
  constants := b.constants
  flags := b.flags
  thisIndex := b.classIndex (.plain b.name)
  superIndex := (b.superName.map fun name => b.classIndex (.plain name)).getD 0
  interfaceIndexes := b.interfaces.map fun name => b.classIndex (.plain name)
  fields := b.fields.map fun f => b.layOutMember f.flags f.name f.descriptor
  methods := b.methods.map fun m => b.layOutMember m.flags m.name m.descriptor
  attributes := b.annotations.toList.map b.annotationAttribute

/-- Counts and sizes fit their fields. -/
structure Fits (b : Blueprint) : Prop where
  /-- The slots can be numbered, slot 0 included. -/
  slots : width b.constants < 65535
  leaves : ∀ l ∈ b.leaves, l.Fits
  interfaces : b.interfaces.length < 65536
  fields : b.fields.length < 65536
  methods : b.methods.length < 65536
  annotations : ∀ annotations ∈ b.annotations, annotations.length < 65536 ∧
    (b.annotationAttribute annotations).body.length < 4294967296 ∧
    ∀ a ∈ annotations, (a.layOut b.index).WellFormed

/-! ## The layout encodes the blueprint -/

namespace Fits

variable {b : Blueprint}

/-- Every leaf stands at its index. -/
theorem standsAt_index (h : b.Fits) {l : Leaf} (hl : l ∈ b.leaves) :
    StandsAt b.constants (b.index l) l.constant := by
  apply standsAt_indexIn _ h.slots
  exact List.mem_append_left _ (List.mem_map.mpr ⟨l, List.mem_eraseDups.mpr hl, rfl⟩)

theorem textAt_index (h : b.Fits) {s : String} (hs : Leaf.text s ∈ b.leaves) :
    TextAt b.constants (b.index (.text s)) s :=
  ⟨_, h.standsAt_index hs⟩

/-- The text of a class entry stands where its constant says. -/
theorem textAt_classConstant (h : b.Fits) {r : Reference} (hr : r ∈ b.classEntries) :
    TextAt b.constants (indexIn b.base (Leaf.text r.text).constant) r.text := by
  have hleaf : Leaf.text r.text ∈ b.leaves := by
    simp only [Blueprint.leaves, List.mem_append]
    exact Or.inl (Or.inl (Or.inl (List.mem_map.mpr ⟨r, hr, rfl⟩)))
  have hbase : (Leaf.text r.text).constant ∈ b.base :=
    List.mem_map.mpr ⟨_, List.mem_eraseDups.mpr hleaf, rfl⟩
  -- a class refers to its text by the place among the leaves, which the classes do not move
  have hwidth : width b.base < 65535 := by
    have hslots := h.slots
    rw [Blueprint.constants, width_append] at hslots
    omega
  exact ⟨_, (standsAt_indexIn hbase hwidth).append _⟩

/-- Every class entry stands at its index. -/
theorem classAt_classIndex (h : b.Fits) {r : Reference} (hr : r ∈ b.classEntries) :
    ClassAt b.constants (b.classIndex r) r.text := by
  refine ⟨_, standsAt_indexIn ?_ h.slots, h.textAt_classConstant hr⟩
  exact List.mem_append_right _ (List.mem_eraseDups.mpr (List.mem_map.mpr ⟨r, hr, rfl⟩))

/-- The classes among the constants are the class entries. -/
theorem classRef_mem_iff {nameIndex : UInt16} :
    Constant.classRef nameIndex ∈ b.constants ↔
      ∃ r ∈ b.classEntries, nameIndex = indexIn b.base (Leaf.text r.text).constant := by
  rw [Blueprint.constants, List.mem_append, List.mem_eraseDups, List.mem_map]
  constructor
  · rintro (hbase | ⟨r, hr, heq⟩)
    · -- leaves are no classes
      obtain ⟨l, -, hl⟩ := List.mem_map.mp hbase
      cases l <;> cases hl
    · exact ⟨r, hr, (Constant.classRef.inj heq).symm⟩
  · rintro ⟨r, hr, rfl⟩
    exact Or.inr ⟨r, hr, rfl⟩

theorem namesClass_iff (h : b.Fits) {name : String} :
    NamesClass b.constants name ↔ ∃ r ∈ b.classEntries, r.text = name := by
  constructor
  · rintro ⟨nameIndex, hmem, htext⟩
    obtain ⟨r, hr, rfl⟩ := classRef_mem_iff.mp hmem
    exact ⟨r, hr, Pool.textAt_unique (h.textAt_classConstant hr) htext⟩
  · rintro ⟨r, hr, rfl⟩
    exact ⟨_, classRef_mem_iff.mpr ⟨r, hr, rfl⟩, h.textAt_classConstant hr⟩

/-- A laid-out member declares what it is laid out from, if its texts are leaves. -/
theorem layOutMember_declares (h : b.Fits) (flags : UInt16) {name : String}
    {descriptor : Descriptor}
    (hleaves : ∀ l ∈ [Leaf.text name, .text descriptor.text], l ∈ b.leaves) :
    (b.layOutMember flags name descriptor).Declares b.constants name descriptor.text flags.toNat :=
  ⟨h.textAt_index (hleaves _ (by simp)), h.textAt_index (hleaves _ (by simp)), rfl⟩

theorem field_declares (h : b.Fits) {f : Field} (hf : f ∈ b.fields) :
    (b.layOutMember f.flags f.name f.descriptor).Declares b.constants f.name f.descriptor.text
      f.flags.toNat := by
  apply h.layOutMember_declares
  intro l hl
  simp only [Blueprint.leaves, List.mem_append, List.mem_flatMap]
  exact Or.inl (Or.inl (Or.inr ⟨f, hf, hl⟩))

theorem method_declares (h : b.Fits) {m : Method} (hm : m ∈ b.methods) :
    (b.layOutMember m.flags m.name m.descriptor).Declares b.constants m.name m.descriptor.text
      m.flags.toNat := by
  apply h.layOutMember_declares
  intro l hl
  simp only [Blueprint.leaves, List.mem_append, List.mem_flatMap]
  exact Or.inl (Or.inr ⟨m, hm, hl⟩)

/-- Members without attributes can be written if they declare something. -/
theorem members_wellLaid {members : List Member} (hcount : members.length < 65536)
    (h : ∀ m ∈ members, m.attributes = [] ∧
      ∃ name descriptor flags, m.Declares b.constants name descriptor flags) :
    MembersWellLaid b.constants members := by
  refine ⟨hcount, fun m hm => ?_⟩
  obtain ⟨hattributes, name, descriptor, flags, hdeclares⟩ := h m hm
  refine ⟨⟨name, hdeclares.name⟩, ⟨descriptor, hdeclares.descriptor⟩, ?_⟩
  rw [hattributes]
  exact ⟨by decide, by simp⟩

/-- The leaves of the annotations are leaves of the blueprint. -/
theorem annotationLeaves_subset {annotations : List AnnotationTree}
    (hsome : b.annotations = some annotations) :
    ∀ l ∈ annotationLeaves (some annotations), l ∈ b.leaves := by
  intro l hl
  rw [Blueprint.leaves, hsome]
  exact List.mem_append_right _ hl

theorem holdsAnnotations (h : b.Fits) {annotations : List AnnotationTree}
    (hsome : b.annotations = some annotations) :
    (b.annotationAttribute annotations).HoldsAnnotations b.constants :=
  h.textAt_index (annotationLeaves_subset hsome _ List.mem_cons_self)

theorem annotations_spelled (h : b.Fits) {annotations : List AnnotationTree}
    (hsome : b.annotations = some annotations) :
    ∀ a ∈ annotations, a.Spelled b.constants (a.layOut b.index) := by
  intro a ha
  apply AnnotationTree.layOut_spelled
  intro l hl
  apply h.standsAt_index
  apply annotationLeaves_subset hsome
  exact List.mem_cons_of_mem _ (List.mem_flatMap.mpr ⟨a, ha, hl⟩)

theorem annotationAttribute_lists (h : b.Fits) {annotations : List AnnotationTree}
    (hsome : b.annotations = some annotations) :
    (b.annotationAttribute annotations).Lists b.constants
      (annotations.map (AnnotationTree.layOut b.index)) := by
  obtain ⟨hcount, -, hwellFormed⟩ := h.annotations annotations hsome
  refine ⟨rfl, by rwa [List.length_map], ?_, ?_⟩
  · intro e he
    obtain ⟨a, ha, rfl⟩ := List.mem_map.mp he
    exact hwellFormed a ha
  · intro e he
    obtain ⟨a, ha, rfl⟩ := List.mem_map.mp he
    exact ⟨_, (h.annotations_spelled hsome a ha).type⟩

theorem name_classAt (h : b.Fits) :
    ClassAt b.constants (b.classIndex (.plain b.name)) b.name :=
  h.classAt_classIndex (by simp [Blueprint.classEntries])

theorem superName_at (h : b.Fits) : SuperAt b.constants b.layout.superIndex b.superName := by
  rw [layout]
  cases hsuper : b.superName with
  | none => rfl
  | some name =>
      exact h.classAt_classIndex (r := .plain name) (by simp [Blueprint.classEntries, hsuper])

theorem interface_classAt (h : b.Fits) {name : String} (hname : name ∈ b.interfaces) :
    ClassAt b.constants (b.classIndex (.plain name)) name :=
  h.classAt_classIndex (r := .plain name) (by simp [Blueprint.classEntries, hname])

/-- The layout can be written. -/
theorem layout_wellLaid (h : b.Fits) : b.layout.WellLaid where
  constants := by
    intro c hc
    rcases List.mem_append.mp hc with hbase | hclass
    · obtain ⟨l, hl, rfl⟩ := List.mem_map.mp hbase
      exact (h.leaves l (List.mem_eraseDups.mp hl)).constant_wellFormed
    · obtain ⟨r, -, rfl⟩ := List.mem_map.mp (List.mem_eraseDups.mp hclass)
      trivial
  slotCount := by
    have hslots := h.slots
    have hfit : 1 + width b.constants < 65536 := by omega
    exact UInt16.toNat_ofNat_of_lt' hfit
  classes := by
    intro nameIndex hmem
    obtain ⟨r, hr, rfl⟩ := classRef_mem_iff.mp hmem
    exact ⟨r.text, h.textAt_classConstant hr⟩
  thisClass := by
    obtain ⟨nameIndex, hstands, -⟩ := h.name_classAt
    exact ⟨nameIndex, hstands⟩
  superClass := by
    have hsuper := h.superName_at
    cases hname : b.superName with
    | none => exact Or.inl (by rwa [hname] at hsuper)
    | some name =>
        rw [hname] at hsuper
        obtain ⟨nameIndex, hstands, -⟩ := hsuper
        exact Or.inr ⟨nameIndex, hstands⟩
  interfaceCount := by
    show (b.interfaces.map fun name => b.classIndex (.plain name)).length < 65536
    rw [List.length_map]
    exact h.interfaces
  interfaces := by
    intro index hindex
    obtain ⟨name, hname, rfl⟩ := List.mem_map.mp hindex
    obtain ⟨nameIndex, hstands, -⟩ := h.interface_classAt hname
    exact ⟨nameIndex, hstands⟩
  fields := by
    refine members_wellLaid (by simpa [layout] using h.fields) fun m hm => ?_
    obtain ⟨f, hf, rfl⟩ := List.mem_map.mp hm
    exact ⟨rfl, _, _, _, h.field_declares hf⟩
  methods := by
    refine members_wellLaid (by simpa [layout] using h.methods) fun m hm => ?_
    obtain ⟨md, hmd, rfl⟩ := List.mem_map.mp hm
    exact ⟨rfl, _, _, _, h.method_declares hmd⟩
  attributes := by
    refine ⟨?_, fun a ha => ?_⟩
    · show (b.annotations.toList.map b.annotationAttribute).length < 65536
      rw [List.length_map]
      cases b.annotations <;> simp
    · obtain ⟨annotations, hsome, rfl⟩ := List.mem_map.mp ha
      have hsome := Option.mem_toList.mp hsome
      exact ⟨⟨_, h.holdsAnnotations hsome⟩, (h.annotations annotations hsome).2.1⟩
  annotations := by
    intro a ha _
    obtain ⟨annotations, hsome, rfl⟩ := List.mem_map.mp ha
    exact ⟨_, h.annotationAttribute_lists (Option.mem_toList.mp hsome)⟩

/-- **A blueprint that fits is encoded by its layout.** -/
theorem layout_encodes (h : b.Fits) : b.layout.Encodes b where
  wellLaid := h.layout_wellLaid
  minorVersion := rfl
  majorVersion := rfl
  flags := rfl
  name := h.name_classAt
  superName := h.superName_at
  interfaces :=
    List.forall₂_map_left_iff.mpr (List.forall₂_same.mpr fun _ => h.interface_classAt)
  fields := List.forall₂_map_left_iff.mpr (List.forall₂_same.mpr fun _ => h.field_declares)
  methods := List.forall₂_map_left_iff.mpr (List.forall₂_same.mpr fun _ => h.method_declares)
  annotations := by
    rw [layout]
    cases hsome : b.annotations with
    | none => simp [AnnotatedBy]
    | some annotations =>
        exact ⟨[], _, [], _, rfl, h.holdsAnnotations hsome, by simp,
          h.annotationAttribute_lists hsome,
          List.forall₂_map_left_iff.mpr (List.forall₂_same.mpr (h.annotations_spelled hsome))⟩
  classes := fun _ => h.namesClass_iff

end Fits

end Blueprint

end JvmDeps
