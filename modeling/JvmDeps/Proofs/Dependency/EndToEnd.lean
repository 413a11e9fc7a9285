import JvmDeps.Proofs.ClassFile.Writing
import JvmDeps.Proofs.Dependency.Extraction

set_option autoImplicit false

/-! # From a written class to its dependencies

`Blueprint.dependencies` lists what a class depends on straight from its blueprint: the superclass,
the interfaces, the types of the annotations, every class in the type of a field or a method, and
the classes that its references stand for. The main result is that extraction finds exactly these
in the bytes of any layout of the blueprint.

Every category is one application of `collectNames_items`: the texts of some items are read back
into the names that the items hold.
-/

namespace JvmDeps

/-! ## Names that are read back -/

/-- The descriptor of a class is read as this class alone. -/
theorem Descriptor.decodeObject_typeText {name : String} (h : Name.Legal name) :
    Descriptor.decodeObject (Blueprint.typeText name) = .ok (Name.toDotted name) := by
  have hparse : Descriptor.parseObject (Blueprint.typeText name) = .ok name :=
    Descriptor.parseObject_eq_ok_iff.mpr ⟨h, rfl⟩
  rw [Descriptor.decodeObject, hparse]
  rfl

/-- A reference is read as the class that it stands for. -/
theorem ClassDecl.referenceNames_text {r : Blueprint.Reference} (h : r.Legal) :
    ClassDecl.referenceNames r.text = .ok (r.className?.toList.map Name.toDotted) := by
  cases r with
  | plain name =>
      have hlegal : Name.Legal name := h
      rw [Blueprint.Reference.text, ClassDecl.referenceNames, if_neg hlegal.head?_ne]
      rfl
  | array extra element =>
      have hlegal : (Descriptor.field ⟨extra + 1, element⟩).Legal := by
        simpa [Descriptor.Legal, Descriptor.types, FieldType.Legal, Blueprint.Reference.Legal]
          using h
      have hhead : (Blueprint.Reference.array extra element).text.toList.head? = some '[' := by
        rw [Blueprint.Reference.text, Descriptor.text, String.toList_ofList]
        rfl
      rw [ClassDecl.referenceNames, if_pos hhead, Blueprint.Reference.text,
        decodeNames_text hlegal]
      cases element <;> rfl

/-- If the text of every item is read as the names of the item, the names of all items are found. -/
theorem collectNames_items {ι : Type} {f : String → Except DependencyError (List String)}
    {items : List ι} {text : ι → String} {found : ι → List String} {texts : List String}
    (htexts : ∀ t, t ∈ texts ↔ ∃ i ∈ items, text i = t)
    (hf : ∀ i ∈ items, f (text i) = .ok ((found i).map Name.toDotted)) :
    (collectNames f texts).map SortedSet.ofList
      = .ok (.ofList ((items.flatMap found).map Name.toDotted)) := by
  have hfound : ∀ t ∈ texts, ∃ names, f t = .ok names := by
    intro t ht
    obtain ⟨i, hi, rfl⟩ := (htexts t).mp ht
    exact ⟨_, hf i hi⟩
  obtain ⟨all, hall, hmem⟩ := exists_collectNames hfound
  rw [hall, Except.map]
  congr 1
  -- the order in which the texts come, and how often, is lost in the set
  apply SortedSet.ext
  intro x
  rw [SortedSet.mem_ofList, SortedSet.mem_ofList, hmem, List.map_flatMap, List.mem_flatMap]
  constructor
  · rintro ⟨t, ht, names, hnames, hx⟩
    obtain ⟨i, hi, rfl⟩ := (htexts t).mp ht
    rw [hf i hi] at hnames
    obtain rfl := Except.ok.inj hnames
    exact ⟨i, hi, hx⟩
  · rintro ⟨i, hi, hx⟩
    exact ⟨text i, (htexts _).mpr ⟨i, hi, rfl⟩, _, hf i hi, hx⟩

/-! ## Names of a blueprint -/

namespace Blueprint

/-- The internal names of the classes that a blueprint holds for a category. -/
def namesIn (b : Blueprint) : Category → List String
  | .annotationType => (b.annotations.getD []).map AnnotationTree.type
  | .superClass => b.superName.toList
  | .interface => b.interfaces
  | .fieldType => b.fields.flatMap fun f => f.descriptor.classNames
  | .methodSignature => b.methods.flatMap fun m => m.descriptor.classNames
  | .bodyReference => b.classEntries.flatMap fun r => r.className?.toList

/-- The internal names of the classes that a blueprint depends on. -/
def dependsOn (b : Blueprint) : List String :=
  b.superName.toList ++ b.interfaces ++ (b.annotations.getD []).map AnnotationTree.type ++
    b.fields.flatMap (fun f => f.descriptor.classNames) ++
    b.methods.flatMap (fun m => m.descriptor.classNames) ++
    b.references.filterMap Reference.className?

/-- The dotted names of what a blueprint depends on, with or without the class itself. -/
def dependencies (b : Blueprint) (includeSelf : Bool) : NameSet :=
  let names : NameSet := .ofList (b.dependsOn.map Name.toDotted)
  if includeSelf then names.insert (Name.toDotted b.name)
  else names.erase (Name.toDotted b.name)

variable {b : Blueprint}

/-- Every name that a blueprint holds is legal. -/
theorem Legal.namesIn (h : b.Legal) (category : Category) :
    ∀ name ∈ b.namesIn category, Name.Legal name := by
  intro name hname
  cases category with
  | annotationType =>
      obtain ⟨a, ha, rfl⟩ := List.mem_map.mp hname
      exact h.annotations a ha
  | superClass => exact h.superName name (Option.mem_toList.mp hname)
  | interface => exact h.interfaces name hname
  | fieldType =>
      obtain ⟨f, hf, hclass⟩ := List.mem_flatMap.mp hname
      exact Descriptor.classNames_legal (h.fields f hf).2 name hclass
  | methodSignature =>
      obtain ⟨m, hm, hclass⟩ := List.mem_flatMap.mp hname
      exact Descriptor.classNames_legal (h.methods m hm).2 name hclass
  | bodyReference =>
      obtain ⟨r, hr, hclass⟩ := List.mem_flatMap.mp hname
      have hlegal := h.classEntries r hr
      cases r with
      | plain name' =>
          obtain rfl : name' = name := by simpa [Reference.className?, eq_comm] using hclass
          exact hlegal
      | array extra element =>
          cases element with
          | primitive p => simp [Reference.className?, ElementType.className?] at hclass
          | object name' =>
              obtain rfl : name' = name := by
                simpa [Reference.className?, ElementType.className?, eq_comm] using hclass
              exact hlegal

/-- The types of the annotations are read back. -/
theorem Legal.annotationNames_decl (h : b.Legal) (references : List String) :
    (b.decl references).annotationNames
      = .ok (.ofList (((b.annotations.getD []).map AnnotationTree.type).map Name.toDotted)) := by
  have htexts : (b.decl references).annotations.getD []
      = (b.annotations.getD []).map fun a => typeText a.type := by
    rw [decl]
    cases b.annotations <;> rfl
  have hitems : (b.annotations.getD []).map AnnotationTree.type
      = (b.annotations.getD []).flatMap fun a => [a.type] := List.map_eq_flatMap
  rw [ClassDecl.annotationNames, htexts, hitems]
  refine collectNames_items (fun _ => List.mem_map) ?_
  intro a ha
  rw [Descriptor.decodeObject_typeText (h.annotations a ha)]
  rfl

/-- The superclass is read back; it is never taken for a missing one. -/
theorem Legal.superclassNames_decl (h : b.Legal) (references : List String) :
    (b.decl references).superclassNames = .ofList (b.superName.toList.map Name.toDotted) := by
  rw [ClassDecl.superclassNames, ClassDecl.superclass?, decl]
  cases hsuper : b.superName with
  | none => rfl
  | some name =>
      have hname : name ≠ "" := (h.superName name hsuper).1
      simp only [if_neg hname]
      rfl

/-- **Every category is read back.** -/
theorem Legal.namesIn_decl (h : b.Legal) {references : List String}
    (hreferences : ∀ t, t ∈ references ↔ ∃ r ∈ b.classEntries, r.text = t) (category : Category) :
    (b.decl references).namesIn category =
      .ok (.ofList ((b.namesIn category).map Name.toDotted)) := by
  cases category with
  -- superclass and interfaces are names already; all else is read off texts
  | annotationType => exact h.annotationNames_decl references
  | superClass => exact congrArg Except.ok (h.superclassNames_decl references)
  | interface => rfl
  | fieldType =>
      refine collectNames_items ?_ fun f hf => decodeNames_text (h.fields f hf).2
      intro t
      simp [decl, Field.decl]
  | methodSignature =>
      refine collectNames_items ?_ fun m hm => decodeNames_text (h.methods m hm).2
      intro t
      simp [decl, Method.decl]
  | bodyReference =>
      exact collectNames_items hreferences
        fun r hr => ClassDecl.referenceNames_text (h.classEntries r hr)

/-- The class entries name the class, its kin, and what its references stand for. -/
theorem mem_namesIn_bodyReference {name : String} :
    name ∈ b.namesIn .bodyReference ↔ name = b.name ∨ name ∈ b.superName.toList ∨
      name ∈ b.interfaces ∨ name ∈ b.references.filterMap Reference.className? := by
  have hplain : ∀ names : List String,
      (names.map Reference.plain).flatMap (fun r => r.className?.toList) = names := by
    intro names
    simp [List.flatMap_map, Reference.className?]
  have hreferences : b.references.flatMap (fun r => r.className?.toList)
      = b.references.filterMap Reference.className? := (List.filterMap_eq_flatMap_toList _ _).symm
  rw [namesIn, classEntries, List.cons_append, List.cons_append, List.flatMap_cons,
    List.flatMap_append, List.flatMap_append, hplain, hplain, hreferences]
  simp [Reference.className?]

/-- The names of all categories are those that the blueprint depends on, and its own. -/
theorem exists_mem_namesIn_iff {name : String} :
    (∃ category, name ∈ b.namesIn category) ↔ name = b.name ∨ name ∈ b.dependsOn := by
  simp only [dependsOn, List.mem_append, or_assoc]
  constructor
  · rintro ⟨category, hname⟩
    cases category with
    | bodyReference =>
        rcases mem_namesIn_bodyReference.mp hname with hself | hsuper | hinterface | hreference
        · exact Or.inl hself
        · exact Or.inr (Or.inl hsuper)
        · exact Or.inr (Or.inr (Or.inl hinterface))
        · simp [hreference]
    | superClass => exact Or.inr (Or.inl hname)
    | interface => exact Or.inr (Or.inr (Or.inl hname))
    | annotationType => exact Or.inr (Or.inr (Or.inr (Or.inl hname)))
    | fieldType => exact Or.inr (Or.inr (Or.inr (Or.inr (Or.inl hname))))
    | methodSignature => exact Or.inr (Or.inr (Or.inr (Or.inr (Or.inr (Or.inl hname)))))
  · rintro (hself | hsuper | hinterface | hannotation | hfield | hmethod | hreference)
    · exact ⟨.bodyReference, mem_namesIn_bodyReference.mpr (Or.inl hself)⟩
    · exact ⟨.superClass, hsuper⟩
    · exact ⟨.interface, hinterface⟩
    · exact ⟨.annotationType, hannotation⟩
    · exact ⟨.fieldType, hfield⟩
    · exact ⟨.methodSignature, hmethod⟩
    · exact ⟨.bodyReference, mem_namesIn_bodyReference.mpr (by simp [hreference])⟩

theorem mem_dependencies {includeSelf : Bool} {x : String} :
    x ∈ b.dependencies includeSelf ↔
      (x = Name.toDotted b.name ∨ x ∈ b.dependsOn.map Name.toDotted) ∧
        (includeSelf = false → x ≠ Name.toDotted b.name) := by
  cases includeSelf with
  | true => simp [dependencies, SortedSet.mem_insert]
  | false =>
      simp only [dependencies, Bool.false_eq_true, if_false, SortedSet.mem_erase,
        SortedSet.mem_ofList, forall_const]
      constructor
      · rintro ⟨hx, hself⟩
        exact ⟨Or.inr hx, hself⟩
      · rintro ⟨hx, hself⟩
        exact ⟨hx.resolve_left hself, hself⟩

/-- **Extraction from the declared class** finds what the blueprint depends on. -/
theorem Legal.allDependencies_decl (h : b.Legal) {references : List String}
    (hreferences : ∀ t, t ∈ references ↔ ∃ r ∈ b.classEntries, r.text = t) (includeSelf : Bool) :
    (b.decl references).allDependencies includeSelf = .ok (b.dependencies includeSelf) := by
  have hvalid : ∀ category,
      ∀ x ∈ (SortedSet.ofList ((b.namesIn category).map Name.toDotted) : NameSet),
      Name.defect? x = none := by
    intro category x hx
    obtain ⟨name, hmem, rfl⟩ := List.mem_map.mp (SortedSet.mem_ofList.mp hx)
    exact (h.namesIn category name hmem).defect?_toDotted
  have hname : (b.decl references).dottedName ≠ "" := h.name.toDotted_ne
  obtain ⟨all, hall, hmem⟩ :=
    ClassDecl.allDependencies_eq_ok includeSelf hname (h.namesIn_decl hreferences) hvalid
  rw [hall]
  congr 1
  apply SortedSet.ext
  intro x
  rw [hmem, mem_dependencies]
  refine and_congr ?_ Iff.rfl
  -- dotted forms are taken on both sides, so it is enough to compare the internal names
  calc (∃ category, x ∈ SortedSet.ofList ((b.namesIn category).map Name.toDotted))
      ↔ ∃ name, (∃ category, name ∈ b.namesIn category) ∧ Name.toDotted name = x := by
        simp only [SortedSet.mem_ofList, List.mem_map]
        constructor
        · rintro ⟨category, name, hname, hx⟩
          exact ⟨name, ⟨category, hname⟩, hx⟩
        · rintro ⟨name, ⟨category, hname⟩, hx⟩
          exact ⟨category, name, hname, hx⟩
    _ ↔ x = Name.toDotted b.name ∨ x ∈ b.dependsOn.map Name.toDotted := by
        simp only [exists_mem_namesIn_iff, List.mem_map, or_and_right, exists_or, exists_eq_left]
        exact or_congr eq_comm Iff.rfl

/-- **From written bytes to dependencies.** Whatever layout a legal blueprint is given, its bytes
are read if the values in its annotations are within the depth of the reader, and extraction then
finds exactly what the blueprint depends on. If a value is deeper, no class is read from any of its
layouts. Such a layout exists whenever counts and sizes fit their fields. -/
theorem Legal.allDependencies_ofBytes (h : b.Legal) (depth : Nat) (source : String)
    (includeSelf : Bool) :
    (b.NestedWithin depth → ∀ f : ClassFile, f.Encodes b →
      ∃ d, ClassDecl.ofBytes depth source f.bytes = .ok d ∧
        d.allDependencies includeSelf = .ok (b.dependencies includeSelf)) ∧
    (¬ b.NestedWithin depth → ∀ f : ClassFile, f.Encodes b →
      ClassDecl.ofBytes depth source f.bytes = .error (.misuse .nestedTooDeep)) ∧
    (b.Fits → b.layout.Encodes b) := by
  refine ⟨fun hwithin f hf => ?_, fun hdeep f hf => ?_, Fits.layout_encodes⟩
  · obtain ⟨references, hdeclares, hreferences⟩ := hf.exists_declares
    refine ⟨b.decl references, ?_, h.allDependencies_decl hreferences includeSelf⟩
    exact hdeclares.ofBytes_eq_ok hf.wellLaid ((hf.nestedWithin_iff depth).mpr hwithin)
      (h.sound references) source
  · exact hf.wellLaid.readable.ofBytes_eq_tooDeep (mt (hf.nestedWithin_iff depth).mp hdeep) source

/-- A class with a superclass, an array field, an annotation with nested values, and a reference to
an array type. -/
def sample : Blueprint where
  minorVersion := 0
  majorVersion := 61
  flags := 0x21
  name := "p/A"
  superName := some "B"
  interfaces := ["I"]
  fields := [⟨2, "x", ⟨1, .object "C"⟩⟩]
  methods := [⟨1, "m", [⟨0, .object "p/A"⟩], none⟩, ⟨1, "m", [], some ⟨0, .primitive .int⟩⟩]
  annotations := some [⟨"D", [("v", .array [.text "t", .nested "E" []])]⟩]
  references := [.array 0 (.object "q/F"), .array 1 (.primitive .long)]

theorem sample_legal : sample.Legal where
  name := by decide
  superName := by decide
  interfaces := by decide
  fields := by decide
  methods := by decide
  keys := by decide
  annotations := List.forall_mem_singleton.mpr (by decide : Name.Legal "D")
  references := by decide

theorem sample_fits : sample.Fits where
  slots := by decide
  leaves := by decide
  interfaces := by decide
  fields := by decide
  methods := by decide
  annotations := by
    rintro annotations ⟨⟩
    refine ⟨by decide, by decide, List.forall_mem_singleton.mpr ?_⟩
    simp [AnnotationTree.layOut, layOutPairs, Value.layOut, layOutValues, textTag,
      ClassFile.AnnotationEntry.WellFormed, ClassFile.ElementValue.PairsWellFormed,
      ClassFile.ElementValue.ValuesWellFormed, ClassFile.ElementValue.WellFormed,
      ClassFile.ElementValue.constTags]

theorem sample_nestedWithin : sample.NestedWithin 2 := by
  rintro annotations ⟨⟩ a ha
  obtain rfl := List.mem_singleton.mp ha
  decide

theorem Legal.allDependencies_ofBytes_sample :
    sample.Legal ∧ sample.Fits ∧ sample.NestedWithin 2 ∧ ∀ includeSelf,
      ∃ d, ClassDecl.ofBytes 2 "sample" sample.layout.bytes = .ok d ∧
        d.allDependencies includeSelf = .ok (.ofList
          (["B", "I", "D", "C", "q.F"] ++ if includeSelf then ["p.A"] else [])) := by
  refine ⟨sample_legal, sample_fits, sample_nestedWithin, fun includeSelf => ?_⟩
  obtain ⟨hread, -, hlayout⟩ := sample_legal.allDependencies_ofBytes 2 "sample" includeSelf
  obtain ⟨d, hd, hdependencies⟩ := hread sample_nestedWithin sample.layout (hlayout sample_fits)
  refine ⟨d, hd, hdependencies.trans (congrArg Except.ok ?_)⟩
  cases includeSelf <;> decide +kernel

/-! ## Deep values -/

/-- Arrays in arrays, around a value. -/
def Value.arraysAround (v : Value) : Nat → Value
  | 0 => v
  | n + 1 => .array [v.arraysAround n]

theorem Value.levels_arraysAround (v : Value) (n : Nat) :
    (v.arraysAround n).levels = v.levels + n := by
  induction n with
  | zero => rfl
  | succ n ih => rw [arraysAround, levels, levelsOfValues, levelsOfValues, ih, Nat.max_zero]; rfl

theorem Value.leaves_arraysAround (v : Value) (n : Nat) : (v.arraysAround n).leaves = v.leaves := by
  induction n with
  | zero => rfl
  | succ n ih => rw [arraysAround, leaves, leavesOfValues, leavesOfValues, ih, List.append_nil]

theorem Value.layOut_arraysAround (index : Leaf → UInt16) (v : Value) (n : Nat) :
    (v.arraysAround n).layOut index = (v.layOut index).arraysAround n := by
  induction n with
  | zero => rfl
  | succ n ih => rw [arraysAround, layOut, layOutValues, layOutValues, ih]; rfl

/-- A class with one annotation, whose value is a text in some arrays. -/
def sampleAround (n : Nat) : Blueprint :=
  { sample with annotations := some [⟨"D", [("v", Value.arraysAround (.text "t") n)]⟩] }

theorem sampleAround_legal (n : Nat) : (sampleAround n).Legal where
  name := sample_legal.name
  superName := sample_legal.superName
  interfaces := sample_legal.interfaces
  fields := sample_legal.fields
  methods := sample_legal.methods
  keys := sample_legal.keys
  annotations := List.forall_mem_singleton.mpr (by decide : Name.Legal "D")
  references := sample_legal.references

theorem nestedWithin_sampleAround_iff {n depth : Nat} :
    (sampleAround n).NestedWithin depth ↔ n < depth := by
  have hlevels :
      AnnotationTree.levels ⟨"D", [("v", Value.arraysAround (.text "t") n)]⟩ = n + 1 := by
    rw [AnnotationTree.levels, levelsOfPairs, levelsOfPairs, Value.levels_arraysAround,
      Nat.max_zero, Value.levels, Nat.add_comm]
  rw [← Nat.succ_le_iff]
  simp [NestedWithin, sampleAround, hlevels]

/-- The arrays around a value need no constant. -/
theorem leaves_sampleAround (n : Nat) : (sampleAround n).leaves = (sampleAround 0).leaves := by
  simp only [leaves, sampleAround, annotationLeaves, List.flatMap_cons, List.flatMap_nil,
    AnnotationTree.leaves, leavesOfPairs, Value.leaves_arraysAround]
  rfl

theorem constants_sampleAround (n : Nat) :
    (sampleAround n).constants = (sampleAround 0).constants := by
  have hbase : (sampleAround n).base = (sampleAround 0).base := by
    rw [base, base, leaves_sampleAround]
  have hconstant : (sampleAround n).classConstant = (sampleAround 0).classConstant := by
    funext r
    rw [classConstant, classConstant, hbase]
  rw [constants, constants, hbase, hconstant]
  rfl

theorem sampleAround_fits {n : Nat} (h : n < 1000000) : (sampleAround n).Fits where
  slots := by
    rw [constants_sampleAround]
    decide
  leaves := by
    rw [leaves_sampleAround]
    decide
  interfaces := by simp [sampleAround, sample]
  fields := by simp [sampleAround, sample]
  methods := by simp [sampleAround, sample]
  annotations := by
    rintro annotations ⟨⟩
    -- around the value there are three bytes for each array
    have hvalue := (Value.text "t").layOut_arraysAround (sampleAround n).index n
    refine ⟨by simp, ?_, List.forall_mem_singleton.mpr
      ⟨by simp [AnnotationTree.layOut, layOutPairs], ?_, trivial⟩⟩
    · show (ClassFile.annotationBytes
        [⟨_, [(_, (Value.arraysAround (.text "t") n).layOut _)]⟩]).length < _
      rw [ClassFile.length_annotationBytes_singleton, hvalue,
        ClassFile.ElementValue.length_bytes_arraysAround]
      simp only [Value.layOut, ClassFile.ElementValue.bytes, bytes2, List.length_cons,
        List.length_nil]
      omega
    · rw [hvalue]
      apply ClassFile.ElementValue.wellFormed_arraysAround
      exact (by decide : textTag ∈ ClassFile.ElementValue.constTags)

/-- **A depth of a thousand levels is not enough for every class**: one with a text in a thousand
arrays is legal and fits, but no class is read from its layout. -/
theorem Legal.allDependencies_ofBytes_deep :
    (sampleAround 1000).Legal ∧ (sampleAround 1000).Fits ∧
      (sampleAround 1000).layout.Encodes (sampleAround 1000) ∧
      ClassDecl.ofBytes 1000 "deep" (sampleAround 1000).layout.bytes
        = .error (.misuse .nestedTooDeep) := by
  have hfits : (sampleAround 1000).Fits := sampleAround_fits (by decide)
  have hencodes := hfits.layout_encodes
  have hdeep : ¬ (sampleAround 1000).NestedWithin 1000 := fun hwithin =>
    absurd (nestedWithin_sampleAround_iff.mp hwithin) (by decide)
  exact ⟨sampleAround_legal 1000, hfits, hencodes, hencodes.wellLaid.readable.ofBytes_eq_tooDeep
    (mt (hencodes.nestedWithin_iff 1000).mp hdeep) "deep"⟩

end Blueprint

end JvmDeps
