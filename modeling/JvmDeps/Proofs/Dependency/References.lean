import JvmDeps.Proofs.ClassFile.Acceptance
import JvmDeps.Proofs.Dependency.EndToEnd
import JvmDeps.Proofs.Dependency.Survey

set_option autoImplicit false

/-! # Structural names among the references

The name of a class, its superclass and its interfaces are looked up among the classes of the
constants, and its references are all of these. So a class that was read refers to every class that
it is declared with (`ClassFile.Declares.referenced`), whatever bytes it was read from.

The dependencies of the two structural categories are dotted names of references, then. A reference
may be an array, which stands for its element class; but the name of an array is no valid
dependency, so in a table every structural name stands for itself, and is among the names of the
references as well (`ClassDecl.mem_bodyReference_of_reference`).
-/

namespace JvmDeps

/-! ## Classes that were read -/

/-- The class refers to every class that it is declared with, itself included, and to no class
twice. -/
structure ClassDecl.Referenced (c : ClassDecl) : Prop where
  nodup : c.references.Nodup
  name : c.name ∈ c.references
  superName : ∀ name ∈ c.superName, name ∈ c.references
  interfaces : ∀ name ∈ c.interfaces, name ∈ c.references

namespace ClassFile

variable {f : ClassFile} {d : ClassDecl}

/-- What an index means as a class is a reference. -/
theorem Declares.mem_references (h : f.Declares d) {index : UInt16} {name : String}
    (hclass : ClassAt f.constants index name) : name ∈ d.references := by
  obtain ⟨nameIndex, hstands, htext⟩ := hclass
  obtain ⟨names, hnames, hreferences⟩ := h.references
  rw [hreferences, List.mem_eraseDups, hnames.mem_iff]
  exact ⟨nameIndex, hstands.mem, htext⟩

/-- **A layout declares no class without a reference to it.** -/
theorem Declares.referenced (h : f.Declares d) : d.Referenced where
  nodup := by
    obtain ⟨names, -, hreferences⟩ := h.references
    rw [hreferences]
    exact nodup_eraseDups names
  name := h.mem_references h.name
  superName := by
    intro name hname
    have hsuper := h.superName
    rw [Option.mem_def.mp hname] at hsuper
    exact h.mem_references hsuper
  interfaces := by
    intro name hname
    obtain ⟨index, -, hclass⟩ := exists_left_of_forall₂ h.interfaces hname
    exact h.mem_references hclass

end ClassFile

theorem ClassDecl.referenced_of_ofBytes {depth : Nat} {source : String} {b : Bytes} {c : ClassDecl}
    (h : ClassDecl.ofBytes depth source b = .ok c) : c.Referenced := by
  obtain ⟨f, -, -, -, hdeclares, -⟩ :=
    ClassFile.exists_readable_of_readDecl (mapError_eq_ok_iff.mp h)
  exact hdeclares.referenced

/-! ## Names of references -/

namespace ClassDecl

variable {c : ClassDecl} {includeSelf : Bool} {categories : Option (List Category)}
  {t : DependencyTable}

/-- A reference of valid name stands for itself. -/
theorem toDotted_mem_bodyNames {names : NameSet} {name : String} (h : c.bodyNames = .ok names)
    (hname : name ∈ c.references) (hvalid : Name.defect? (Name.toDotted name) = none) :
    Name.toDotted name ∈ names := by
  obtain ⟨all, hall, rfl⟩ := map_eq_ok_iff.mp h
  obtain ⟨found, hfound, hmem⟩ := exists_of_collectNames hall name hname
  rw [referenceNames, if_neg (Name.defect?_toDotted_eq_none_iff.mp hvalid).2] at hfound
  obtain rfl := Except.ok.inj hfound
  exact SortedSet.mem_ofList.mpr (hmem _ List.mem_cons_self)

/-! ## Extractions -/

/-- **A requested category has its names in the table**, without the class itself unless it is asked
for, and all of them are valid. -/
theorem exists_namesIn_of_extract
    (h : c.extract includeSelf (categories.map (List.map .category)) = .ok t)
    {category : Category} (hcategory : category ∈ categories.getD Category.all) :
    ∃ names, c.namesIn category = .ok names ∧ t.get category = c.dropSelf includeSelf names
      ∧ ∀ x ∈ t.get category, Name.defect? x = none := by
  have hof := (extract_eq_ok_iff categories).mp h
  obtain ⟨names, hnames, hget⟩ :=
    map_eq_ok_iff.mp (hof.computed category ((mem_selected_iff categories).mpr hcategory))
  exact ⟨names, hnames, hget.symm, fun x => DependencyTable.defect?_of_mem_get⟩

/-- A name that a table has of a reference is among the names of the references. -/
theorem mem_bodyReference_of_reference
    (h : c.extract includeSelf (categories.map (List.map .category)) = .ok t)
    (hall : ∀ category, category ∈ categories.getD Category.all) {category : Category}
    {name : String} (hname : name ∈ c.references) (hmem : Name.toDotted name ∈ t.get category) :
    Name.toDotted name ∈ t.get .bodyReference := by
  obtain ⟨names, -, hget, hvalid⟩ := exists_namesIn_of_extract h (hall category)
  obtain ⟨body, hbody, hgetBody, -⟩ := exists_namesIn_of_extract h (hall .bodyReference)
  have hfound : Name.toDotted name ∈ c.dropSelf includeSelf names := hget ▸ hmem
  rw [hgetBody, mem_dropSelf]
  exact ⟨toDotted_mem_bodyNames hbody hname (hvalid _ hmem), (mem_dropSelf.mp hfound).2⟩

/-- A name of the superclass category is the superclass. -/
theorem exists_superName_of_extract
    (h : c.extract includeSelf (categories.map (List.map .category)) = .ok t)
    (hasked : .superClass ∈ categories.getD Category.all) {x : String}
    (hx : x ∈ t.get .superClass) : ∃ name ∈ c.superName, Name.toDotted name = x := by
  obtain ⟨names, hnames, hget, -⟩ := exists_namesIn_of_extract h hasked
  obtain rfl : c.superclassNames = names := Except.ok.inj hnames
  rw [hget, mem_dropSelf, superclassNames, SortedSet.mem_ofList, Option.mem_toList] at hx
  have hsuper := hx.1
  unfold superclass? at hsuper
  split at hsuper
  · cases hsuper
  · rename_i name hname
    split at hsuper
    · cases hsuper
    · exact ⟨name, hname, Option.some.inj hsuper⟩

/-- A name of the interface category is an interface. -/
theorem exists_interface_of_extract
    (h : c.extract includeSelf (categories.map (List.map .category)) = .ok t)
    (hasked : .interface ∈ categories.getD Category.all) {x : String}
    (hx : x ∈ t.get .interface) : ∃ name ∈ c.interfaces, Name.toDotted name = x := by
  obtain ⟨names, hnames, hget, -⟩ := exists_namesIn_of_extract h hasked
  obtain rfl : c.interfaceNames = names := Except.ok.inj hnames
  rw [hget, mem_dropSelf, interfaceNames, SortedSet.mem_ofList] at hx
  exact List.mem_map.mp hx.1

/-- **The references of a class that was read hold its structure.** They are without repetition and
name the class itself, its superclass if it has one, and its interfaces. And in a table of all
categories, whether it keeps the class itself or not, the dependencies of the structure are among
those of the references. -/
theorem ofBytes_references_hold_structure {depth : Nat} {source : String} {b : Bytes}
    (h : ClassDecl.ofBytes depth source b = .ok c) :
    (c.references.Nodup ∧ c.name ∈ c.references ∧ (∀ name ∈ c.superName, name ∈ c.references)
        ∧ ∀ name ∈ c.interfaces, name ∈ c.references)
      ∧ ∀ (includeSelf : Bool) (categories : Option (List Category)) (t : DependencyTable),
        (∀ category, category ∈ categories.getD Category.all) →
        c.extract includeSelf (categories.map (List.map .category)) = .ok t →
          (∀ x ∈ t.get .superClass, x ∈ t.get .bodyReference)
            ∧ ∀ x ∈ t.get .interface, x ∈ t.get .bodyReference := by
  have hreferenced := referenced_of_ofBytes h
  refine ⟨⟨hreferenced.nodup, hreferenced.name, hreferenced.superName, hreferenced.interfaces⟩, ?_⟩
  intro includeSelf categories t hall ht
  constructor
  · intro x hx
    obtain ⟨name, hname, rfl⟩ := exists_superName_of_extract ht (hall _) hx
    exact mem_bodyReference_of_reference ht hall (hreferenced.superName name hname) hx
  · intro x hx
    obtain ⟨name, hname, rfl⟩ := exists_interface_of_extract ht (hall _) hx
    exact mem_bodyReference_of_reference ht hall (hreferenced.interfaces name hname) hx

/-- The sample has a superclass and an interface, and refers to both. -/
theorem ofBytes_references_hold_structure_sample :
    ∃ c t, ClassDecl.ofBytes 2 "sample" Blueprint.sample.layout.bytes = .ok c
      ∧ c.extract false none = .ok t
      ∧ "B" ∈ t.get .superClass ∧ "B" ∈ t.get .bodyReference
      ∧ "I" ∈ t.get .interface ∧ "I" ∈ t.get .bodyReference := by
  have hrun : (ClassDecl.ofBytes 2 "sample" Blueprint.sample.layout.bytes
      >>= fun c => (c.extract false none).map fun t =>
        ((t.get .superClass).toList, (t.get .interface).toList)) = .ok (["B"], ["I"]) := by
    decide +kernel
  obtain ⟨c, hc, htable⟩ := bind_eq_ok_iff.mp hrun
  obtain ⟨t, ht, hnames⟩ := map_eq_ok_iff.mp htable
  obtain ⟨hsuper, hinterface⟩ := Prod.mk.inj hnames
  have hB : "B" ∈ t.get .superClass := by simp [SortedSet.mem_def, hsuper]
  have hI : "I" ∈ t.get .interface := by simp [SortedSet.mem_def, hinterface]
  obtain ⟨-, hholds⟩ := ofBytes_references_hold_structure hc
  obtain ⟨hsuperHeld, hinterfaceHeld⟩ := hholds false none t Category.mem_all ht
  exact ⟨c, t, hc, ht, hB, hsuperHeld _ hB, hI, hinterfaceHeld _ hI⟩

end ClassDecl

end JvmDeps
