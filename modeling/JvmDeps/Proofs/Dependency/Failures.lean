import JvmDeps.Proofs.Dependency.Members

set_option autoImplicit false

/-! # When an extraction fails

There are two ways for an extraction of categories to fail. A text of a selected category may not
be what the category needs (`ClassDecl.Malformed`): the type of an annotation is a single class,
and types of fields and methods, and references that start like arrays, are descriptors. Or the
texts are fine, and a name that is left after the class itself was dropped is no name of a
dependency (`ClassDecl.Unnameable`). Only names that are not read off descriptors can have that
defect: superclass, interfaces and plain references.

`ClassDecl.exists_namesIn_iff` and `ClassDecl.exists_defect_iff` say so for one category, and
`ClassDecl.extract_outcome_iff` says when a whole extraction fails, and how.
-/

namespace JvmDeps

/-! ## Texts -/

/-- The text is the type of a single class: `L`, a legal name and `;`. -/
def Descriptor.IsClass (text : String) : Prop :=
  ∃ name, Name.Legal name ∧ (Descriptor.field ⟨0, .object name⟩).text = text

instance (text : String) : Decidable (Descriptor.IsClass text) :=
  match h : Descriptor.parseObject text with
  | .ok name => isTrue ⟨name, Descriptor.parseObject_eq_ok_iff.mp h⟩
  | .error _ => isFalse fun ⟨_, hname⟩ =>
      nomatch h.symm.trans (Descriptor.parseObject_eq_ok_iff.mpr hname)

theorem Descriptor.exists_decodeObject_iff {text : String} :
    (∃ name, Descriptor.decodeObject text = .ok name) ↔ Descriptor.IsClass text := by
  constructor
  · rintro ⟨x, hx⟩
    obtain ⟨name, hname, -⟩ := map_eq_ok_iff.mp hx
    exact ⟨name, Descriptor.parseObject_eq_ok_iff.mp hname⟩
  · rintro ⟨name, hname⟩
    exact ⟨_, map_eq_ok_iff.mpr ⟨name, Descriptor.parseObject_eq_ok_iff.mpr hname, rfl⟩⟩

/-- The name of a single class is a valid name of a dependency. -/
theorem Descriptor.defect?_of_decodeObject {text x : String}
    (h : Descriptor.decodeObject text = .ok x) : Name.defect? x = none := by
  obtain ⟨name, hname, rfl⟩ := map_eq_ok_iff.mp h
  exact (Descriptor.parseObject_eq_ok_iff.mp hname).1.defect?_toDotted

namespace ClassDecl

variable {c : ClassDecl} {includeSelf : Bool} {category : Category} {names : NameSet}

/-- A text of the category is not what it has to be: the type of an annotation is not a single
class, the type of a field or a method is no descriptor, or a reference that starts like an array is
none. Superclass and interfaces are taken as they are. -/
def Malformed (c : ClassDecl) : Category → Prop
  | .annotationType => ∃ text ∈ c.annotations.getD [], ¬ Descriptor.IsClass text
  | .superClass => False
  | .interface => False
  | .fieldType => ∃ f ∈ c.fields, ¬ Descriptor.Derivable f.descriptor
  | .methodSignature => ∃ m ∈ c.methods, ¬ Descriptor.Derivable m.descriptor
  | .bodyReference => ∃ reference ∈ c.references,
      reference.toList.head? = some '[' ∧ ¬ Descriptor.Derivable reference

instance (c : ClassDecl) : (category : Category) → Decidable (c.Malformed category)
  | .annotationType => inferInstanceAs (Decidable (∃ text ∈ _, ¬ Descriptor.IsClass text))
  | .superClass | .interface => inferInstanceAs (Decidable False)
  | .fieldType => inferInstanceAs (Decidable (∃ f ∈ _, ¬ Descriptor.Derivable _))
  | .methodSignature => inferInstanceAs (Decidable (∃ m ∈ _, ¬ Descriptor.Derivable _))
  | .bodyReference => inferInstanceAs (Decidable (∃ reference ∈ _, _ ∧ _))

/-! ## Analyses that fail -/

theorem exists_referenceNames_iff {reference : String} :
    (∃ found, referenceNames reference = .ok found) ↔
      (reference.toList.head? = some '[' → Descriptor.Derivable reference) := by
  rw [referenceNames]
  by_cases harray : reference.toList.head? = some '['
  · simp [harray, exists_decodeNames_iff]
  · simp [harray]

/-- **The analysis of a category succeeds exactly if none of its texts is malformed.** -/
theorem exists_namesIn_iff (c : ClassDecl) (category : Category) :
    (∃ names, c.namesIn category = .ok names) ↔ ¬ c.Malformed category := by
  cases category with
  | superClass => exact iff_of_true ⟨_, rfl⟩ not_false
  | interface => exact iff_of_true ⟨_, rfl⟩ not_false
  | annotationType =>
      refine exists_map_collectNames_iff.trans ?_
      simp only [Malformed, not_exists, not_and, not_not]
      refine forall₂_congr fun text _ => Iff.trans ?_ Descriptor.exists_decodeObject_iff
      constructor
      · rintro ⟨_, hfound⟩
        obtain ⟨name, hname, -⟩ := map_eq_ok_iff.mp (mapError_eq_ok_iff.mp hfound)
        exact ⟨name, hname⟩
      · rintro ⟨name, hname⟩
        exact ⟨[name], mapError_eq_ok_iff.mpr (map_eq_ok_iff.mpr ⟨name, hname, rfl⟩)⟩
  | fieldType =>
      refine exists_decoded_iff.trans ?_
      simp only [Malformed, not_exists, not_and, not_not]
  | methodSignature =>
      refine exists_decoded_iff.trans ?_
      simp only [Malformed, not_exists, not_and, not_not]
  | bodyReference =>
      refine exists_map_collectNames_iff.trans ?_
      simp only [Malformed, not_exists, not_and, not_not, exists_referenceNames_iff]

/-- A collection that fails for malformed texts only names one of them. -/
theorem exists_badDescriptor_of_collectNames
    {f : String → Except DependencyError (List String)} {texts : List String} {e : DependencyError}
    (hf : ∀ text e, f text = .error e → ∃ position reason, e = .badDescriptor text position reason)
    (h : (collectNames f texts).map SortedSet.ofList = .error e) :
    ∃ text position reason, e = .badDescriptor text position reason := by
  obtain ⟨before, text, after, -, -, herror⟩ :=
    collectNames_eq_error_iff.mp (map_eq_error_iff.mp h)
  exact ⟨text, hf text e herror⟩

/-- **An analysis fails for a malformed descriptor and for nothing else.** -/
theorem exists_badDescriptor_of_namesIn {e : DependencyError} (h : c.namesIn category = .error e) :
    ∃ text position reason, e = .badDescriptor text position reason := by
  have hdecode : ∀ text e, decodeNames text = .error e →
      ∃ position reason, e = .badDescriptor text position reason := by
    intro text e herror
    obtain ⟨m, -, rfl⟩ := mapError_eq_error_iff.mp herror
    exact ⟨m.position, m.cause.text, rfl⟩
  cases category with
  | superClass => cases h
  | interface => cases h
  | annotationType =>
      refine exists_badDescriptor_of_collectNames (fun text e herror => ?_) h
      obtain ⟨m, -, rfl⟩ := mapError_eq_error_iff.mp herror
      exact ⟨m.position, m.cause.text, rfl⟩
  | fieldType => exact exists_badDescriptor_of_collectNames hdecode h
  | methodSignature => exact exists_badDescriptor_of_collectNames hdecode h
  | bodyReference =>
      refine exists_badDescriptor_of_collectNames (fun text e herror => ?_) h
      rw [referenceNames] at herror
      split at herror
      · exact hdecode text e herror
      · cases herror

/-! ## Names that are no dependencies -/

/-- The names that a category takes as they are, and not off descriptors. -/
def plainNames (c : ClassDecl) : Category → List String
  | .superClass => c.superName.toList.filter fun name => decide (name ≠ "")
  | .interface => c.interfaces
  | .bodyReference => c.references.filter fun reference =>
      decide (reference.toList.head? ≠ some '[')
  | _ => []

theorem toList_superclass? (c : ClassDecl) :
    c.superclass?.toList = (c.plainNames .superClass).map Name.toDotted := by
  rw [superclass?, plainNames]
  cases c.superName with
  | none => rfl
  | some name => by_cases hname : name = "" <;> simp [hname]

/-- A plain name stands for itself. -/
theorem toDotted_mem_of_plain {name : String} (h : c.namesIn category = .ok names)
    (hname : name ∈ c.plainNames category) : Name.toDotted name ∈ names := by
  cases category with
  | superClass =>
      obtain rfl : c.superclassNames = names := Except.ok.inj h
      rw [superclassNames, SortedSet.mem_ofList, toList_superclass?]
      exact List.mem_map_of_mem hname
  | interface =>
      obtain rfl : c.interfaceNames = names := Except.ok.inj h
      rw [interfaceNames, SortedSet.mem_ofList]
      exact List.mem_map_of_mem hname
  | bodyReference =>
      obtain ⟨hmem, hplain⟩ := List.mem_filter.mp hname
      have hfound : referenceNames name = .ok [Name.toDotted name] := by
        rw [referenceNames, if_neg (of_decide_eq_true hplain)]
      exact ((map_collectNames_eq_ok_iff.mp h).2 _).mpr
        ⟨name, hmem, _, hfound, List.mem_singleton_self _⟩
  | annotationType => cases hname
  | fieldType => cases hname
  | methodSignature => cases hname

/-- **A name that a category finds is valid, or a plain one.** -/
theorem defect?_or_plain_of_mem {x : String} (h : c.namesIn category = .ok names) (hx : x ∈ names) :
    Name.defect? x = none ∨ ∃ name ∈ c.plainNames category, Name.toDotted name = x := by
  have hdecoded : ∀ texts : List String, (collectNames decodeNames texts).map .ofList = .ok names →
      Name.defect? x = none := by
    intro texts hnames
    obtain ⟨text, -, found, hfound, hx⟩ := ((map_collectNames_eq_ok_iff.mp hnames).2 x).mp hx
    exact defect?_of_decodeNames hfound x hx
  cases category with
  | superClass =>
      obtain rfl : c.superclassNames = names := Except.ok.inj h
      rw [superclassNames, SortedSet.mem_ofList, toList_superclass?] at hx
      exact Or.inr (List.mem_map.mp hx)
  | interface =>
      obtain rfl : c.interfaceNames = names := Except.ok.inj h
      rw [interfaceNames, SortedSet.mem_ofList] at hx
      exact Or.inr (List.mem_map.mp hx)
  | annotationType =>
      obtain ⟨text, -, found, hfound, hx⟩ := ((map_collectNames_eq_ok_iff.mp h).2 x).mp hx
      obtain ⟨name, hname, rfl⟩ := map_eq_ok_iff.mp (mapError_eq_ok_iff.mp hfound)
      obtain rfl := List.mem_singleton.mp hx
      exact Or.inl (Descriptor.defect?_of_decodeObject hname)
  | fieldType => exact Or.inl (hdecoded _ h)
  | methodSignature => exact Or.inl (hdecoded _ h)
  | bodyReference =>
      obtain ⟨reference, hmem, found, hfound, hx⟩ := ((map_collectNames_eq_ok_iff.mp h).2 x).mp hx
      rw [referenceNames] at hfound
      split at hfound
      · exact Or.inl (defect?_of_decodeNames hfound x hx)
      · rename_i hplain
        obtain rfl := Except.ok.inj hfound
        obtain rfl := List.mem_singleton.mp hx
        exact Or.inr ⟨reference, List.mem_filter.mpr ⟨hmem, decide_eq_true hplain⟩, rfl⟩

/-- The name is left when the class itself has been dropped. -/
def Keeps (c : ClassDecl) (includeSelf : Bool) (name : String) : Prop :=
  includeSelf = false → Name.toDotted name ≠ c.dottedName

instance (c : ClassDecl) (includeSelf : Bool) (name : String) :
    Decidable (c.Keeps includeSelf name) :=
  inferInstanceAs (Decidable (_ → _ ≠ _))

/-- A name of the category that is left is no name of a dependency: the superclass is an array, an
interface is an array or has no name, or a reference has no name. -/
def Unnameable (c : ClassDecl) (includeSelf : Bool) : Category → Prop
  | .superClass => ∃ name ∈ c.superName, name.toList.head? = some '[' ∧ c.Keeps includeSelf name
  | .interface => ∃ name ∈ c.interfaces,
      (name = "" ∨ name.toList.head? = some '[') ∧ c.Keeps includeSelf name
  | .bodyReference => ∃ reference ∈ c.references, reference = "" ∧ c.Keeps includeSelf reference
  | .annotationType => False
  | .fieldType => False
  | .methodSignature => False

instance (c : ClassDecl) (includeSelf : Bool) :
    (category : Category) → Decidable (c.Unnameable includeSelf category)
  | .superClass => inferInstanceAs (Decidable (∃ name ∈ _, _ ∧ _))
  | .interface => inferInstanceAs (Decidable (∃ name ∈ _, _ ∧ _))
  | .bodyReference => inferInstanceAs (Decidable (∃ reference ∈ _, _ ∧ _))
  | .annotationType | .fieldType | .methodSignature => inferInstanceAs (Decidable False)

/-- Only plain names count, and only those that are left. -/
theorem unnameable_iff_plain :
    c.Unnameable includeSelf category ↔ ∃ name ∈ c.plainNames category,
      (name = "" ∨ name.toList.head? = some '[') ∧ c.Keeps includeSelf name := by
  cases category with
  | superClass =>
      simp only [Unnameable, plainNames, List.mem_filter, Option.mem_toList, decide_eq_true_eq]
      constructor
      · rintro ⟨name, hname, harray, hkept⟩
        have hne : name ≠ "" := by
          rintro rfl
          simp at harray
        exact ⟨name, ⟨hname, hne⟩, Or.inr harray, hkept⟩
      · rintro ⟨name, ⟨hname, hne⟩, hdefect, hkept⟩
        exact ⟨name, hname, hdefect.resolve_left hne, hkept⟩
  | interface => exact Iff.rfl
  | bodyReference =>
      simp only [Unnameable, plainNames, List.mem_filter, decide_eq_true_eq]
      constructor
      · rintro ⟨reference, hmem, rfl, hkept⟩
        exact ⟨"", ⟨hmem, by simp⟩, Or.inl rfl, hkept⟩
      · rintro ⟨reference, ⟨hmem, hplain⟩, hdefect, hkept⟩
        exact ⟨reference, hmem, hdefect.resolve_right hplain, hkept⟩
  | annotationType => simp [Unnameable, plainNames]
  | fieldType => simp [Unnameable, plainNames]
  | methodSignature => simp [Unnameable, plainNames]

/-- **The names that are left have a defect exactly if the category is unnameable.** -/
theorem exists_defect_iff (h : c.namesIn category = .ok names) :
    (∃ x ∈ c.dropSelf includeSelf names, Name.defect? x ≠ none) ↔
      c.Unnameable includeSelf category := by
  rw [unnameable_iff_plain]
  constructor
  · rintro ⟨x, hx, hdefect⟩
    obtain ⟨hx, hkept⟩ := mem_dropSelf.mp hx
    obtain ⟨name, hname, rfl⟩ := (defect?_or_plain_of_mem h hx).resolve_left hdefect
    rw [Ne, Name.defect?_toDotted_eq_none_iff, not_and_or, not_not, not_not] at hdefect
    exact ⟨name, hname, hdefect, hkept⟩
  · rintro ⟨name, hname, hdefect, hkept⟩
    refine ⟨Name.toDotted name, mem_dropSelf.mpr ⟨toDotted_mem_of_plain h hname, hkept⟩, ?_⟩
    rwa [Ne, Name.defect?_toDotted_eq_none_iff, not_and_or, not_not, not_not]

/-! ## Extractions that fail -/

/-- A class without defect has a dotted name. -/
theorem dottedName_ne_of_check (h : c.check = .ok c) : c.dottedName ≠ "" :=
  mt Name.toDotted_eq_empty_iff.mp (check_eq_ok_iff.mp h).name

/-- An extraction succeeds exactly if no selected category is malformed or unnameable. -/
theorem exists_extract_iff_not (h : c.check = .ok c) (categories : Option (List Category)) :
    (∃ t, c.extract includeSelf (categories.map (List.map .category)) = .ok t) ↔
      (¬ ∃ k ∈ categories.getD Category.all, c.Malformed k) ∧
        ¬ ∃ k ∈ categories.getD Category.all, c.Unnameable includeSelf k := by
  rw [exists_extract_iff, and_iff_right (dottedName_ne_of_check h)]
  simp only [not_exists, not_and]
  rw [← forall₂_and]
  refine forall₂_congr fun k _ => ?_
  constructor
  · rintro ⟨kept, hkept, hvalid⟩
    obtain ⟨names, hnames, rfl⟩ := map_eq_ok_iff.mp hkept
    refine ⟨(exists_namesIn_iff c k).mp ⟨names, hnames⟩, fun hbad => ?_⟩
    obtain ⟨x, hx, hdefect⟩ := (exists_defect_iff hnames).mpr hbad
    exact hdefect (hvalid x hx)
  · rintro ⟨hwell, hnameable⟩
    obtain ⟨names, hnames⟩ := (exists_namesIn_iff c k).mpr hwell
    refine ⟨_, map_eq_ok_iff.mpr ⟨names, hnames, rfl⟩, fun x hx => ?_⟩
    by_contra hdefect
    exact hnameable ((exists_defect_iff hnames).mp ⟨x, hx, hdefect⟩)

/-- An extraction that fails for a malformed descriptor has a malformed category, and one that fails
otherwise has none and finds a bad name. -/
theorem badDescriptor_or_badName {categories : Option (List Category)} {fault : Fault}
    (hcheck : c.check = .ok c)
    (h : c.extract includeSelf (categories.map (List.map .category)) = .error fault) :
    (∃ k ∈ categories.getD Category.all, c.Malformed k) ∧
        (∃ text position reason, fault = .failure (.badDescriptor text position reason)) ∨
      (¬ ∃ k ∈ categories.getD Category.all, c.Malformed k) ∧
        ∃ name reason, fault = .failure (.badName name reason) := by
  rcases extract_eq_error_cases (dottedName_ne_of_check hcheck) h with
    ⟨k, hk, e, herror, rfl⟩ | ⟨hnames, hbad⟩
  · obtain ⟨text, position, reason, rfl⟩ := exists_badDescriptor_of_namesIn herror
    refine Or.inl ⟨⟨k, hk, ?_⟩, text, position, reason, rfl⟩
    by_contra hwell
    obtain ⟨names, hnames⟩ := (exists_namesIn_iff c k).mpr hwell
    cases herror.symm.trans hnames
  · refine Or.inr ⟨?_, hbad⟩
    rintro ⟨k, hk, hmalformed⟩
    exact (exists_namesIn_iff c k).mp (hnames k hk) hmalformed

/-- **When an extraction of categories fails, and how.** A malformed text of a selected category is
reported before anything else. Otherwise a name that is left and is no name of a dependency is
reported; it is one of those that are not read off descriptors, because what is read off a
descriptor always is such a name. Otherwise the extraction succeeds. -/
theorem extract_outcome_iff (c : ClassDecl) (includeSelf : Bool)
    (categories : Option (List Category)) (h : c.check = .ok c) :
    let outcome := c.extract includeSelf (categories.map (List.map .category))
    let malformed := ∃ k ∈ categories.getD Category.all, c.Malformed k
    let unnameable := ∃ k ∈ categories.getD Category.all, c.Unnameable includeSelf k
    ((∃ text position reason, outcome = .error (.failure (.badDescriptor text position reason))) ↔
        malformed) ∧
      ((∃ name reason, outcome = .error (.failure (.badName name reason))) ↔
        ¬ malformed ∧ unnameable) ∧
      ((∃ t, outcome = .ok t) ↔ ¬ malformed ∧ ¬ unnameable) ∧
      (∀ text names, decodeNames text = .ok names → ∀ x ∈ names, Name.defect? x = none) ∧
      ∀ text x, Descriptor.decodeObject text = .ok x → Name.defect? x = none := by
  intro outcome malformed unnameable
  have hok : (∃ t, outcome = .ok t) ↔ ¬ malformed ∧ ¬ unnameable :=
    exists_extract_iff_not h categories
  have herror : ∀ fault, outcome = .error fault →
      malformed ∧ (∃ text position reason, fault = .failure (.badDescriptor text position reason)) ∨
        ¬ malformed ∧ ∃ name reason, fault = .failure (.badName name reason) :=
    fun fault => badDescriptor_or_badName h
  refine ⟨?_, ?_, hok, fun text names => defect?_of_decodeNames,
    fun text x => Descriptor.defect?_of_decodeObject⟩
  -- an outcome is of one kind only, so what is known about it decides both equivalences
  all_goals
    cases hout : outcome with
    | ok t =>
        obtain ⟨hwell, hnameable⟩ := hok.mp ⟨t, hout⟩
        simp [hwell, hnameable]
    | error fault =>
        have hnot : ¬ (¬ malformed ∧ ¬ unnameable) := by
          intro hboth
          obtain ⟨t, ht⟩ := hok.mpr hboth
          cases hout.symm.trans ht
        rcases herror fault hout with ⟨hbad, -, -, -, rfl⟩ | ⟨hwell, -, -, rfl⟩
        · simp [hbad]
        · have hbad : unnameable := by_contra fun hnameable => hnot ⟨hwell, hnameable⟩
          simp [hwell, hbad]

/-- A class whose interface is an array and whose field has no type. -/
def oddClass : ClassDecl where
  name := "a/B"
  interfaces := ["[I"]
  fields := [{ name := "x", descriptor := "Q" }]

theorem extract_outcome_oddClass :
    oddClass.check = .ok oddClass ∧
      (∃ t, oddClass.extract false (some [.category .superClass]) = .ok t) ∧
      (∃ name reason, oddClass.extract false (some [.category .interface]) =
        .error (.failure (.badName name reason))) ∧
      ∃ text position reason,
        oddClass.extract false (some [.category .interface, .category .fieldType]) =
          .error (.failure (.badDescriptor text position reason)) := by
  have hcheck : oddClass.check = .ok oddClass := by decide
  have houtcome := fun categories => extract_outcome_iff oddClass false (some categories) hcheck
  refine ⟨hcheck, ?_, ?_, ?_⟩
  · exact (houtcome [.superClass]).2.2.1.mpr (by decide)
  · exact (houtcome [.interface]).2.1.mpr (by decide +kernel)
  · exact (houtcome [.interface, .fieldType]).1.mpr (by decide)

end ClassDecl

end JvmDeps
