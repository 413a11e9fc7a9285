import JvmDeps.Proofs.Dependency.Survey
import JvmDeps.Proofs.Repository.History

set_option autoImplicit false

/-! # Operations that agree

The operations on a class compute the same things in different ways. `extract_agrees_survey`
compares an extraction, which stops at the first failure, with a survey, which keeps every failure,
and with an extraction that keeps its failure as an outcome. `mem_allDependencies_iff` compares all
dependencies of a class with what is found category by category.
-/

namespace JvmDeps

namespace Repository

variable {r : Repository} {host : Host} {name : String}

theorem found_of_resolve_error {fault : Fault} (h : (r.resolve host name).1 = .error fault) :
    r.found host name = .error fault := by
  rw [found, h]
  rfl

theorem found_of_resolve {o : Loaded} (h : (r.resolve host name).1 = .ok o) :
    r.found host name = .ok o.decl := by
  rw [found, h]
  rfl

/-- One class in memory. -/
def alone (c : ClassDecl) : Repository :=
  ⟨.memory (.ofList [(c.name, .object ⟨0, c⟩)]), .empty, ∅, 1, false⟩

theorem ofDecls_singleton {c : ClassDecl} (hname : Name.toInternal c.name = c.name) :
    ofDecls [c] = .ok (alone c) := by
  show (storedOf 0 [(c.name, .decl c)] >>= _) = _
  rw [storedOf, hname]
  rfl

theorem alone_reachable {c : ClassDecl} (hname : Name.toInternal c.name = c.name)
    (hsound : c.Sound) : (alone c).Reachable := by
  refine .memory ?_ (ofDecls_singleton hname)
  intro name c' hmem
  cases List.mem_singleton.mp hmem
  exact hsound

end Repository

/-! ## Extractions and surveys -/

/-- **An extraction and a survey agree**, in every state of a repository, for every name and every
request.

If the class is not found, or something is asked for that is no category, both fail, and with the
same fault. Otherwise the survey is made. It has the requested categories, each once, in the order
in which they were first asked for, and the extraction fails with the fault of the first of them
that failed. If none failed, the extraction comes to what the table of the survey comes to.

An extraction that keeps its failure gives the table of the extraction, or its failure, and raises
what is no failure of the analysis. -/
theorem extract_agrees_survey {r : Repository} (hreachable : r.Reachable) (host : Host)
    (includeSelf : Bool) (name : String) (requested : Option (List Requested)) :
    let found := (r.resolve host name).1
    let extracted := (r.extract host includeSelf name requested).1
    let surveyed := (r.survey host includeSelf name requested).1
    let tried := (r.tryExtract host includeSelf name requested).1
    (∀ fault, found = .error fault → extracted = .error fault ∧ surveyed = .error fault) ∧
      (∀ o, found = .ok o →
        (∀ (front : List Category) (value : RawValue) (back : List Requested),
          requested = some (front.map .category ++ .other value :: back) →
            extracted = .error (.misuse (.notACategory value.shown)) ∧
              surveyed = .error (.misuse (.notACategory value.shown))) ∧
        ∀ categories : Option (List Category), requested = categories.map (List.map .category) →
          ∃ s : Survey, surveyed = .ok s ∧ s.className = o.decl.dottedName ∧
            s.outcomes.keys = (categories.map List.eraseDups).getD Category.all ∧
            (∀ before category fault after,
              s.outcomes.entries = before ++ (category, .error fault) :: after →
                (∀ e ∈ before, e.2.isOk = true) → extracted = .error fault) ∧
            ((∀ e ∈ s.outcomes.entries, e.2.isOk = true) → extracted = s.table)) ∧
      (∀ t, extracted = .ok t → tried = .ok (.ok t)) ∧
      (∀ e, extracted = .error (.failure e) → tried = .ok (.error (.failure e))) ∧
      ∀ fault, extracted = .error fault → (∀ e, fault ≠ .failure e) → tried = .error fault := by
  intro found extracted surveyed tried
  have hextracted : extracted = r.found host name >>= fun c => c.extract includeSelf requested :=
    Repository.withClass_fst host name _ r
  have hsurveyed : surveyed = r.found host name >>= fun c => c.survey includeSelf requested :=
    Repository.withClass_fst host name _ r
  have htried : tried = Repository.keepFailure extracted := rfl
  refine ⟨fun fault hfault => ?_, fun o ho => ⟨?_, ?_⟩, ?_, ?_, ?_⟩
  · rw [hextracted, hsurveyed, Repository.found_of_resolve_error hfault]
    exact ⟨rfl, rfl⟩
  · rintro front value back rfl
    rw [hextracted, hsurveyed, Repository.found_of_resolve ho]
    exact o.decl.extract_survey_other includeSelf front value back
  · rintro categories rfl
    have hfound := Repository.found_of_resolve ho
    have hname := Repository.dottedName_ne_empty hreachable.lawful hfound
    rw [hextracted, hsurveyed, hfound]
    exact ClassDecl.exists_survey_agrees hname includeSelf categories
  · intro t ht
    rw [htried, ht]
    rfl
  · intro e he
    rw [htried, he]
    rfl
  · intro fault hfault hother
    rw [htried, hfault]
    cases fault with
    | failure e => exact absurd rfl (hother e)
    | _ => rfl

/-- A class with an interface, a field whose descriptor ends early, and an annotation that is no
class. -/
def brokenDecl : ClassDecl :=
  { name := "a/B", interfaces := ["x/I"], fields := [⟨"f", "Lx/F", 0⟩], annotations := some ["I"] }

open Program (noFiles) in
/-- One of the categories is asked for twice, and two of them fail. -/
theorem extract_agrees_survey_broken :
    let r := Repository.alone brokenDecl
    let requested := some [Requested.category .interface, .category .fieldType,
      .category .interface, .category .annotationType]
    r.Reachable ∧ ∃ s fault, (r.survey noFiles false "a.B" requested).1 = .ok s ∧
      s.outcomes.keys = [.interface, .fieldType, .annotationType] ∧
      s.outcomes.get? .fieldType = some (.error fault) ∧
      (r.extract noFiles false "a.B" requested).1 = .error fault ∧
      (r.tryExtract noFiles false "a.B" requested).1 = .ok (.error fault) := by
  intro r requested
  have hreachable : r.Reachable := Repository.alone_reachable (by decide +kernel)
    ⟨by decide, by decide, List.forall_mem_nil _, List.nodup_nil⟩
  have hentries : (r.survey noFiles false "a.B" requested).1.map (·.outcomes.entries) =
      .ok [(.interface, .ok (.ofList ["x.I"])),
        (.fieldType, .error (.failure
          (.badDescriptor "Lx/F" 0 "object type not terminated by ';'"))),
        (.annotationType, .error (.failure
          (.badDescriptor "I" 0 "expected object type 'L...;'")))] := by
    decide +kernel
  have hfound : (r.resolve noFiles "a.B").1 = .ok ⟨0, brokenDecl⟩ := by decide +kernel
  obtain ⟨-, hagree, -, hfailed, -⟩ :=
    extract_agrees_survey hreachable noFiles false "a.B" requested
  obtain ⟨s, hs, -, hkeys, hfirst, -⟩ := (hagree _ hfound).2
    (some [.interface, .fieldType, .interface, .annotationType]) rfl
  simp only [hs, Except.map, Except.ok.injEq] at hentries
  have hextract := hfirst [_] .fieldType _ [_] hentries (by decide +kernel)
  refine ⟨hreachable, s, _, hs, hkeys, ?_, hextract, hfailed _ hextract⟩
  exact OrderedMap.get?_eq_some_iff.mpr (by simp [hentries])

open Program (oneClass noFiles) in
/-- **Not every fault is kept as an outcome.** If something is asked for that is no category, also
an extraction that keeps its failure raises the fault. -/
theorem tryExtract_raises_oneClass :
    let requested := some [Requested.other (.text "x")]
    (oneClass.extract noFiles false "a.B" requested).1 = .error (.misuse (.notACategory "'x'")) ∧
      ¬ ∃ outcome, (oneClass.tryExtract noFiles false "a.B" requested).1 = .ok outcome := by
  intro requested
  have hfound : oneClass.found noFiles "a.B" = .ok { name := "a/B" } := by decide +kernel
  have hextract : (oneClass.extract noFiles false "a.B" requested).1 =
      .error (.misuse (.notACategory "'x'")) := by
    refine (Repository.withClass_fst noFiles "a.B" _ oneClass).trans ?_
    rw [hfound]
    exact (ClassDecl.extract_survey_other { name := "a/B" } false [] (.text "x") []).1
  refine ⟨hextract, ?_⟩
  rintro ⟨outcome, houtcome⟩
  have htried : (oneClass.tryExtract noFiles false "a.B" requested).1 =
      .error (.misuse (.notACategory "'x'")) := congrArg Repository.keepFailure hextract
  rw [htried] at houtcome
  cases houtcome

/-! ## All dependencies and single categories -/

/-- **All dependencies of a class are those of its categories**, except that the superclass is not
left out if it is the class itself.

Take a new repository, and whatever states it has come to later. If all dependencies of a class are
found in one of them, so are those of each category and the superclass in each of them. A name is a
dependency exactly if it is in one of the categories, or is the superclass and not the class itself,
unless this is to be kept. So they make up all dependencies, unless a class that is its own
superclass is to be left out. -/
theorem mem_allDependencies_iff {host : Host} {r₀ r : Repository} (hfresh : r₀.Fresh)
    (hlater : r₀.Later host r) {includeSelf : Bool} {name : String} {all : NameSet}
    (h : (r.allDependencies host includeSelf name).1 = .ok all) :
    ∃ (annotations interfaces fields signatures references : NameSet)
      (superclass : Option String),
      (∀ s, r₀.Later host s →
        (s.namesIn host includeSelf .annotationType name).1 = .ok annotations ∧
        (s.superclass host name).1 = .ok superclass ∧
        (s.namesIn host includeSelf .interface name).1 = .ok interfaces ∧
        (s.namesIn host includeSelf .fieldType name).1 = .ok fields ∧
        (s.signatureNames host includeSelf name none none).1 = .ok signatures ∧
        (s.namesIn host includeSelf .bodyReference name).1 = .ok references) ∧
      (∀ x, x ∈ all ↔ x ∈ annotations ∨
        (superclass = some x ∧ (includeSelf = false → x ≠ Name.toDotted name)) ∨
        x ∈ interfaces ∨ x ∈ fields ∨ x ∈ signatures ∨ x ∈ references) ∧
      (all = annotations ∪ .ofList superclass.toList ∪ interfaces ∪ fields ∪ signatures ∪
          references ↔
        ¬ (includeSelf = false ∧ superclass = some (Name.toDotted name))) := by
  rw [Repository.allDependencies, Repository.withClass_fst, hlater.found_eq hfresh] at h
  obtain ⟨c, hfound, hall⟩ := bind_eq_ok_iff.mp h
  obtain ⟨names, hnames⟩ := ClassDecl.exists_found_of_allDependencies hall
  have hown : c.dottedName = Name.toDotted name := by
    rw [ClassDecl.dottedName, Repository.name_of_found (hfresh.leases_eq ▸ nofun) hfound,
      Name.toDotted_toInternal]
  let drop := fun category => c.dropSelf includeSelf (names category)
  refine ⟨drop .annotationType, drop .interface, drop .fieldType, drop .methodSignature,
    drop .bodyReference, c.superclass?, fun s hs => ?_, fun x => ?_, ?_⟩
  · have hcategory (category : Category) :
        (s.namesIn host includeSelf category name).1 = .ok (drop category) :=
      (hs.withClass_fst hfresh hfound _).trans (hnames.extract_category category)
    have hsuper : (s.superclass host name).1 = .ok c.superclass? :=
      hs.withClass_fst hfresh hfound _
    have hsignatures : (s.signatureNames host includeSelf name none none).1 =
        .ok (drop .methodSignature) :=
      (hs.withClass_fst hfresh hfound _).trans hnames.selectedNames_all
    exact ⟨hcategory _, hsuper, hcategory _, hcategory _, hsignatures, hcategory _⟩
  · rw [hnames.mem_all_iff, hown]
  · rw [← hown]
    exact hnames.all_eq_union_iff

/-- A class with a superclass and with fields of its own type and of another. -/
def nodeDecl : ClassDecl where
  name := "a/B"
  superName := some "x/S"
  fields := [⟨"next", "La/B;", 0⟩, ⟨"value", "Lx/F;", 0⟩]
  references := ["a/B", "x/S"]

open Program (noFiles) in
/-- The class refers to itself twice, and somebody holds it under the other spelling. -/
theorem mem_allDependencies_iff_node :
    let r₀ := Repository.alone nodeDecl
    let r := (r₀.resolve noFiles "a.B").2
    let all : NameSet := .ofList ["x.F", "x.S"]
    r₀.Fresh ∧ r₀.Later noFiles r ∧ (r.allDependencies noFiles false "a/B").1 = .ok all ∧
      ∃ annotations interfaces fields signatures references,
        (r.namesIn noFiles false .annotationType "a/B").1 = .ok annotations ∧
        (r.superclass noFiles "a/B").1 = .ok (some "x.S") ∧
        (r.namesIn noFiles false .interface "a/B").1 = .ok interfaces ∧
        (r.namesIn noFiles false .fieldType "a/B").1 = .ok fields ∧
        (r.signatureNames noFiles false "a/B" none none).1 = .ok signatures ∧
        (r.namesIn noFiles false .bodyReference "a/B").1 = .ok references ∧
        all = annotations ∪ .ofList ["x.S"] ∪ interfaces ∪ fields ∪ signatures ∪ references := by
  intro r₀ r all
  have hfresh : r₀.Fresh := .memory (Repository.ofDecls_singleton (by decide +kernel))
  have hlater : r₀.Later noFiles r := Repository.Later.start.resolve "a.B"
  have hall : (r.allDependencies noFiles false "a/B").1 = .ok all := by decide +kernel
  have hsuper : (r.superclass noFiles "a/B").1 = .ok (some "x.S") := by decide +kernel
  have hown : some "x.S" ≠ some (Name.toDotted "a/B") := by decide +kernel
  obtain ⟨annotations, interfaces, fields, signatures, references, superclass, hfound, -, hunion⟩ :=
    mem_allDependencies_iff hfresh hlater hall
  obtain ⟨hannotations, hsuper', hinterfaces, hfields, hsignatures, hreferences⟩ := hfound r hlater
  obtain rfl : superclass = some "x.S" := Except.ok.inj (hsuper'.symm.trans hsuper)
  exact ⟨hfresh, hlater, hall, annotations, interfaces, fields, signatures, references,
    hannotations, hsuper, hinterfaces, hfields, hsignatures, hreferences,
    hunion.mpr fun hself => hown hself.2⟩

/-- A class that is its own superclass. -/
def ownSuperclass : ClassDecl := { name := "a/B", superName := some "a/B" }

open Program (noFiles) in
/-- **The superclass can be missing from all dependencies.** A class that is its own superclass is
left out of them, but the superclass is still given when it is asked for. -/
theorem allDependencies_ne_union_ownSuperclass :
    let r := Repository.alone ownSuperclass
    (r.allDependencies noFiles false "a.B").1 = .ok ∅ ∧
      (r.namesIn noFiles false .annotationType "a.B").1 = .ok ∅ ∧
      (r.superclass noFiles "a.B").1 = .ok (some "a.B") ∧
      (r.namesIn noFiles false .interface "a.B").1 = .ok ∅ ∧
      (r.namesIn noFiles false .fieldType "a.B").1 = .ok ∅ ∧
      (r.signatureNames noFiles false "a.B" none none).1 = .ok ∅ ∧
      (r.namesIn noFiles false .bodyReference "a.B").1 = .ok ∅ ∧
      (∅ : NameSet) ≠ ∅ ∪ .ofList ["a.B"] ∪ ∅ ∪ ∅ ∪ ∅ ∪ ∅ := by
  decide +kernel

end JvmDeps
