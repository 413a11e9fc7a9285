import JvmDeps.Proofs.Repository.Agreement

set_option autoImplicit false

/-! # How far a survey keeps failures apart

A survey computes every category by itself, so that a category that fails takes nothing away from
the others. But a category can fail in two ways: its analysis fails, or it finds a name that is no
name of a dependency (`ClassDecl.Misnamed`). A survey keeps the first kind of failure as an outcome.
The second kind shows only when the table is made, and then there is no table at all.

So a survey keeps failures apart (`Survey.Isolates`) exactly if none of its categories is misnamed
(`survey_isolates_iff`).
-/

namespace JvmDeps

/-- A table of a named class passes its checks exactly if all its names are valid. -/
theorem DependencyTable.exists_make_iff {className : String} {m : OrderedMap Category NameSet}
    (hname : className ≠ "") :
    (∃ t, make className m = .ok t) ↔
      ∀ e ∈ m.entries, ∀ x ∈ e.2, Name.defect? x = none := by
  constructor
  · rintro ⟨t, ht⟩
    obtain ⟨-, hentries⟩ := eq_of_make ht
    rw [← hentries]
    exact t.valid
  · intro hvalid
    obtain ⟨t, ht, -⟩ := exists_make hname hvalid
    exact ⟨t, ht⟩

/-- The analysis of the category succeeds, but finds a name that is no name of a dependency. -/
def ClassDecl.Misnamed (c : ClassDecl) (includeSelf : Bool) (category : Category) : Prop :=
  ∃ names, c.dependenciesIn includeSelf category = .ok names ∧
    ∃ x ∈ names, Name.defect? x ≠ none

instance (c : ClassDecl) (includeSelf : Bool) (category : Category) :
    Decidable (c.Misnamed includeSelf category) :=
  match h : c.dependenciesIn includeSelf category with
  | .error _ => isFalse fun ⟨_, hnames, _⟩ => nomatch h.symm.trans hnames
  | .ok names =>
    decidable_of_iff (∃ x ∈ names.toList, Name.defect? x ≠ none)
      ⟨fun hx => ⟨names, h, hx⟩, fun ⟨_, hnames, hx⟩ => Except.ok.inj (h.symm.trans hnames) ▸ hx⟩

namespace Survey

variable {c : ClassDecl} {includeSelf : Bool} {requested : Option (List Requested)}
  {selected : List Category} {category : Category} {names : NameSet} {s : Survey}
  {t : DependencyTable}

/-! ## What a survey says of a category -/

theorem Of.get?_eq (h : s.Of c includeSelf selected) (hmem : category ∈ selected) :
    s.outcomes.get? category =
      some ((c.dependenciesIn includeSelf category).mapError .failure) := by
  rw [OrderedMap.get?_eq_some_iff, h.entries]
  exact List.mem_map_of_mem hmem

/-- The survey is complete exactly if no analysis fails. -/
theorem Of.complete_iff (h : s.Of c includeSelf selected) :
    s.complete = true ↔
      ∀ category ∈ selected, (c.dependenciesIn includeSelf category).isOk = true := by
  have hcomplete : s.complete = true ↔ ∀ e ∈ s.outcomes.entries, e.2.isOk = true := by
    rw [complete, List.isEmpty_iff]
    show s.outcomes.entries.filterMap _ = [] ↔ _
    rw [List.filterMap_eq_nil_iff]
    refine forall₂_congr fun e _ => ?_
    rcases e with ⟨k, fault | found⟩
    · exact iff_of_false nofun nofun
    · exact iff_of_true rfl rfl
  rw [hcomplete, h.entries, List.forall_mem_map]
  simp only [isOk_mapError]

/-- The table is made of the categories that succeeded, with their names. -/
theorem Of.mem_succeeded (h : s.Of c includeSelf selected) :
    (category, names) ∈ (s.outcomes.filterMapValues Except.toOption).entries ↔
      category ∈ selected ∧ c.dependenciesIn includeSelf category = .ok names := by
  rw [OrderedMap.mem_filterMapValues, h.entries]
  constructor
  · rintro ⟨outcome, hmem, hnames⟩
    obtain ⟨k, hk, heq⟩ := List.mem_map.mp hmem
    obtain ⟨rfl, rfl⟩ := Prod.mk.inj heq
    refine ⟨hk, ?_⟩
    cases hin : c.dependenciesIn includeSelf k with
    | error e =>
        rw [hin] at hnames
        cases hnames
    | ok found =>
        rw [hin] at hnames
        cases hnames
        rfl
  · rintro ⟨hmem, hnames⟩
    exact ⟨_, List.mem_map_of_mem hmem, by rw [hnames]; rfl⟩

/-- There is a table exactly if no category is misnamed. -/
theorem Of.exists_table_iff (h : s.Of c includeSelf selected) (hname : c.dottedName ≠ "") :
    (∃ t, s.table = .ok t) ↔ ∀ category ∈ selected, ¬ c.Misnamed includeSelf category := by
  rw [table, h.className, DependencyTable.exists_make_iff hname]
  constructor
  · rintro hvalid category hmem ⟨names, hnames, x, hx, hdefect⟩
    exact hdefect (hvalid _ (h.mem_succeeded.mpr ⟨hmem, hnames⟩) x hx)
  · rintro hnone ⟨category, names⟩ he x hx
    obtain ⟨hmem, hnames⟩ := h.mem_succeeded.mp he
    by_contra hdefect
    exact hnone category hmem ⟨names, hnames, x, hx, hdefect⟩

/-- The table has the names of every category that succeeded. -/
theorem Of.get?_table (h : s.Of c includeSelf selected) (ht : s.table = .ok t)
    (hmem : category ∈ selected) (hnames : c.dependenciesIn includeSelf category = .ok names) :
    t.get? category = some names := by
  obtain ⟨-, hentries⟩ := DependencyTable.eq_of_make ht
  rw [DependencyTable.get?, hentries, OrderedMap.get?_eq_some_iff]
  exact h.mem_succeeded.mpr ⟨hmem, hnames⟩

/-! ## Extractions -/

/-- A survey that is complete has the table of the extraction, or its fault. -/
theorem Of.table_eq_of_complete (h : s.Of c includeSelf selected)
    (hselected : selectCategories requested = .ok selected) (hnodup : selected.Nodup)
    (hcomplete : s.complete = true) : s.table = c.extract includeSelf requested := by
  refine (h.extract_eq_table hselected hnodup ?_).symm
  rw [h.entries, List.forall_mem_map]
  intro category hmem
  rw [isOk_mapError]
  exact h.complete_iff.mp hcomplete category hmem

/-- An extraction that succeeds has computed every category. -/
theorem Of.complete_of_extract (h : s.Of c includeSelf selected)
    (hselected : selectCategories requested = .ok selected)
    (ht : c.extract includeSelf requested = .ok t) : s.complete = true := by
  obtain ⟨selected', hselected', ht⟩ := bind_eq_ok_iff.mp ht
  obtain ⟨entries, hentries, -⟩ := bind_eq_ok_iff.mp ht
  rw [hselected] at hselected'
  obtain rfl := Except.ok.inj hselected'
  rw [mapError_eq_ok_iff] at hentries
  refine h.complete_iff.mpr fun category hmem => ?_
  obtain ⟨found, hfound⟩ := ClassDecl.exists_namesIn_of_dependenciesOf hentries category hmem
  rw [ClassDecl.dependenciesIn, hfound]
  rfl

/-! ## Categories by themselves -/

/-- A category whose analysis fails makes the extraction of it alone fail the same. -/
theorem extract_alone_of_failed {e : DependencyError} (hname : c.dottedName ≠ "")
    (hfailed : c.dependenciesIn includeSelf category = .error e) :
    c.extract includeSelf (some [.category category]) = .error (.failure e) := by
  have hselected := selectCategories_categories (some [category])
  obtain ⟨alone, -, halone⟩ :=
    ClassDecl.exists_survey includeSelf hname hselected (nodup_selected (some [category]))
  have hentries : alone.outcomes.entries = [] ++ [(category, .error (.failure e))] := by
    rw [halone.entries]
    show [(category, (c.dependenciesIn includeSelf category).mapError Fault.failure)] = _
    rw [hfailed]
    rfl
  exact halone.extract_eq_error hselected hentries (List.forall_mem_nil _)

/-- A category that is computed is extracted alone, unless it is misnamed. -/
theorem extract_alone_of_computed (hname : c.dottedName ≠ "")
    (hnames : c.dependenciesIn includeSelf category = .ok names) :
    ((∃ t, c.extract includeSelf (some [.category category]) = .ok t) ↔
        ¬ c.Misnamed includeSelf category) ∧
      ∀ t, c.extract includeSelf (some [.category category]) = .ok t →
        t.get? category = some names := by
  have hselected := selectCategories_categories (some [category])
  have hnodup := nodup_selected (some [category])
  have hmem : category ∈ ((some [category]).map List.eraseDups).getD Category.all :=
    List.mem_cons_self
  obtain ⟨alone, -, halone⟩ := ClassDecl.exists_survey includeSelf hname hselected hnodup
  have hcomplete : alone.complete = true := by
    rw [halone.complete_iff]
    intro k hk
    obtain rfl : k = category := List.mem_singleton.mp hk
    rw [hnames]
    rfl
  have htable : alone.table = c.extract includeSelf (some [.category category]) :=
    halone.table_eq_of_complete hselected hnodup hcomplete
  rw [← htable]
  refine ⟨?_, fun t ht => halone.get?_table ht hmem hnames⟩
  rw [halone.exists_table_iff hname]
  exact List.forall_mem_singleton

/-! ## Isolation -/

/-- The survey keeps failures apart. It has a table, also if some of its categories failed. It is
complete exactly if all of them can be extracted together, and then has the same table. A category
whose extraction alone fails is kept as that failure, and one that can be extracted alone is in the
table with the same names. -/
structure Isolates (extract : Option (List Category) → Except Fault DependencyTable)
    (categories : Option (List Category)) (s : Survey) : Prop where
  exists_table : ∃ t, s.table = .ok t
  complete_iff : s.complete = true ↔ ∃ t, extract categories = .ok t
  table_eq : s.complete = true → s.table = extract categories
  failed : ∀ k ∈ s.outcomes.keys, ∀ fault, extract (some [k]) = .error fault →
    s.outcomes.get? k = some (.error fault)
  kept : ∀ k ∈ s.outcomes.keys, ∀ alone, extract (some [k]) = .ok alone →
    ∃ t names, s.table = .ok t ∧ alone.get? k = some names ∧ t.get? k = some names

/-- A survey without a misnamed category keeps failures apart. -/
theorem Of.isolates {categories : Option (List Category)}
    (h : s.Of c includeSelf ((categories.map List.eraseDups).getD Category.all))
    (hname : c.dottedName ≠ "")
    (hnone : ∀ k ∈ (categories.map List.eraseDups).getD Category.all,
      ¬ c.Misnamed includeSelf k) :
    s.Isolates (fun request => c.extract includeSelf (request.map (List.map .category)))
      categories := by
  have hselected := selectCategories_categories categories
  have htable_eq := h.table_eq_of_complete hselected (nodup_selected categories)
  obtain ⟨t, ht⟩ := (h.exists_table_iff hname).mpr hnone
  refine ⟨⟨t, ht⟩, ⟨fun hcomplete => ?_, ?_⟩, htable_eq, ?_, ?_⟩
  · exact ⟨t, (htable_eq hcomplete).symm.trans ht⟩
  · rintro ⟨extracted, hextracted⟩
    exact h.complete_of_extract hselected hextracted
  · intro k hk fault hfault
    rw [h.keys_eq] at hk
    rw [h.get?_eq hk]
    cases hin : c.dependenciesIn includeSelf k with
    | error e =>
        have halone := extract_alone_of_failed hname hin
        obtain rfl : Fault.failure e = fault := Except.error.inj (halone.symm.trans hfault)
        rfl
    | ok names =>
        obtain ⟨alone, halone⟩ := (extract_alone_of_computed hname hin).1.mpr (hnone k hk)
        cases halone.symm.trans hfault
  · intro k hk alone halone
    rw [h.keys_eq] at hk
    cases hin : c.dependenciesIn includeSelf k with
    | error e => cases (extract_alone_of_failed hname hin).symm.trans halone
    | ok names =>
        exact ⟨t, names, ht, (extract_alone_of_computed hname hin).2 alone halone,
          h.get?_table ht hk hin⟩

end Survey

/-- **A survey keeps failures apart exactly if none of its categories is misnamed.**

In every state of a repository, a class that is found is surveyed, whatever its categories come to.
Every analysis that fails is kept as its failure. A survey that is complete has what the extraction
comes to, and is complete if the extraction succeeds. But a misnamed category counts as computed,
although its extraction alone fails, and takes the table away from all the others. -/
theorem survey_isolates_iff {r : Repository} (hreachable : r.Reachable) (host : Host)
    (includeSelf : Bool) {name : String} {o : Loaded} (hfound : (r.resolve host name).1 = .ok o)
    (categories : Option (List Category)) :
    let extract (request : Option (List Category)) :=
      (r.extract host includeSelf name (request.map (List.map .category))).1
    let selected := (categories.map List.eraseDups).getD Category.all
    ∃ s, (r.survey host includeSelf name (categories.map (List.map .category))).1 = .ok s ∧
      s.outcomes.keys = selected ∧
      (s.Isolates extract categories ↔ ∀ k ∈ selected, ¬ o.decl.Misnamed includeSelf k) ∧
      (∀ k ∈ selected, ∀ e, o.decl.dependenciesIn includeSelf k = .error e →
        s.outcomes.get? k = some (.error (.failure e)) ∧
          extract (some [k]) = .error (.failure e)) ∧
      (s.complete = true → s.table = extract categories) ∧
      (∀ t, extract categories = .ok t → s.complete = true) ∧
      ∀ k ∈ selected, o.decl.Misnamed includeSelf k →
        (∃ names, s.outcomes.get? k = some (.ok names)) ∧
          (∃ fault, extract (some [k]) = .error fault) ∧ ∃ fault, s.table = .error fault := by
  intro extract selected
  have hdecl := Repository.found_of_resolve hfound
  have hname := Repository.dottedName_ne_empty hreachable.lawful hdecl
  have hextract : extract = fun request =>
      o.decl.extract includeSelf (request.map (List.map .category)) := by
    funext request
    refine (Repository.withClass_fst host name _ r).trans ?_
    rw [hdecl]
    rfl
  have hselected := selectCategories_categories categories
  obtain ⟨s, hs, hof⟩ :=
    ClassDecl.exists_survey includeSelf hname hselected (nodup_selected categories)
  have htable : (∃ t, s.table = .ok t) ↔ ∀ k ∈ selected, ¬ o.decl.Misnamed includeSelf k :=
    hof.exists_table_iff hname
  refine ⟨s, ?_, hof.keys_eq, ⟨fun h => htable.mp h.exists_table, fun hnone => ?_⟩, ?_, ?_, ?_, ?_⟩
  · refine (Repository.withClass_fst host name _ r).trans ?_
    rw [hdecl]
    exact hs
  · rw [hextract]
    exact hof.isolates hname hnone
  · intro k hk e he
    rw [hof.get?_eq hk, he, hextract]
    exact ⟨rfl, Survey.extract_alone_of_failed hname he⟩
  · rw [hextract]
    exact hof.table_eq_of_complete hselected (nodup_selected categories)
  · rw [hextract]
    exact fun t ht => hof.complete_of_extract hselected ht
  · intro k hk hmisnamed
    have ⟨names, hnames, _⟩ := hmisnamed
    refine ⟨⟨names, by rw [hof.get?_eq hk, hnames]; rfl⟩, ?_, ?_⟩
    · rw [hextract, exists_error_iff]
      exact fun hok => (Survey.extract_alone_of_computed hname hnames).1.mp hok hmisnamed
    · rw [exists_error_iff]
      exact fun hok => htable.mp hok k hk hmisnamed

open Program (noFiles) in
/-- A field has a descriptor that ends early, and the interface is in the table all the same. -/
theorem survey_isolates_iff_broken :
    let r := Repository.alone brokenDecl
    let requested := some [Requested.category .interface, .category .fieldType]
    let fault := Fault.failure (.badDescriptor "Lx/F" 0 "object type not terminated by ';'")
    r.Reachable ∧ (r.resolve noFiles "a.B").1 = .ok ⟨0, brokenDecl⟩ ∧
      (r.extract noFiles false "a.B" requested).1 = .error fault ∧
      ∃ s t, (r.survey noFiles false "a.B" requested).1 = .ok s ∧ s.complete = false ∧
        s.outcomes.get? .fieldType = some (.error fault) ∧ s.table = .ok t ∧
        t.get? .interface = some (.ofList ["x.I"]) := by
  intro r requested fault
  have hreachable : r.Reachable := Repository.alone_reachable (by decide +kernel)
    ⟨by decide, by decide, List.forall_mem_nil _, List.nodup_nil⟩
  have hfound : (r.resolve noFiles "a.B").1 = .ok ⟨0, brokenDecl⟩ := by decide +kernel
  have hfield : brokenDecl.dependenciesIn false .fieldType =
      .error (.badDescriptor "Lx/F" 0 "object type not terminated by ';'") := by
    decide +kernel
  have hfault : (r.extract noFiles false "a.B" requested).1 = .error fault :=
    map_eq_error_iff (f := (·.className)).mp (by decide +kernel)
  obtain ⟨alone, halone, hnames⟩ : ∃ alone,
      (r.extract noFiles false "a.B" (some [.category .interface])).1 = .ok alone ∧
        alone.get? .interface = some (.ofList ["x.I"]) :=
    map_eq_ok_iff.mp (by decide +kernel)
  obtain ⟨s, hs, hkeys, hisolates, hfailed, -, -, -⟩ :=
    survey_isolates_iff hreachable noFiles false hfound (some [.interface, .fieldType])
  have hnone : ∀ k ∈ ((some [.interface, .fieldType]).map List.eraseDups).getD Category.all,
      ¬ brokenDecl.Misnamed false k := by decide +kernel
  have hapart := hisolates.mpr hnone
  obtain ⟨t, names, ht, hin, hkept⟩ := hapart.kept .interface (by rw [hkeys]; decide) alone halone
  rw [hnames] at hin
  refine ⟨hreachable, hfound, hfault, s, t, hs, ?_, ?_, ht, hkept.trans hin.symm⟩
  · rw [Bool.eq_false_iff]
    intro hcomplete
    obtain ⟨together, htogether⟩ := hapart.complete_iff.mp hcomplete
    cases hfault.symm.trans htogether
  · exact (hfailed .fieldType (by decide) _ hfield).1

/-- A class with a superclass and, among its interfaces, an array. -/
def misnamedDecl : ClassDecl :=
  { name := "a/B", superName := some "x/S", interfaces := ["[I"] }

open Program (noFiles) in
/-- **A survey can be complete and have no table.** An array is no dependency, so that the
interfaces of the class cannot be extracted, but they are no failure of the survey. And the
superclass, which can be extracted alone, is in no table. -/
theorem survey_complete_without_table :
    let r := Repository.alone misnamedDecl
    let extract (categories : List Category) :=
      (r.extract noFiles false "a.B" (some (categories.map .category))).1
    let fault := Fault.failure (.badName "[I" "array types are not dependencies")
    ∃ s t, (r.survey noFiles false "a.B"
        (some [.category .superClass, .category .interface])).1 = .ok s ∧
      s.complete = true ∧ s.outcomes.get? .interface = some (.ok (.ofList ["[I"])) ∧
      s.table = .error fault ∧ extract [.superClass, .interface] = .error fault ∧
      extract [.interface] = .error fault ∧ extract [.superClass] = .ok t := by
  intro r extract fault
  let surveyed := (r.survey noFiles false "a.B"
    (some [.category .superClass, .category .interface])).1
  obtain ⟨s, hs, hoverview⟩ : ∃ s, surveyed = .ok s ∧
      (s.complete, s.outcomes.get? .interface) = (true, some (.ok (.ofList ["[I"]))) :=
    map_eq_ok_iff.mp (by decide +kernel)
  obtain ⟨hcomplete, hget⟩ := Prod.mk.inj hoverview
  have htable : surveyed >>= (·.table) = .error fault :=
    map_eq_error_iff (f := (·.className)).mp (by decide +kernel)
  have hextract (categories : List Category)
      (h : (extract categories).map (·.className) = .error fault) :
      extract categories = .error fault := map_eq_error_iff.mp h
  obtain ⟨t, ht, -⟩ : ∃ t, extract [.superClass] = .ok t ∧ t.className = "a.B" :=
    map_eq_ok_iff.mp (by decide +kernel)
  rw [hs] at htable
  exact ⟨s, t, hs, hcomplete, hget, htable, hextract _ (by decide +kernel),
    hextract _ (by decide +kernel), ht⟩

end JvmDeps
