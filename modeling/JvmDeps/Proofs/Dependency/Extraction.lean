import JvmDeps.Dependency.Extraction
import JvmDeps.Proofs.Data.OrderedMap
import JvmDeps.Proofs.Data.Outcome

set_option autoImplicit false

/-! # What an extraction comes to

The names of a category are collected from texts one by one, the categories are computed one by one,
and their names are checked and merged at the end. `exists_collectNames` says which names are
collected, `DependencyTable.mem_merged` which are merged, and `ClassDecl.allDependencies_eq_ok` puts
a whole extraction together: if every category has its names and every name is valid, all of them
are found, without the class itself unless it is asked for.

Conversely, if all dependencies are found (`ClassDecl.Found`), then each category can be extracted
by itself (`Found.extract_category`). `Found.all_eq_union_iff` says when these make up all
dependencies.

For a request of some categories, `ClassDecl.extract_eq_ok_iff` says which table it comes to
(`DependencyTable.Of`), `ClassDecl.exists_extract_iff` when it comes to one, and
`ClassDecl.extract_eq_error_cases` how it fails otherwise.
-/

namespace JvmDeps

/-! ## Collected names -/

/-- If names are found in every text of a list, they are collected, and these are all. -/
theorem exists_collectNames {f : String → Except DependencyError (List String)}
    {texts : List String} (h : ∀ text ∈ texts, ∃ names, f text = .ok names) :
    ∃ all, collectNames f texts = .ok all ∧
      ∀ x, x ∈ all ↔ ∃ text ∈ texts, ∃ names, f text = .ok names ∧ x ∈ names := by
  induction texts with
  | nil => exact ⟨[], rfl, by simp⟩
  | cons text texts ih =>
      obtain ⟨⟨names, hnames⟩, htexts⟩ := List.forall_mem_cons.mp h
      obtain ⟨more, hmore, hmem⟩ := ih htexts
      refine ⟨names ++ more, ?_, ?_⟩
      · rw [collectNames, hnames, hmore]
        rfl
      · intro x
        simp only [List.mem_append, hmem, List.mem_cons, exists_eq_or_imp, hnames, Except.ok.injEq,
          exists_eq_left']

/-- What is collected has the names of every text. -/
theorem exists_of_collectNames {f : String → Except DependencyError (List String)}
    {texts all : List String} (h : collectNames f texts = .ok all) :
    ∀ text ∈ texts, ∃ names, f text = .ok names ∧ ∀ x ∈ names, x ∈ all := by
  induction texts generalizing all with
  | nil => simp
  | cons text texts ih =>
      obtain ⟨names, hnames, hrest⟩ := bind_eq_ok_iff.mp h
      obtain ⟨more, hmore, hall⟩ := bind_eq_ok_iff.mp hrest
      obtain rfl := pure_eq_ok_iff.mp hall
      refine List.forall_mem_cons.mpr ⟨⟨names, hnames, fun x => List.mem_append_left more⟩, ?_⟩
      intro text' htext'
      obtain ⟨names', hnames', hmem⟩ := ih hmore text' htext'
      exact ⟨names', hnames', fun x hx => List.mem_append_right names (hmem x hx)⟩

/-- A collection fails at the first text in which no names can be found. -/
theorem collectNames_eq_error_iff {f : String → Except DependencyError (List String)}
    {texts : List String} {e : DependencyError} :
    collectNames f texts = .error e ↔ ∃ before text after, texts = before ++ text :: after ∧
      (∀ t ∈ before, ∃ names, f t = .ok names) ∧ f text = .error e := by
  induction texts with
  | nil =>
      refine iff_of_false nofun ?_
      rintro ⟨before, text, after, htexts, -⟩
      simp at htexts
  | cons text texts ih =>
      rw [collectNames, bind_eq_error_iff]
      constructor
      · rintro (hfirst | ⟨names, hnames, hrest⟩)
        · exact ⟨[], text, texts, rfl, List.forall_mem_nil _, hfirst⟩
        · rcases bind_eq_error_iff.mp hrest with hrest | ⟨more, -, hdone⟩
          · obtain ⟨before, text', after, rfl, hbefore, herror⟩ := ih.mp hrest
            exact ⟨text :: before, text', after, rfl,
              List.forall_mem_cons.mpr ⟨⟨names, hnames⟩, hbefore⟩, herror⟩
          · cases hdone
      · rintro ⟨before, text', after, htexts, hbefore, herror⟩
        cases before with
        | nil =>
            obtain ⟨rfl, rfl⟩ := List.cons.inj htexts
            exact Or.inl herror
        | cons t before =>
            obtain ⟨rfl, rfl⟩ := List.cons.inj htexts
            obtain ⟨⟨names, hnames⟩, hbefore⟩ := List.forall_mem_cons.mp hbefore
            refine Or.inr ⟨names, hnames, bind_eq_error_iff.mpr (Or.inl ?_)⟩
            exact ih.mpr ⟨before, text', after, rfl, hbefore, herror⟩

/-- **A set is collected exactly if names are found in every text**, and then it has the names of
all of them. -/
theorem map_collectNames_eq_ok_iff {f : String → Except DependencyError (List String)}
    {texts : List String} {names : NameSet} :
    (collectNames f texts).map .ofList = .ok names ↔
      (∀ text ∈ texts, ∃ found, f text = .ok found) ∧
        ∀ x, x ∈ names ↔ ∃ text ∈ texts, ∃ found, f text = .ok found ∧ x ∈ found := by
  constructor
  · intro h
    obtain ⟨all, hall, rfl⟩ := map_eq_ok_iff.mp h
    have hfound : ∀ text ∈ texts, ∃ found, f text = .ok found := by
      intro text htext
      obtain ⟨found, hfound, -⟩ := exists_of_collectNames hall text htext
      exact ⟨found, hfound⟩
    obtain ⟨all', hall', hmem⟩ := exists_collectNames hfound
    obtain rfl : all = all' := Except.ok.inj (hall.symm.trans hall')
    refine ⟨hfound, fun x => ?_⟩
    rw [SortedSet.mem_ofList, hmem]
  · rintro ⟨hfound, hmem⟩
    obtain ⟨all, hall, hmemAll⟩ := exists_collectNames hfound
    rw [hall]
    refine congrArg Except.ok (SortedSet.ext fun x => ?_)
    rw [SortedSet.mem_ofList, hmemAll, hmem]

theorem exists_map_collectNames_iff {f : String → Except DependencyError (List String)}
    {texts : List String} :
    (∃ names : NameSet, (collectNames f texts).map .ofList = .ok names) ↔
      ∀ text ∈ texts, ∃ found, f text = .ok found := by
  constructor
  · rintro ⟨names, hnames⟩
    exact (map_collectNames_eq_ok_iff.mp hnames).1
  · intro hfound
    obtain ⟨all, hall, -⟩ := exists_collectNames hfound
    exact ⟨.ofList all, map_eq_ok_iff.mpr ⟨all, hall, rfl⟩⟩

/-! ## Tables -/

namespace DependencyTable

/-- A table of a named class whose names are all valid passes its checks. -/
theorem exists_make {className : String} {m : OrderedMap Category NameSet} (hname : className ≠ "")
    (hvalid : ∀ e ∈ m.entries, ∀ x ∈ e.2, Name.defect? x = none) :
    ∃ t, make className m = .ok t ∧ t.byCategory = m := by
  have hnone : firstFailure? m = none := by
    refine List.findSome?_eq_none_iff.mpr fun e he => List.findSome?_eq_none_iff.mpr fun x hx => ?_
    rw [nameFailure?, hvalid e he x hx, Option.map_none]
  rw [make, dif_neg hname]
  split
  · rename_i e hsome
    rw [hnone] at hsome
    cases hsome
  · exact ⟨_, rfl, rfl⟩

/-- A table of a named class is refused for the names in it only. -/
theorem make_eq_error {className : String} {m : OrderedMap Category NameSet} {fault : Fault}
    (hname : className ≠ "") (h : make className m = .error fault) :
    ∃ name reason, fault = .failure (.badName name reason) := by
  rw [make, dif_neg hname] at h
  split at h
  · rename_i e hfail
    obtain ⟨entry, -, hfail⟩ := List.exists_of_findSome?_eq_some hfail
    obtain ⟨name, -, hfail⟩ := List.exists_of_findSome?_eq_some hfail
    obtain ⟨defect, -, rfl⟩ := Option.map_eq_some_iff.mp hfail
    exact ⟨name, defect.text, (Except.error.inj h).symm⟩
  · cases h

theorem eq_of_make {className : String} {m : OrderedMap Category NameSet} {t : DependencyTable}
    (h : make className m = .ok t) : t.className = className ∧ t.byCategory = m := by
  unfold make at h
  split at h
  · cases h
  · split at h
    · cases h
    · cases h
      exact ⟨rfl, rfl⟩

/-- Tables with the same entries for the same class are the same. -/
theorem ext_byCategory {s t : DependencyTable} (hclass : s.className = t.className)
    (hentries : s.byCategory = t.byCategory) : s = t := by
  cases s
  cases t
  cases hclass
  cases hentries
  rfl

/-- **A table is what it can be made of.** -/
theorem make_eq_ok_iff {className : String} {m : OrderedMap Category NameSet}
    {t : DependencyTable} :
    make className m = .ok t ↔ t.className = className ∧ t.byCategory = m := by
  refine ⟨eq_of_make, ?_⟩
  rintro ⟨rfl, rfl⟩
  obtain ⟨s, hs, hentries⟩ := exists_make t.named t.valid
  rw [hs, ext_byCategory (eq_of_make hs).1 hentries]

theorem mem_foldl_union {sets : List NameSet} {start : NameSet} {x : String} :
    x ∈ sets.foldl (· ∪ ·) start ↔ x ∈ start ∨ ∃ names ∈ sets, x ∈ names := by
  induction sets generalizing start with
  | nil => simp
  | cons names sets ih =>
      simp only [List.foldl_cons, ih, SortedSet.mem_union, List.mem_cons, exists_eq_or_imp,
        or_assoc]

/-- The merged names are those of some category. -/
theorem mem_merged {t : DependencyTable} {x : String} :
    x ∈ t.merged ↔ ∃ e ∈ t.byCategory.entries, x ∈ e.2 := by
  rw [merged, mem_foldl_union, OrderedMap.values]
  constructor
  · rintro (hempty | ⟨names, hnames, hx⟩)
    · exact absurd hempty (SortedSet.not_mem_empty x)
    · obtain ⟨e, he, rfl⟩ := List.mem_map.mp hnames
      exact ⟨e, he, hx⟩
  · rintro ⟨e, he, hx⟩
    exact Or.inr ⟨e.2, List.mem_map.mpr ⟨e, he, rfl⟩, hx⟩

end DependencyTable

/-! ## Extractions -/

theorem Category.nodup_all : Category.all.Nodup := by
  decide

theorem selectCategories_go (front : List Category) (rest : List Requested) :
    selectCategories.go (front.map .category ++ rest) =
      (selectCategories.go rest).map (front ++ ·) := by
  induction front with
  | nil => cases hrest : selectCategories.go rest <;> simp [Except.map, hrest]
  | cons category front ih =>
      rw [List.map_cons, List.cons_append, selectCategories.go, ih]
      cases selectCategories.go rest <;> rfl

/-- A request of categories is never refused. Each is taken once, in the order in which they were
first asked for. -/
theorem selectCategories_categories (categories : Option (List Category)) :
    selectCategories (categories.map (List.map .category)) =
      .ok ((categories.map List.eraseDups).getD Category.all) := by
  cases categories with
  | none => rfl
  | some l =>
      have hgo := selectCategories_go l []
      rw [List.append_nil] at hgo
      rw [Option.map_some, selectCategories, hgo]
      simp [selectCategories.go, Except.map]

theorem nodup_selected (categories : Option (List Category)) :
    ((categories.map List.eraseDups).getD Category.all).Nodup := by
  cases categories with
  | none => exact Category.nodup_all
  | some l => exact nodup_eraseDups l

theorem mem_selected_iff (categories : Option (List Category)) {category : Category} :
    category ∈ (categories.map List.eraseDups).getD Category.all ↔
      category ∈ categories.getD Category.all := by
  cases categories with
  | none => exact Iff.rfl
  | some l => exact List.mem_eraseDups

/-- What is no category is refused, the first if there are more. -/
theorem selectCategories_other (front : List Category) (value : RawValue)
    (back : List Requested) :
    selectCategories (some (front.map .category ++ .other value :: back)) =
      .error (.misuse (.notACategory value.shown)) := by
  rw [selectCategories, selectCategories_go]
  rfl

namespace ClassDecl

variable {c : ClassDecl} {names : Category → NameSet}

theorem mem_dropSelf {includeSelf : Bool} {s : NameSet} {x : String} :
    x ∈ c.dropSelf includeSelf s ↔ x ∈ s ∧ (includeSelf = false → x ≠ c.dottedName) := by
  cases includeSelf with
  | false => simp [dropSelf, SortedSet.mem_erase]
  | true => simp [dropSelf]

/-- Categories that have their names are computed in order. -/
theorem dependenciesOf_eq_ok (includeSelf : Bool) (categories : List Category)
    (h : ∀ category ∈ categories, c.namesIn category = .ok (names category)) :
    c.dependenciesOf includeSelf categories = .ok (categories.map fun category =>
      (category, c.dropSelf includeSelf (names category))) := by
  induction categories with
  | nil => rfl
  | cons category categories ih =>
      obtain ⟨hcategory, hcategories⟩ := List.forall_mem_cons.mp h
      rw [dependenciesOf, dependenciesIn, hcategory, ih hcategories]
      rfl

/-- **An extraction finds the names of all categories**, if every category has its names and every
name is valid. The class itself is among them only if it is asked for. -/
theorem allDependencies_eq_ok (includeSelf : Bool) (hname : c.dottedName ≠ "")
    (h : ∀ category, c.namesIn category = .ok (names category))
    (hvalid : ∀ category, ∀ x ∈ names category, Name.defect? x = none) :
    ∃ all, c.allDependencies includeSelf = .ok all ∧
      ∀ x, x ∈ all ↔
        (∃ category, x ∈ names category) ∧ (includeSelf = false → x ≠ c.dottedName) := by
  have hentries := OrderedMap.entries_ofList_map Category.nodup_all fun category =>
    c.dropSelf includeSelf (names category)
  have hchecked : ∀ e ∈ (OrderedMap.ofList (Category.all.map fun category =>
      (category, c.dropSelf includeSelf (names category)))).entries,
      ∀ x ∈ e.2, Name.defect? x = none := by
    rw [hentries]
    intro e he x hx
    obtain ⟨category, -, rfl⟩ := List.mem_map.mp he
    exact hvalid category x (mem_dropSelf.mp hx).1
  obtain ⟨t, hmake, ht⟩ := DependencyTable.exists_make hname hchecked
  refine ⟨t.merged, ?_, ?_⟩
  · have hcomputed := dependenciesOf_eq_ok includeSelf Category.all fun category _ => h category
    refine map_eq_ok_iff.mpr ⟨t, ?_, rfl⟩
    exact bind_eq_ok_iff.mpr ⟨_, rfl, bind_eq_ok_iff.mpr
      ⟨_, mapError_eq_ok_iff.mpr hcomputed, hmake⟩⟩
  · intro x
    rw [DependencyTable.mem_merged, ht, hentries]
    constructor
    · rintro ⟨e, he, hx⟩
      obtain ⟨category, -, rfl⟩ := List.mem_map.mp he
      exact ⟨⟨category, (mem_dropSelf.mp hx).1⟩, (mem_dropSelf.mp hx).2⟩
    · rintro ⟨⟨category, hx⟩, hself⟩
      exact ⟨_, List.mem_map.mpr ⟨category, category.mem_all, rfl⟩, mem_dropSelf.mpr ⟨hx, hself⟩⟩

/-- Categories that were computed have their names. -/
theorem exists_namesIn_of_dependenciesOf {includeSelf : Bool} {categories : List Category}
    {entries : List (Category × NameSet)}
    (h : c.dependenciesOf includeSelf categories = .ok entries) :
    ∀ category ∈ categories, ∃ found, c.namesIn category = .ok found := by
  induction categories generalizing entries with
  | nil => exact List.forall_mem_nil _
  | cons category categories ih =>
      obtain ⟨found, hfound, hmore⟩ := bind_eq_ok_iff.mp h
      obtain ⟨more, hmore, -⟩ := bind_eq_ok_iff.mp hmore
      obtain ⟨names, hnames, -⟩ := map_eq_ok_iff.mp hfound
      exact List.forall_mem_cons.mpr ⟨⟨names, hnames⟩, ih hmore⟩

/-- Categories that cannot all be computed fail like one of them. -/
theorem exists_of_dependenciesOf_eq_error {includeSelf : Bool} {categories : List Category}
    {e : DependencyError} (h : c.dependenciesOf includeSelf categories = .error e) :
    ∃ category ∈ categories, c.namesIn category = .error e := by
  induction categories with
  | nil => cases h
  | cons category categories ih =>
      rcases bind_eq_error_iff.mp h with hfirst | ⟨names, -, hrest⟩
      · exact ⟨category, List.mem_cons_self, map_eq_error_iff.mp hfirst⟩
      · rcases bind_eq_error_iff.mp hrest with hrest | ⟨more, -, hdone⟩
        · obtain ⟨k, hk, hnames⟩ := ih hrest
          exact ⟨k, List.mem_cons_of_mem _ hk, hnames⟩
        · cases hdone

/-- **How an extraction fails.** The analysis of a category fails; or all of them succeed, and some
name is no name of a dependency. -/
theorem extract_eq_error_cases {includeSelf : Bool} {categories : Option (List Category)}
    {fault : Fault} (hname : c.dottedName ≠ "")
    (h : c.extract includeSelf (categories.map (List.map .category)) = .error fault) :
    (∃ category ∈ categories.getD Category.all, ∃ e, c.namesIn category = .error e ∧
        fault = .failure e) ∨
      (∀ category ∈ categories.getD Category.all, ∃ names, c.namesIn category = .ok names) ∧
        ∃ name reason, fault = .failure (.badName name reason) := by
  have hselected := selectCategories_categories categories
  rcases bind_eq_error_iff.mp h with hnot | ⟨selected, hok, h⟩
  · rw [hselected] at hnot
    cases hnot
  · obtain rfl := Except.ok.inj (hselected.symm.trans hok)
    rcases bind_eq_error_iff.mp h with hfailed | ⟨entries, hentries, hmake⟩
    · obtain ⟨e, he, rfl⟩ := mapError_eq_error_iff.mp hfailed
      obtain ⟨k, hk, hnames⟩ := exists_of_dependenciesOf_eq_error he
      exact Or.inl ⟨k, (mem_selected_iff categories).mp hk, e, hnames, rfl⟩
    · have hfound := exists_namesIn_of_dependenciesOf (mapError_eq_ok_iff.mp hentries)
      refine Or.inr ⟨fun k hk => ?_, DependencyTable.make_eq_error hname hmake⟩
      exact hfound k ((mem_selected_iff categories).mpr hk)

/-- An extraction of categories from a class with a name fails as an analysis, and in no other way.
-/
theorem extract_eq_error {includeSelf : Bool} {categories : Option (List Category)} {fault : Fault}
    (hname : c.dottedName ≠ "")
    (h : c.extract includeSelf (categories.map (List.map .category)) = .error fault) :
    ∃ e, fault = .failure e := by
  rcases extract_eq_error_cases hname h with ⟨-, -, e, -, rfl⟩ | ⟨-, name, reason, rfl⟩
  · exact ⟨e, rfl⟩
  · exact ⟨_, rfl⟩

/-! ## One category -/

/-- What is known once all dependencies of a class were found: the class has a name, every category
has its names, these are valid, and together they are the dependencies. -/
structure Found (c : ClassDecl) (includeSelf : Bool) (names : Category → NameSet) (all : NameSet) :
    Prop where
  named : c.dottedName ≠ ""
  namesIn : ∀ category, c.namesIn category = .ok (names category)
  valid : ∀ category, ∀ x ∈ c.dropSelf includeSelf (names category), Name.defect? x = none
  mem_iff : ∀ x, x ∈ all ↔ ∃ category, x ∈ c.dropSelf includeSelf (names category)

variable {includeSelf : Bool} {all : NameSet}

theorem exists_found_of_allDependencies (h : c.allDependencies includeSelf = .ok all) :
    ∃ names, c.Found includeSelf names all := by
  obtain ⟨t, hextract, rfl⟩ := map_eq_ok_iff.mp h
  have hcomputed : ((c.dependenciesOf includeSelf Category.all).mapError Fault.failure >>=
      fun entries => DependencyTable.make c.dottedName (.ofList entries)) = .ok t := hextract
  obtain ⟨entries, hentries, hmake⟩ := bind_eq_ok_iff.mp hcomputed
  rw [mapError_eq_ok_iff] at hentries
  have hfound : ∀ category, ∃ found, c.namesIn category = .ok found := fun category =>
    exists_namesIn_of_dependenciesOf hentries category category.mem_all
  obtain ⟨names, hnames⟩ := Classical.axiomOfChoice hfound
  -- so the entries are those of the names, and the table has been checked for them
  have hcategories :=
    dependenciesOf_eq_ok includeSelf Category.all fun category _ => hnames category
  rw [hentries] at hcategories
  obtain rfl := Except.ok.inj hcategories
  obtain ⟨hclass, htable⟩ := DependencyTable.eq_of_make hmake
  have hbyCategory := congrArg OrderedMap.entries htable
  rw [OrderedMap.entries_ofList_map Category.nodup_all] at hbyCategory
  have hentry : ∀ category,
      (category, c.dropSelf includeSelf (names category)) ∈ t.byCategory.entries := by
    intro category
    rw [hbyCategory]
    exact List.mem_map_of_mem category.mem_all
  refine ⟨names, hclass ▸ t.named, hnames, fun category => t.valid _ (hentry category), ?_⟩
  intro x
  rw [DependencyTable.mem_merged]
  constructor
  · rintro ⟨e, he, hx⟩
    rw [hbyCategory] at he
    obtain ⟨category, -, rfl⟩ := List.mem_map.mp he
    exact ⟨category, hx⟩
  · rintro ⟨category, hx⟩
    exact ⟨_, hentry category, hx⟩

/-- **A single category can be extracted if all dependencies can**, and has its own among them. -/
theorem Found.extract_category (h : c.Found includeSelf names all) (category : Category) :
    (c.extract includeSelf (some [.category category])).map (·.get category) =
      .ok (c.dropSelf includeSelf (names category)) := by
  have hvalid : ∀ e ∈ (OrderedMap.ofList
      [(category, c.dropSelf includeSelf (names category))]).entries,
      ∀ x ∈ e.2, Name.defect? x = none := by
    intro e he
    obtain rfl := List.mem_singleton.mp (OrderedMap.mem_of_mem_ofList he)
    exact h.valid category
  obtain ⟨t, hmake, ht⟩ := DependencyTable.exists_make h.named hvalid
  have hcomputed := dependenciesOf_eq_ok includeSelf [category] fun k _ => h.namesIn k
  have hextract : c.extract includeSelf (some [.category category]) = .ok t := by
    refine bind_eq_ok_iff.mpr ⟨[category], selectCategories_categories (some [category]), ?_⟩
    exact bind_eq_ok_iff.mpr ⟨_, mapError_eq_ok_iff.mpr hcomputed, hmake⟩
  have hget : t.get category = c.dropSelf includeSelf (names category) := by
    rw [DependencyTable.get, DependencyTable.get?, ht]
    exact congrArg (Option.getD · ∅) (OrderedMap.get?_eq_some_iff.mpr List.mem_cons_self)
  rw [hextract]
  exact congrArg Except.ok hget

/-- The types of all methods are found without a check of their names, and are the same. -/
theorem Found.selectedNames_all (h : c.Found includeSelf names all) :
    (c.selectedNames none none).map (c.dropSelf includeSelf) =
      .ok (c.dropSelf includeSelf (names .methodSignature)) := by
  have hsignatures : c.signatureNames = .ok (names .methodSignature) := h.namesIn .methodSignature
  show ((c.signatureNames.mapError Fault.failure).map _) = _
  rw [hsignatures]
  rfl

/-- The class itself is left out, unless it is to be kept. -/
theorem Found.dottedName_not_mem (h : c.Found false names all) : c.dottedName ∉ all := by
  intro hmem
  obtain ⟨category, hx⟩ := (h.mem_iff _).mp hmem
  exact (mem_dropSelf.mp hx).2 rfl rfl

/-- All dependencies, category by category; the superclass counts unless it is the class itself and
left out. -/
theorem Found.mem_all_iff (h : c.Found includeSelf names all) (x : String) :
    x ∈ all ↔ x ∈ c.dropSelf includeSelf (names .annotationType) ∨
      (c.superclass? = some x ∧ (includeSelf = false → x ≠ c.dottedName)) ∨
      x ∈ c.dropSelf includeSelf (names .interface) ∨
      x ∈ c.dropSelf includeSelf (names .fieldType) ∨
      x ∈ c.dropSelf includeSelf (names .methodSignature) ∨
      x ∈ c.dropSelf includeSelf (names .bodyReference) := by
  have hsuper : x ∈ c.dropSelf includeSelf (names .superClass) ↔
      c.superclass? = some x ∧ (includeSelf = false → x ≠ c.dottedName) := by
    have hnames : c.superclassNames = names .superClass := Except.ok.inj (h.namesIn .superClass)
    rw [mem_dropSelf, ← hnames, superclassNames, SortedSet.mem_ofList, Option.mem_toList]
  rw [h.mem_iff, ← hsuper]
  constructor
  · rintro ⟨category, hx⟩
    cases category <;> simp only [hx, true_or, or_true]
  · rintro (hx | hx | hx | hx | hx | hx)
    all_goals exact ⟨_, hx⟩

/-- **The categories make up all dependencies**, unless the class is its own superclass and left
out. -/
theorem Found.all_eq_union_iff (h : c.Found includeSelf names all) :
    all = c.dropSelf includeSelf (names .annotationType) ∪ .ofList c.superclass?.toList ∪
        c.dropSelf includeSelf (names .interface) ∪ c.dropSelf includeSelf (names .fieldType) ∪
        c.dropSelf includeSelf (names .methodSignature) ∪
        c.dropSelf includeSelf (names .bodyReference) ↔
      ¬ (includeSelf = false ∧ c.superclass? = some c.dottedName) := by
  constructor
  · rintro hunion ⟨rfl, hsuper⟩
    have hmem : c.dottedName ∈ all := by
      rw [hunion]
      simp [hsuper]
    exact h.dottedName_not_mem hmem
  · intro hnot
    refine SortedSet.ext fun x => ?_
    have hsuper : (c.superclass? = some x ∧ (includeSelf = false → x ≠ c.dottedName)) ↔
        c.superclass? = some x := by
      refine and_iff_left_of_imp fun hx hself hsame => hnot ⟨hself, ?_⟩
      rw [hx, hsame]
    rw [h.mem_all_iff, hsuper]
    simp only [SortedSet.mem_union, SortedSet.mem_ofList, Option.mem_toList, or_assoc]

/-! ## Tables of requests -/

/-- The entries that were computed are those of the categories, in order. -/
theorem entries_of_dependenciesOf {selected : List Category}
    {entries : List (Category × NameSet)}
    (h : c.dependenciesOf includeSelf selected = .ok entries) :
    entries.map Prod.fst = selected
      ∧ ∀ e ∈ entries, c.dependenciesIn includeSelf e.1 = .ok e.2 := by
  induction selected generalizing entries with
  | nil =>
      obtain rfl := Except.ok.inj h
      simp
  | cons category selected ih =>
      obtain ⟨names, hnames, hrest⟩ := bind_eq_ok_iff.mp h
      obtain ⟨more, hmore, hentries⟩ := bind_eq_ok_iff.mp hrest
      obtain rfl := pure_eq_ok_iff.mp hentries
      obtain ⟨hkeys, hcomputed⟩ := ih hmore
      exact ⟨by rw [List.map_cons, hkeys], List.forall_mem_cons.mpr ⟨hnames, hcomputed⟩⟩

theorem dependenciesOf_eq_ok_iff {selected : List Category} {entries : List (Category × NameSet)} :
    c.dependenciesOf includeSelf selected = .ok entries ↔ entries.map Prod.fst = selected
      ∧ ∀ e ∈ entries, c.dependenciesIn includeSelf e.1 = .ok e.2 := by
  refine ⟨entries_of_dependenciesOf, ?_⟩
  rintro ⟨rfl, hcomputed⟩
  induction entries with
  | nil => rfl
  | cons e entries ih =>
      obtain ⟨he, hentries⟩ := List.forall_mem_cons.mp hcomputed
      rw [List.map_cons, dependenciesOf, he, ih hentries]
      rfl

end ClassDecl

/-- The table has the dependencies of some categories of a class, in order. -/
structure DependencyTable.Of (c : ClassDecl) (includeSelf : Bool) (selected : List Category)
    (t : DependencyTable) : Prop where
  className : t.className = c.dottedName
  categories : t.categories = selected
  computed : ∀ category ∈ selected, c.dependenciesIn includeSelf category = .ok (t.get category)

namespace DependencyTable

variable {c : ClassDecl} {includeSelf : Bool} {selected : List Category} {t : DependencyTable}

/-- A category that was computed has its names. -/
theorem get?_eq_some_get {category : Category} (h : category ∈ t.categories) :
    t.get? category = some (t.get category) := by
  obtain ⟨names, hnames⟩ := OrderedMap.mem_keys_iff.mp h
  rw [get, get?, hnames]
  rfl

/-- The names of a category are valid. -/
theorem defect?_of_mem_get {category : Category} {x : String} (hx : x ∈ t.get category) :
    Name.defect? x = none := by
  cases hget : t.get? category with
  | none =>
      rw [get, hget] at hx
      exact absurd hx (SortedSet.not_mem_empty x)
  | some names =>
      rw [get, hget] at hx
      exact t.valid _ (OrderedMap.get?_eq_some_iff.mp hget) x hx

/-- An entry of a table has the names of its category. -/
theorem get_of_mem {category : Category} {names : NameSet}
    (h : (category, names) ∈ t.byCategory.entries) : t.get category = names := by
  rw [get, get?, OrderedMap.get?_eq_some_iff.mpr h]
  rfl

/-- There is a table of different categories exactly if the class has a name, every category is
computed, and all names are valid. -/
theorem exists_of_iff (hnodup : selected.Nodup) :
    (∃ t : DependencyTable, t.Of c includeSelf selected) ↔
      c.dottedName ≠ "" ∧ ∀ category ∈ selected, ∃ names,
        c.dependenciesIn includeSelf category = .ok names ∧ ∀ x ∈ names, Name.defect? x = none := by
  constructor
  · rintro ⟨t, ht⟩
    refine ⟨ht.className ▸ t.named, fun category hcategory => ?_⟩
    exact ⟨t.get category, ht.computed category hcategory, fun x => defect?_of_mem_get⟩
  · rintro ⟨hname, hcomputed⟩
    let names := fun category => ((c.dependenciesIn includeSelf category).toOption).getD ∅
    have hnames : ∀ category ∈ selected,
        c.dependenciesIn includeSelf category = .ok (names category)
          ∧ ∀ x ∈ names category, Name.defect? x = none := by
      intro category hcategory
      obtain ⟨found, hfound, hvalid⟩ := hcomputed category hcategory
      obtain rfl : names category = found := by
        show ((c.dependenciesIn includeSelf category).toOption).getD ∅ = found
        rw [hfound]
        rfl
      exact ⟨hfound, hvalid⟩
    have hentries := OrderedMap.entries_ofList_map hnodup names
    obtain ⟨t, hmake, ht⟩ := exists_make hname (m := .ofList (selected.map fun k => (k, names k)))
      (by
        rw [hentries]
        intro e he
        obtain ⟨category, hcategory, rfl⟩ := List.mem_map.mp he
        exact (hnames category hcategory).2)
    rw [← ht] at hentries
    refine ⟨t, (eq_of_make hmake).1, ?_, fun category hcategory => ?_⟩
    · rw [categories, OrderedMap.keys, hentries, List.map_map]
      exact List.map_id selected
    · have hmem : (category, names category) ∈ t.byCategory.entries := by
        rw [hentries]
        exact List.mem_map_of_mem hcategory
      rw [get_of_mem hmem]
      exact (hnames category hcategory).1

end DependencyTable

namespace ClassDecl

variable {c : ClassDecl} {includeSelf : Bool}

/-- **An extraction of categories comes to the table of these categories**, each once and in the
order in which they were first asked for. -/
theorem extract_eq_ok_iff (categories : Option (List Category)) {t : DependencyTable} :
    c.extract includeSelf (categories.map (List.map .category)) = .ok t ↔
      t.Of c includeSelf ((categories.map List.eraseDups).getD Category.all) := by
  have hnodup := nodup_selected categories
  constructor
  · intro h
    obtain ⟨selected, hselected, h⟩ := bind_eq_ok_iff.mp h
    obtain ⟨entries, hentries, hmake⟩ := bind_eq_ok_iff.mp h
    rw [selectCategories_categories] at hselected
    obtain rfl := Except.ok.inj hselected
    obtain ⟨hkeys, hcomputed⟩ := entries_of_dependenciesOf (mapError_eq_ok_iff.mp hentries)
    obtain ⟨hclass, htable⟩ := DependencyTable.eq_of_make hmake
    have hkept : t.byCategory.entries = entries := by
      rw [htable, OrderedMap.entries_ofList (hkeys ▸ hnodup)]
    refine ⟨hclass, by rw [DependencyTable.categories, OrderedMap.keys, hkept, hkeys], ?_⟩
    intro category hcategory
    rw [← hkeys] at hcategory
    obtain ⟨⟨k, names⟩, hmem, rfl⟩ := List.mem_map.mp hcategory
    rw [DependencyTable.get_of_mem (hkept.symm ▸ hmem)]
    exact hcomputed _ hmem
  · intro h
    have hentries : c.dependenciesOf includeSelf
        ((categories.map List.eraseDups).getD Category.all) = .ok t.byCategory.entries := by
      refine dependenciesOf_eq_ok_iff.mpr ⟨h.categories, ?_⟩
      rintro ⟨k, names⟩ hmem
      have hk : k ∈ t.categories := List.mem_map_of_mem hmem
      rw [h.computed k (h.categories ▸ hk), DependencyTable.get_of_mem hmem]
    refine bind_eq_ok_iff.mpr ⟨_, selectCategories_categories categories, ?_⟩
    refine bind_eq_ok_iff.mpr ⟨_, mapError_eq_ok_iff.mpr hentries, ?_⟩
    refine DependencyTable.make_eq_ok_iff.mpr ⟨h.className, OrderedMap.entries_injective ?_⟩
    rw [OrderedMap.entries_ofList t.byCategory.nodup]

/-- **When an extraction of categories succeeds.** -/
theorem exists_extract_iff (categories : Option (List Category)) :
    (∃ t, c.extract includeSelf (categories.map (List.map .category)) = .ok t) ↔
      c.dottedName ≠ "" ∧ ∀ category ∈ categories.getD Category.all, ∃ names,
        c.dependenciesIn includeSelf category = .ok names ∧ ∀ x ∈ names, Name.defect? x = none := by
  simp only [extract_eq_ok_iff, DependencyTable.exists_of_iff (nodup_selected categories),
    mem_selected_iff]

end ClassDecl

end JvmDeps
