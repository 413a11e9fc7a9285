import JvmDeps.Proofs.Dependency.Extraction

set_option autoImplicit false

/-! # Surveys and extractions

An extraction stops at the first category that fails, and checks the names once all categories are
there. A survey computes every category by itself and keeps what each came to; the names are checked
when its table is asked for. `Survey.Of` says what the survey of a class holds.

The two agree (`ClassDecl.exists_survey_agrees`). An extraction fails with the fault of the first
category that failed in the survey (`Survey.Of.extract_eq_error`), and if none did, it comes to what
the table of the survey comes to (`Survey.Of.extract_eq_table`).
-/

namespace JvmDeps

variable {c : ClassDecl} {includeSelf : Bool} {requested : Option (List Requested)}
  {selected : List Category} {s : Survey}

/-- The survey says of each selected category of a class what it comes to, in order. -/
structure Survey.Of (c : ClassDecl) (includeSelf : Bool) (selected : List Category) (s : Survey) :
    Prop where
  className : s.className = c.dottedName
  entries : s.outcomes.entries = selected.map fun category =>
    (category, (c.dependenciesIn includeSelf category).mapError .failure)

theorem Survey.Of.keys_eq (h : s.Of c includeSelf selected) : s.outcomes.keys = selected := by
  rw [OrderedMap.keys, h.entries, List.map_map]
  exact List.map_id selected

/-- **A class with a name can be surveyed**, whatever its categories come to. -/
theorem ClassDecl.exists_survey (includeSelf : Bool) (hname : c.dottedName ≠ "")
    (hselected : selectCategories requested = .ok selected) (hnodup : selected.Nodup) :
    ∃ s, c.survey includeSelf requested = .ok s ∧ s.Of c includeSelf selected := by
  refine ⟨⟨c.dottedName, .ofList _⟩, ?_, rfl, OrderedMap.entries_ofList_map hnodup _⟩
  rw [ClassDecl.survey, hselected]
  exact if_neg hname

/-- Both refuse what is no category, and the same if there is more of it. -/
theorem ClassDecl.extract_survey_other (c : ClassDecl) (includeSelf : Bool) (front : List Category)
    (value : RawValue) (back : List Requested) :
    let requested := some (front.map Requested.category ++ .other value :: back)
    c.extract includeSelf requested = .error (.misuse (.notACategory value.shown)) ∧
      c.survey includeSelf requested = .error (.misuse (.notACategory value.shown)) := by
  intro requested
  have hother := selectCategories_other front value back
  constructor
  · rw [ClassDecl.extract, hother]
    rfl
  · rw [ClassDecl.survey, hother]
    rfl

/-! ## The first failure -/

/-- The categories up to the first that fails are computed, and none after it. -/
theorem ClassDecl.dependenciesOf_eq_error {before after : List Category} {category : Category}
    {e : DependencyError} (hbefore : ∀ k ∈ before, (c.dependenciesIn includeSelf k).isOk = true)
    (h : c.dependenciesIn includeSelf category = .error e) :
    c.dependenciesOf includeSelf (before ++ category :: after) = .error e := by
  induction before with
  | nil =>
      rw [List.nil_append, dependenciesOf, h]
      rfl
  | cons k before ih =>
      obtain ⟨hk, hrest⟩ := List.forall_mem_cons.mp hbefore
      rw [List.cons_append, dependenciesOf, ih hrest]
      cases hnames : c.dependenciesIn includeSelf k with
      | error e' =>
          rw [hnames] at hk
          cases hk
      | ok names => rfl

theorem isOk_mapError {ε ε' α : Type} (f : ε → ε') (x : Except ε α) :
    (x.mapError f).isOk = x.isOk := by
  cases x <;> rfl

/-- **An extraction fails where the survey does first.** -/
theorem Survey.Of.extract_eq_error (h : s.Of c includeSelf selected)
    (hselected : selectCategories requested = .ok selected)
    {before after : List (Category × Except Fault NameSet)} {category : Category} {fault : Fault}
    (hentries : s.outcomes.entries = before ++ (category, .error fault) :: after)
    (hbefore : ∀ e ∈ before, e.2.isOk = true) :
    c.extract includeSelf requested = .error fault := by
  -- the entries are in step with the categories
  rw [h.entries] at hentries
  obtain ⟨front, rest, rfl, rfl, hrest⟩ := List.map_eq_append_iff.mp hentries
  obtain ⟨k, back, rfl, hk, -⟩ := List.map_eq_cons_iff.mp hrest
  obtain ⟨rfl, hfault⟩ := Prod.mk.inj hk
  have hfront : ∀ k ∈ front, (c.dependenciesIn includeSelf k).isOk = true := by
    intro k hk
    have hok := hbefore _ (List.mem_map_of_mem hk)
    rwa [isOk_mapError] at hok
  rw [ClassDecl.extract, hselected]
  show (((c.dependenciesOf includeSelf _).mapError Fault.failure) >>= _) = _
  cases hnames : c.dependenciesIn includeSelf k with
  | ok names =>
      rw [hnames] at hfault
      cases hfault
  | error e =>
      rw [hnames] at hfault
      obtain rfl : Fault.failure e = fault := Except.error.inj hfault
      rw [ClassDecl.dependenciesOf_eq_error hfront hnames]
      rfl

/-! ## No failure -/

/-- **An extraction of which no category fails comes to what the survey's table comes to.** -/
theorem Survey.Of.extract_eq_table (h : s.Of c includeSelf selected)
    (hselected : selectCategories requested = .ok selected) (hnodup : selected.Nodup)
    (hok : ∀ e ∈ s.outcomes.entries, e.2.isOk = true) :
    c.extract includeSelf requested = s.table := by
  let names := fun category => ((c.namesIn category).toOption).getD ∅
  have hnames : ∀ category ∈ selected, c.namesIn category = .ok (names category) := by
    intro category hcategory
    have hentry : (category, (c.dependenciesIn includeSelf category).mapError Fault.failure) ∈
        s.outcomes.entries := by
      rw [h.entries]
      exact List.mem_map_of_mem hcategory
    have hfound := hok _ hentry
    rw [isOk_mapError, ClassDecl.dependenciesIn] at hfound
    show _ = Except.ok (((c.namesIn category).toOption).getD ∅)
    cases hin : c.namesIn category with
    | error e =>
        rw [hin] at hfound
        cases hfound
    | ok found => rfl
  have hcomputed := ClassDecl.dependenciesOf_eq_ok includeSelf selected hnames
  -- both tables have the same entries, one category after the other
  have htable : OrderedMap.ofList (selected.map fun category =>
      (category, c.dropSelf includeSelf (names category))) =
        s.outcomes.filterMapValues Except.toOption := by
    apply OrderedMap.entries_injective
    rw [OrderedMap.entries_ofList_map hnodup]
    have hentries : s.outcomes.entries = selected.map fun category =>
        (category, Except.ok (c.dropSelf includeSelf (names category))) := by
      rw [h.entries]
      refine List.map_congr_left fun category hcategory => ?_
      rw [ClassDecl.dependenciesIn, hnames category hcategory]
      rfl
    show _ = s.outcomes.entries.filterMap _
    rw [hentries, List.filterMap_map]
    exact (congrFun List.filterMap_eq_map selected).symm
  rw [ClassDecl.extract, hselected]
  show (((c.dependenciesOf includeSelf selected).mapError Fault.failure) >>= _) = _
  rw [hcomputed, Survey.table, h.className, ← htable]
  rfl

/-! ## Requests of categories -/

/-- **A request of categories is surveyed**, each category once and in order, and the extraction
follows from the survey. -/
theorem ClassDecl.exists_survey_agrees (hname : c.dottedName ≠ "") (includeSelf : Bool)
    (categories : Option (List Category)) :
    let requested := categories.map (List.map Requested.category)
    ∃ s, c.survey includeSelf requested = .ok s ∧ s.className = c.dottedName ∧
      s.outcomes.keys = (categories.map List.eraseDups).getD Category.all ∧
      (∀ before category fault after,
        s.outcomes.entries = before ++ (category, .error fault) :: after →
          (∀ e ∈ before, e.2.isOk = true) → c.extract includeSelf requested = .error fault) ∧
      ((∀ e ∈ s.outcomes.entries, e.2.isOk = true) →
        c.extract includeSelf requested = s.table) := by
  intro requested
  have hselected := selectCategories_categories categories
  have hnodup := nodup_selected categories
  obtain ⟨s, hs, hof⟩ := exists_survey includeSelf hname hselected hnodup
  refine ⟨s, hs, hof.className, hof.keys_eq, ?_, hof.extract_eq_table hselected hnodup⟩
  intro before category fault after hentries hbefore
  exact hof.extract_eq_error hselected hentries hbefore

end JvmDeps
