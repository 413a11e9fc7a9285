import JvmDeps.Proofs.Repository.Agreement

set_option autoImplicit false

/-! # Edges of batches

A batch draws an edge from every class that was extracted to each of its dependencies. Its outcomes
stand under the names as they were asked for, and failures are among them, but none of this shows in
the edges: `Repository.Later.edges_eq_ok_iff` says that they are what each of the names draws on its
own (`Repository.Draws`). So the edges of a batch are a matter of the set of the classes that were
asked for, whatever the order, the repetitions and the spelling of their names (`batch_edges`).
-/

namespace JvmDeps

/-- An edge is drawn for a dependency of a class that was extracted. -/
theorem Batch.mem_edges {b : Batch} {e : Edge} :
    e ∈ b.edges ↔ ∃ name t, (name, .ok t) ∈ b.outcomes.entries ∧
      e.source = t.className ∧ e.target ∈ t.merged := by
  have hsucceeded {name : String} {t : DependencyTable} :
      (name, t) ∈ b.succeeded.entries ↔ (name, .ok t) ∈ b.outcomes.entries := by
    rw [succeeded, OrderedMap.mem_filterMapValues]
    constructor
    · rintro ⟨outcome, hmem, hok⟩
      cases outcome with
      | error fault => cases hok
      | ok t' =>
          cases hok
          exact hmem
    · intro hmem
      exact ⟨.ok t, hmem, rfl⟩
  rw [edges, SortedSet.mem_ofList, List.mem_flatMap]
  constructor
  · rintro ⟨t, ht, he⟩
    obtain ⟨⟨name, t⟩, hmem, rfl⟩ := List.mem_map.mp ht
    obtain ⟨target, htarget, rfl⟩ := List.mem_map.mp he
    exact ⟨name, t, hsucceeded.mp hmem, rfl, htarget⟩
  · rintro ⟨name, t, hmem, hsource, htarget⟩
    refine ⟨t, List.mem_map.mpr ⟨(name, t), hsucceeded.mpr hmem, rfl⟩, ?_⟩
    exact List.mem_map.mpr ⟨e.target, htarget, by rw [← hsource]⟩

namespace Repository

/-! ## Outcomes -/

/-- If it fails, then as an analysis. -/
def Keepable {α : Type} (x : Except Fault α) : Prop :=
  ∀ fault, x = .error fault → ∃ e, fault = .failure e

theorem keepFailure_eq_ok_iff {α : Type} {x y : Except Fault α} :
    keepFailure x = .ok y ↔ Keepable x ∧ y = x := by
  constructor
  · intro h
    cases x with
    | ok a =>
        cases h
        exact ⟨nofun, rfl⟩
    | error fault =>
        cases fault with
        | failure e =>
            cases h
            refine ⟨?_, rfl⟩
            rintro _ ⟨⟩
            exact ⟨e, rfl⟩
        | misuse m => cases h
        | raised kind text => cases h
  · rintro ⟨hkeepable, rfl⟩
    exact Schedule.keepFailure_eq_ok hkeepable

/-- What the extraction of a class comes to. -/
def outcome (r : Repository) (job : Schedule.Job) (name : String) : Except Fault DependencyTable :=
  r.found job.host name >>= fun c => c.extract job.includeSelf job.requested

/-- The class of a name draws an edge: it was extracted and depends on the target. -/
def Draws (r : Repository) (job : Schedule.Job) (name : String) (e : Edge) : Prop :=
  ∃ t, r.outcome job name = .ok t ∧ e.source = t.className ∧ e.target ∈ t.merged

variable {r r₀ s : Repository} {job : Schedule.Job} {name other : String}
  {names xs ys : List String}
  {workers : Option Int} {e : Edge} {E : SortedSet Edge}

/-- In every later state, an extraction comes to what it came to in the beginning. -/
theorem Later.tryExtract_fst (hfresh : r₀.Fresh) (h : Later job.host r₀ r) (name : String) :
    (r.tryExtract job.host job.includeSelf name job.requested).1 =
      keepFailure (r₀.outcome job name) := by
  rw [Repository.tryExtract_fst, h.found_eq hfresh, outcome]

theorem Later.tryExtract_eq_ok_iff (job : Schedule.Job) (hfresh : r₀.Fresh)
    (h : Later job.host r₀ r) {t : DependencyTable} :
    (r.tryExtract job.host job.includeSelf name job.requested).1 = .ok (.ok t) ↔
      r₀.outcome job name = .ok t := by
  rw [h.tryExtract_fst hfresh, keepFailure_eq_ok_iff]
  constructor
  · rintro ⟨-, hok⟩
    exact hok.symm
  · intro hok
    rw [hok]
    exact ⟨nofun, rfl⟩

/-- Classes that are extracted one after the other come each to its outcome. -/
theorem Later.outcomes_eq_ok_iff (hfresh : r₀.Fresh) (h : Later job.host r₀ r)
    {entries : List (String × Except Fault DependencyTable)} :
    (outcomes job.host job.includeSelf job.requested names r).1 = .ok entries ↔
      (∀ name ∈ names, Keepable (r₀.outcome job name)) ∧
        entries = names.map fun name => (name, r₀.outcome job name) := by
  induction names generalizing r entries with
  | nil =>
      rw [outcomes]
      simp [eq_comm]
  | cons name names ih =>
      have hfirst := h.tryExtract_fst hfresh name
      -- the other classes are asked for in the state after this one, which is a later state again
      have hnext := h.perform job.includeSelf (.tryExtract name job.requested)
      change Later job.host r₀ (r.tryExtract job.host job.includeSelf name job.requested).2
        at hnext
      have hcons : (outcomes job.host job.includeSelf job.requested (name :: names) r).1 =
          gather name (keepFailure (r₀.outcome job name))
            (outcomes job.host job.includeSelf job.requested names
              (r.tryExtract job.host job.includeSelf name job.requested).2).1 := by
        rw [← hfirst]
        rfl
      rw [hcons, gather, List.forall_mem_cons, List.map_cons]
      simp only [bind_eq_ok_iff, keepFailure_eq_ok_iff, ih hnext, pure_eq_ok_iff]
      constructor
      · rintro ⟨_, ⟨hkeepable, rfl⟩, _, ⟨hnames, rfl⟩, rfl⟩
        exact ⟨⟨hkeepable, hnames⟩, rfl⟩
      · rintro ⟨⟨hkeepable, hnames⟩, rfl⟩
        exact ⟨_, ⟨hkeepable, rfl⟩, _, ⟨hnames, rfl⟩, rfl⟩

/-- A class that was extracted is the one that was asked for. -/
theorem className_of_outcome {t : DependencyTable} (hfresh : r.Fresh)
    (h : r.outcome job name = .ok t) : t.className = Name.toDotted name := by
  obtain ⟨c, hfound, hextract⟩ := bind_eq_ok_iff.mp h
  obtain ⟨_, -, hrest⟩ := bind_eq_ok_iff.mp hextract
  obtain ⟨_, -, hmake⟩ := bind_eq_ok_iff.mp hrest
  -- the table is made for the class that was found, and this one has the name that was asked for
  have hnamed : r.leases.Named := hfresh.leases_eq ▸ nofun
  rw [(DependencyTable.eq_of_make hmake).1, ClassDecl.dottedName, name_of_found hnamed hfound,
    Name.toDotted_toInternal]

/-- The two spellings of a name come to the same table, if to any, and fail as an analysis in the
same cases. -/
theorem outcome_of_spelling (hname : Name.toInternal other = Name.toInternal name)
    (r : Repository) (job : Schedule.Job) :
    (∀ t, r.outcome job other = .ok t ↔ r.outcome job name = .ok t) ∧
      (Keepable (r.outcome job other) ↔ Keepable (r.outcome job name)) := by
  rcases found_of_spelling_or_notFound hname r job.host with hsame | ⟨scope, hother, hname⟩
  · have houtcome : r.outcome job other = r.outcome job name := by
      rw [outcome, outcome, hsame]
    rw [houtcome]
    exact ⟨fun t => Iff.rfl, Iff.rfl⟩
  · -- neither leads to a class
    have hmissing : ∀ n, r.found job.host n = .error (notFound n scope) →
        r.outcome job n = .error (notFound n scope) := by
      intro n hn
      rw [outcome, hn]
      rfl
    rw [hmissing other hother, hmissing name hname]
    refine ⟨fun t => iff_of_false nofun nofun, iff_of_true ?_ ?_⟩
    · rintro _ ⟨⟩
      exact ⟨_, rfl⟩
    · rintro _ ⟨⟩
      exact ⟨_, rfl⟩

theorem draws_iff (hfresh : r.Fresh) : r.Draws job name e ↔
    e.source = Name.toDotted name ∧ ∃ t, r.outcome job name = .ok t ∧ e.target ∈ t.merged := by
  constructor
  · rintro ⟨t, houtcome, hsource, htarget⟩
    exact ⟨hsource.trans (className_of_outcome hfresh houtcome), t, houtcome, htarget⟩
  · rintro ⟨hsource, t, houtcome, htarget⟩
    exact ⟨t, houtcome, hsource.trans (className_of_outcome hfresh houtcome).symm, htarget⟩

theorem draws_of_spelling (hname : Name.toInternal other = Name.toInternal name)
    (h : r.Draws job name e) : r.Draws job other e := by
  obtain ⟨t, houtcome, hedge⟩ := h
  exact ⟨t, ((outcome_of_spelling hname r job).1 t).mpr houtcome, hedge⟩

/-- A class that is to be left out of its own dependencies draws no edge to itself. -/
theorem source_ne_target_of_draws (job : Schedule.Job) {categories : Option (List Category)}
    (hrequested : job.requested = categories.map (List.map .category))
    (hself : job.includeSelf = false) (h : r.Draws job name e) : e.source ≠ e.target := by
  obtain ⟨t, houtcome, hsource, htarget⟩ := h
  obtain ⟨c, -, hextract⟩ := bind_eq_ok_iff.mp houtcome
  rw [hrequested, hself] at hextract
  have hof := (ClassDecl.extract_eq_ok_iff categories).mp hextract
  obtain ⟨⟨k, found⟩, hentry, hmem⟩ := DependencyTable.mem_merged.mp htarget
  have hk : k ∈ t.categories := List.mem_map_of_mem hentry
  -- the names of the category are those that are left without the class
  have hcomputed := hof.computed k (hof.categories ▸ hk)
  rw [DependencyTable.get_of_mem hentry] at hcomputed
  obtain ⟨all, -, rfl⟩ := map_eq_ok_iff.mp hcomputed
  rw [hsource, hof.className]
  exact ((ClassDecl.mem_dropSelf.mp hmem).2 rfl).symm

/-! ## Batches -/

/-- The edges that some classes draw. -/
def drawn (r : Repository) (job : Schedule.Job) (names : List String) : SortedSet Edge :=
  Batch.edges ⟨.ofList (names.eraseDups.map fun name => (name, r.outcome job name))⟩

/-- **Every name draws its edges on its own.** -/
theorem mem_drawn : e ∈ r.drawn job names ↔ ∃ name ∈ names, r.Draws job name e := by
  rw [drawn, Batch.mem_edges, OrderedMap.entries_ofList_map (nodup_eraseDups names)]
  simp only [List.mem_map, List.mem_eraseDups, Prod.mk.injEq]
  constructor
  · rintro ⟨_, t, ⟨name, hname, rfl, hok⟩, hedge⟩
    exact ⟨name, hname, t, hok, hedge⟩
  · rintro ⟨name, hname, t, hok, hedge⟩
    exact ⟨name, t, ⟨name, hname, rfl, hok⟩, hedge⟩

/-- The edges of a batch, if it comes to one. -/
def edges (r : Repository) (job : Schedule.Job) (workers : Option Int) (names : List String) :
    Except Fault (SortedSet Edge) :=
  (r.batch job.host job.includeSelf names job.requested workers).1.map Batch.edges

/-- **The edges of a batch are those that its names draw.** There is a batch if whatever fails fails
as an analysis. -/
theorem Later.edges_eq_ok_iff (job : Schedule.Job) (hfresh : r₀.Fresh)
    (h : Later job.host r₀ r) (hworkers : ∀ n ∈ workers, 1 ≤ n) :
    r.edges job workers names = .ok E ↔
      (∀ name ∈ names, Keepable (r₀.outcome job name)) ∧ E = r₀.drawn job names := by
  have hfilter : workers.filter (· < 1) = none := by
    rw [Option.filter_eq_none_iff]
    intro n hn
    simpa using hworkers n hn
  have hbatch : r.edges job workers names =
      (outcomes job.host job.includeSelf job.requested names.eraseDups r).1.map
        fun entries => Batch.edges ⟨.ofList entries⟩ := by
    rw [edges, batch, hfilter]
    rcases outcomes job.host job.includeSelf job.requested names.eraseDups r with
      ⟨fault | entries, s⟩ <;> rfl
  rw [hbatch, map_eq_ok_iff]
  simp only [h.outcomes_eq_ok_iff hfresh, List.mem_eraseDups]
  constructor
  · rintro ⟨_, ⟨hkeepable, rfl⟩, rfl⟩
    exact ⟨hkeepable, rfl⟩
  · rintro ⟨hkeepable, rfl⟩
    exact ⟨_, ⟨hkeepable, rfl⟩, rfl⟩

theorem drawn_append (r : Repository) (job : Schedule.Job) (xs ys : List String) :
    r.drawn job (xs ++ ys) = r.drawn job xs ∪ r.drawn job ys := by
  refine SortedSet.ext fun e => ?_
  simp only [SortedSet.mem_union, mem_drawn, List.mem_append, or_and_right, exists_or]

/-- Names of the same classes: each class that is named on the left is named on the right. -/
theorem exists_spelling (h : ∀ internal, internal ∈ xs.map Name.toInternal →
    internal ∈ ys.map Name.toInternal) (hname : name ∈ xs) :
    ∃ other ∈ ys, Name.toInternal other = Name.toInternal name := by
  obtain ⟨other, hother, heq⟩ := List.mem_map.mp (h _ (List.mem_map_of_mem hname))
  exact ⟨other, hother, heq⟩

/-- **The edges are a matter of the set of classes**, whatever the spelling of their names. -/
theorem drawn_congr (r : Repository) (job : Schedule.Job)
    (h : ∀ internal, internal ∈ xs.map Name.toInternal ↔ internal ∈ ys.map Name.toInternal) :
    r.drawn job xs = r.drawn job ys := by
  refine SortedSet.ext fun e => ?_
  rw [mem_drawn, mem_drawn]
  constructor
  · rintro ⟨name, hname, hdraws⟩
    obtain ⟨other, hother, heq⟩ := exists_spelling (fun i => (h i).mp) hname
    exact ⟨other, hother, draws_of_spelling heq hdraws⟩
  · rintro ⟨name, hname, hdraws⟩
    obtain ⟨other, hother, heq⟩ := exists_spelling (fun i => (h i).mpr) hname
    exact ⟨other, hother, draws_of_spelling heq hdraws⟩

theorem keepable_congr (r : Repository) (job : Schedule.Job)
    (h : ∀ internal, internal ∈ ys.map Name.toInternal → internal ∈ xs.map Name.toInternal)
    (hkeepable : ∀ name ∈ xs, Keepable (r.outcome job name)) :
    ∀ name ∈ ys, Keepable (r.outcome job name) := by
  intro name hname
  obtain ⟨other, hother, heq⟩ := exists_spelling h hname
  exact (outcome_of_spelling heq r job).2.mp (hkeepable other hother)

/-- While the places can be searched, whatever fails fails as an analysis, unless values are nested
too deep. -/
theorem keepable_iff_of_handles (job : Schedule.Job) (hfresh : r.Fresh) (hsound : r.content.Sound)
    {categories : Option (List Category)}
    (hrequested : job.requested = categories.map (List.map .category))
    (hhandles : r.Handles job.host.files name) :
    Keepable (r.outcome job name) ↔ ¬ r.TooDeep job.host name := by
  have hopen : r.closed = false := by
    cases hfresh with
    | memory hmade =>
        obtain ⟨stored, -, hmade⟩ := bind_eq_ok_iff.mp hmade
        cases hmade
        rfl
    | places path => rfl
  constructor
  · intro hkeepable hdeep
    rw [outcome, hdeep.found_eq] at hkeepable
    obtain ⟨e, he⟩ := hkeepable _ rfl
    cases he
  · intro hdeep
    have htried := Schedule.tryExtract_eq_ok (lawful_of_empty hfresh.leases_eq hsound) hopen
      hhandles hdeep job.includeSelf categories
    rw [← hrequested, Repository.tryExtract_fst] at htried
    exact (keepFailure_eq_ok_iff.mp htried).1

end Repository

/-- **The edges of a batch depend only on the classes that are asked for.** Take a new repository,
and whatever states it has come to later, with the files unchanged.

The names of two lists together draw the edges that they draw apart. Lists with names of the same
classes have the same edges, in whatever order, however often and in whatever spelling they name
them. There is an edge exactly from the class of a name that was asked for and extracted to each of
its dependencies, and none from a class to itself unless this is to be kept. And if what goes wrong
in the places is a failure of the analysis, there are edges unless one of the names leads to values
that are nested too deep. -/
theorem batch_edges {r₀ : Repository} (hfresh : r₀.Fresh) (host : Host) (includeSelf : Bool)
    (categories : Option (List Category)) {workers : Option Int}
    (hworkers : ∀ n ∈ workers, 1 ≤ n) :
    let requested := categories.map (List.map Requested.category)
    let edges (r : Repository) := r.edges ⟨host, includeSelf, requested⟩ workers
    (∀ r s t, r₀.Later host r → r₀.Later host s → r₀.Later host t → ∀ xs ys E,
      edges r (xs ++ ys) = .ok E ↔
        ∃ E₁ E₂, edges s xs = .ok E₁ ∧ edges t ys = .ok E₂ ∧ E = E₁ ∪ E₂) ∧
    (∀ r s, r₀.Later host r → r₀.Later host s → ∀ xs ys,
      (∀ internal, internal ∈ xs.map Name.toInternal ↔ internal ∈ ys.map Name.toInternal) →
        ∀ E, edges r xs = .ok E ↔ edges s ys = .ok E) ∧
    (∀ r s, r₀.Later host r → r₀.Later host s → ∀ xs E, edges r xs = .ok E →
      (∀ e, e ∈ E ↔ ∃ name ∈ xs, e.source = Name.toDotted name ∧
        ∃ t, (s.tryExtract host includeSelf name requested).1 = .ok (.ok t) ∧ e.target ∈ t.merged) ∧
      (includeSelf = false → ∀ e ∈ E, e.source ≠ e.target)) ∧
    ∀ r, r₀.Later host r → ∀ xs, r₀.content.Sound → (∀ name ∈ xs, r₀.Handles host.files name) →
      ((∃ E, edges r xs = .ok E) ↔ ∀ name ∈ xs, ¬ r₀.TooDeep host name) := by
  intro requested edges
  let job : Schedule.Job := ⟨host, includeSelf, requested⟩
  have hedges {r : Repository} (h : r₀.Later host r) {names : List String} {E : SortedSet Edge} :
      edges r names = .ok E ↔ (∀ name ∈ names, Repository.Keepable (r₀.outcome job name)) ∧
        E = r₀.drawn job names :=
    Repository.Later.edges_eq_ok_iff job hfresh h hworkers
  refine ⟨?_, ?_, ?_, ?_⟩
  · intro r s t hr hs ht xs ys E
    simp only [hedges hr, hedges hs, hedges ht, Repository.drawn_append, List.forall_mem_append]
    constructor
    · rintro ⟨⟨hxs, hys⟩, rfl⟩
      exact ⟨_, _, ⟨hxs, rfl⟩, ⟨hys, rfl⟩, rfl⟩
    · rintro ⟨_, _, ⟨hxs, rfl⟩, ⟨hys, rfl⟩, rfl⟩
      exact ⟨⟨hxs, hys⟩, rfl⟩
  · intro r s hr hs xs ys hsame E
    rw [hedges hr, hedges hs, Repository.drawn_congr r₀ job hsame]
    refine and_congr_left fun _ => ⟨?_, ?_⟩
    · exact Repository.keepable_congr r₀ job fun i => (hsame i).mpr
    · exact Repository.keepable_congr r₀ job fun i => (hsame i).mp
  · intro r s hr hs xs E hE
    obtain ⟨-, rfl⟩ := (hedges hr).mp hE
    refine ⟨fun e => ?_, fun hself e he => ?_⟩
    · have htried (name : String) (t : DependencyTable) :
          (s.tryExtract host includeSelf name requested).1 = .ok (.ok t) ↔
            r₀.outcome job name = .ok t :=
        Repository.Later.tryExtract_eq_ok_iff job hfresh hs
      simp only [Repository.mem_drawn, Repository.draws_iff hfresh, htried]
    · obtain ⟨name, -, hdraws⟩ := Repository.mem_drawn.mp he
      exact Repository.source_ne_target_of_draws job rfl hself hdraws
  · intro r hr xs hsound hhandles
    have hkeepable (name : String) (hname : name ∈ xs) :
        Repository.Keepable (r₀.outcome job name) ↔ ¬ r₀.TooDeep host name :=
      Repository.keepable_iff_of_handles job hfresh hsound rfl (hhandles name hname)
    simp only [hedges hr, exists_and_left, exists_eq, and_true]
    exact forall₂_congr hkeepable

open Program (noFiles) in
/-- A class with a field of its own type is asked for in both spellings while somebody holds it,
next to a name that leads nowhere. -/
theorem batch_edges_node :
    let r₀ := Repository.alone nodeDecl
    let r := (r₀.resolve noFiles "a.B").2
    let edges (r : Repository) := r.edges ⟨noFiles, false, none⟩ (some 2)
    let drawn : SortedSet Edge := .ofList [⟨"a.B", "x.F"⟩, ⟨"a.B", "x.S"⟩]
    r₀.Fresh ∧ r₀.Later noFiles r ∧ (∀ n ∈ some (2 : Int), 1 ≤ n) ∧
      edges r₀ ["a.B", "x.Y"] = .ok drawn ∧ edges r ["x/Y", "a/B", "a.B", "x.Y"] = .ok drawn := by
  intro r₀ r edges drawn
  have hfresh : r₀.Fresh := .memory (Repository.ofDecls_singleton (by decide +kernel))
  have hlater : r₀.Later noFiles r := Repository.Later.start.resolve "a.B"
  have hworkers : ∀ n ∈ some (2 : Int), 1 ≤ n := by simp
  have hdrawn : edges r₀ ["a.B", "x.Y"] = .ok drawn := by decide +kernel
  have hfirst : ["a.B", "x.Y"].map Name.toInternal = ["a/B", "x/Y"] := by decide +kernel
  have hsecond : ["x/Y", "a/B", "a.B", "x.Y"].map Name.toInternal =
      ["x/Y", "a/B", "a/B", "x/Y"] := by decide +kernel
  obtain ⟨-, hsame, -, -⟩ := batch_edges hfresh noFiles false none hworkers
  refine ⟨hfresh, hlater, hworkers, hdrawn, (hsame r₀ r .start hlater _ _ ?_ _).mp hdrawn⟩
  intro internal
  rw [hfirst, hsecond]
  simp only [List.mem_cons, List.not_mem_nil, or_false]
  tauto

end JvmDeps
