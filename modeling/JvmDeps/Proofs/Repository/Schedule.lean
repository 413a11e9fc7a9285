import JvmDeps.Proofs.Dependency.Extraction
import JvmDeps.Proofs.Repository.Leasing

set_option autoImplicit false

/-! # Batches under every schedule

The tasks of a batch, one for each name, may run at the same time on one repository. A task takes up
to five steps: the first section of the lease table, the load, the second section, the analysis, and
the release (`Phase.step`). Nothing else is atomic, so any task may take its next step at any time:
a schedule is a list of positions, of the tasks whose turn it is (`World.run`). How many workers
there are only restricts which schedules occur.

Whatever the schedule, the batch comes to what `Repository.batch` comes to, which runs the tasks one
after the other; every outcome is the one that `Repository.tryExtract` gives on its own, and the
leases are in the end what they were in the beginning (`batch_independent`).

The invariant (`Sane`) says that the leases of the tasks lie on top of the first ones, and that each
class that is leased, loaded or held is the one to which its name led in the beginning.
-/

namespace JvmDeps.Schedule

/-! ## Tasks -/

/-- What a batch does with each class. -/
structure Job where
  host : Host
  includeSelf : Bool
  requested : Option (List Requested)

/-- Where a task is. -/
inductive Phase where
  | waiting
  /-- No lease was open; the load is under way. -/
  | loading
  /-- The load succeeded; the second section is still to come. -/
  | loaded (object : Loaded)
  | holding (object : Loaded)
  | analysed (object : Loaded) (result : Except Fault DependencyTable)
  | finished (outcome : Except Fault (Except Fault DependencyTable))

namespace Phase

/-- The next step of the task for a name. -/
def step (job : Job) (name : String) : Phase → Repository → Phase × Repository
  | waiting, r =>
    match r.refusal? name with
    | some fault => (finished (Repository.keepFailure (.error fault)), r)
    | none =>
      match r.leases.bump (Name.toInternal name) with
      | some (o, leases) => (holding o, { r with leases })
      | none => (loading, r)
  | loading, r =>
    match r.load job.host name with
    | (.error fault, archives) =>
      (finished (Repository.keepFailure (.error fault)), { r with archives })
    | (.ok o, archives) => (loaded o, { r with archives, nextId := r.nextId + 1 })
  | loaded o, r =>
    match r.leases.commit (Name.toInternal name) o with
    | (o, leases) => (holding o, { r with leases })
  | holding o, r => (analysed o (o.decl.extract job.includeSelf job.requested), r)
  | analysed o result, r => (finished (Repository.keepFailure result), r.release o)
  | finished outcome, r => (finished outcome, r)

/-- How many steps a task has still to take at most. -/
def rank : Phase → Nat
  | waiting => 5
  | loading => 4
  | loaded _ => 3
  | holding _ => 2
  | analysed _ _ => 1
  | finished _ => 0

/-- The object that a task holds. -/
def held : Phase → List Loaded
  | holding o | analysed o _ => [o]
  | _ => []

end Phase

/-- The task for a name. -/
structure Task where
  name : String
  phase : Phase

/-- The repository that the tasks share, and the tasks. -/
structure World where
  repository : Repository
  tasks : List Task

/-- Nothing has been done yet. -/
def World.start (r : Repository) (names : List String) : World := ⟨r, names.map (⟨·, .waiting⟩)⟩

/-- It is the turn of the task at a position. -/
def World.move (job : Job) (w : World) (i : Nat) : World :=
  match w.tasks[i]? with
  | none => w
  | some task =>
    match task.phase.step job task.name w.repository with
    | (phase, repository) => ⟨repository, w.tasks.set i ⟨task.name, phase⟩⟩

/-- The tasks run by a schedule. -/
def World.run (job : Job) (w : World) (schedule : List Nat) : World :=
  schedule.foldl (World.move job) w

/-- What the tasks came to, in their order; none while one of them is not finished. -/
def results : List Task → Option (Except Fault (List (String × Except Fault DependencyTable)))
  | [] => some (.ok [])
  | ⟨name, .finished outcome⟩ :: tasks => (results tasks).map (Repository.gather name outcome)
  | _ => none

/-- The batch that is returned; none while a task is not finished. -/
def World.result (w : World) : Option (Except Fault Batch) :=
  (results w.tasks).map fun entries => entries.map fun entries => ⟨.ofList entries⟩

variable {job : Job} {r₀ r : Repository} {name : String} {w : World}

/-! ## Turns -/

/-- A turn moves one task and leaves the others alone. -/
theorem World.move_cases (job : Job) (w : World) (i : Nat) :
    w.move job i = w ∨
      ∃ before task after, w.tasks = before ++ task :: after ∧
        w.move job i = ⟨(task.phase.step job task.name w.repository).2,
          before ++ ⟨task.name, (task.phase.step job task.name w.repository).1⟩ :: after⟩ := by
  unfold World.move
  cases hget : w.tasks[i]? with
  | none => exact Or.inl rfl
  | some task =>
      right
      obtain ⟨hi, htask⟩ := List.getElem?_eq_some_iff.mp hget
      obtain ⟨before, after, htasks, -, hset⟩ := @List.exists_of_set _ i
        ⟨task.name, (task.phase.step job task.name w.repository).1⟩ w.tasks hi
      rw [htask] at htasks
      exact ⟨before, task, after, htasks, by rw [← hset]⟩

/-! ## What a step keeps -/

/-- The repository is the one of the beginning, but for the leases and for archives that were opened
meanwhile, and whoever is leased is the class to which its names led in the beginning. -/
structure Steady (job : Job) (r₀ r : Repository) : Prop where
  content : r.content = r₀.content
  closed : r.closed = r₀.closed
  archives : SearchPath.SameArchives job.host.files r₀.archives r.archives
  shared : ∀ name lease, r.leases.get? (Name.toInternal name) = some lease →
    r₀.refusal? name = none → r₀.found job.host name = .ok lease.object.decl

/-- A task has found what its name led to in the beginning. -/
def Phase.Faithful (job : Job) (r₀ : Repository) (name : String) : Phase → Prop
  | waiting => True
  | loading => r₀.refusal? name = none ∧ r₀.leases.get? (Name.toInternal name) = none
  | loaded o => r₀.found job.host name = .ok o.decl
  | holding o => r₀.found job.host name = .ok o.decl
  | analysed _ result =>
    result = (r₀.found job.host name >>= fun c => c.extract job.includeSelf job.requested)
  | finished outcome =>
    outcome = (r₀.tryExtract job.host job.includeSelf name job.requested).1

/-- A task and the repository, while the other tasks hold the objects of `others`. -/
structure SaneTask (job : Job) (r₀ : Repository) (name : String) (others : List Loaded)
    (phase : Phase) (r : Repository) : Prop where
  steady : Steady job r₀ r
  leases : r₀.leases.Above (phase.held ++ others) r.leases
  faithful : phase.Faithful job r₀ name

variable {others : List Loaded}

theorem Steady.refusal? (h : Steady job r₀ r) (name : String) :
    r.refusal? name = r₀.refusal? name :=
  Repository.refusal?_congr h.content h.closed name

/-- A lease that comes to the table is of a class to which its names lead. -/
theorem Steady.take {o : Loaded} {t : LeaseTable} (h : Steady job r₀ r)
    (htakes : r.leases.Takes (Name.toInternal name) o t)
    (hfound : r₀.found job.host name = .ok o.decl) : Steady job r₀ { r with leases := t } where
  content := h.content
  closed := h.closed
  archives := h.archives
  shared := by
    intro other lease hlease hopen
    rcases htakes.cases_get? hlease with ⟨hname, hobject⟩ | hbefore
    · rw [hobject]
      exact Repository.found_of_spelling hname hfound
    · exact h.shared other lease hbefore hopen

theorem Steady.release (h : Steady job r₀ r) (o : Loaded) : Steady job r₀ (r.release o) where
  content := h.content
  closed := h.closed
  archives := h.archives
  shared := by
    intro other lease hlease hopen
    obtain ⟨before, hbefore, hobject⟩ := LeaseTable.exists_of_get?_release hlease
    exact hobject ▸ h.shared other before hbefore hopen

/-- Archives may be opened, and numbers be given. -/
theorem Steady.load (h : Steady job r₀ r) (name : String) (nextId : Nat) :
    Steady job r₀ { r with archives := (r.load job.host name).2, nextId } where
  content := h.content
  closed := h.closed
  archives := h.archives.trans (r.sameArchives_load job.host name)
  shared := h.shared

theorem SaneTask.step_waiting (h : SaneTask job r₀ name others .waiting r) :
    SaneTask job r₀ name others (Phase.step job name .waiting r).1
      (Phase.step job name .waiting r).2 := by
  have hrefusal := h.steady.refusal? name
  simp only [Phase.step]
  split
  · rename_i fault hfault
    refine ⟨h.steady, h.leases, ?_⟩
    show _ = _
    rw [Repository.tryExtract_fst, Repository.found_of_refused (hrefusal ▸ hfault)]
    rfl
  · rename_i hopen
    rw [hrefusal] at hopen
    split
    · rename_i o leases hbump
      -- a lease is open, of the class to which the name led in the beginning
      have htakes := LeaseTable.bump_takes hbump
      obtain ⟨lease, hlease, hobject, -⟩ := LeaseTable.get?_of_bump hbump (Name.toInternal name)
      have hfound := h.steady.shared name lease hlease hopen
      have hname : o.decl.name = Name.toInternal name :=
        hobject ▸ h.leases.tidy.named _ lease hlease
      rw [hobject] at hfound
      refine ⟨h.steady.take htakes hfound, ?_, hfound⟩
      exact h.leases.take (hname ▸ htakes) (LeaseTable.keys_of_bump hbump ▸ List.prefix_refl _)
    · rename_i hbump
      refine ⟨h.steady, h.leases, hopen, ?_⟩
      -- a lease of the beginning would still be open
      cases hget : r₀.leases.get? (Name.toInternal name) with
      | none => rfl
      | some lease =>
          obtain ⟨k, hk⟩ := h.leases.kept _ lease hget
          rw [LeaseTable.get?_eq_none_of_bump hbump] at hk
          cases hk

theorem SaneTask.step_loading (h : SaneTask job r₀ name others .loading r) :
    SaneTask job r₀ name others (Phase.step job name .loading r).1
      (Phase.step job name .loading r).2 := by
  obtain ⟨hopen, hfree⟩ := h.faithful
  -- there was no lease in the beginning, so the name led to what a load gave, and still gives
  have hfound : r₀.found job.host name = r.declared job.host name := by
    rw [Repository.found_of_free hopen hfree]
    exact (Repository.declared_congr h.steady.content h.steady.archives name).symm
  have hsteady := h.steady.load name
  simp only [Phase.step]
  split
  · rename_i fault archives hload
    have hdeclared : r.declared job.host name = .error fault := by
      rw [Repository.declared, hload]
      rfl
    rw [hload] at hsteady
    refine ⟨hsteady r.nextId, h.leases, ?_⟩
    show _ = _
    rw [Repository.tryExtract_fst, hfound, hdeclared]
    rfl
  · rename_i o archives hload
    rw [hload] at hsteady
    refine ⟨hsteady (r.nextId + 1), h.leases, ?_⟩
    exact hfound.trans (Repository.declared_of_load (congrArg Prod.fst hload))

/-- The second section: whoever came first is leased, and it is the same class. -/
theorem SaneTask.step_loaded (hnamed : r₀.leases.Named) {o : Loaded}
    (h : SaneTask job r₀ name others (.loaded o) r) :
    SaneTask job r₀ name others (Phase.step job name (.loaded o) r).1
      (Phase.step job name (.loaded o) r).2 := by
  have htakes := r.leases.commit_takes (Name.toInternal name) o
  have horder := r.leases.keys_commit_prefix (Name.toInternal name) o
  have hfound : r₀.found job.host name =
      .ok (r.leases.commit (Name.toInternal name) o).1.decl := by
    rcases r.leases.commit_object (Name.toInternal name) o with ⟨lease, hlease, hobject⟩ | hobject
    · -- another task was faster, perhaps under the other spelling
      rw [hobject]
      exact h.steady.shared name lease hlease (Repository.refusal?_of_found h.faithful)
    · rw [hobject]
      exact h.faithful
  simp only [Phase.step]
  generalize r.leases.commit (Name.toInternal name) o = taken at htakes horder hfound ⊢
  obtain ⟨o', t⟩ := taken
  have hname : o'.decl.name = Name.toInternal name := Repository.name_of_found hnamed hfound
  exact ⟨h.steady.take htakes hfound, h.leases.take (hname ▸ htakes) horder, hfound⟩

/-- **A step keeps a task sane**, whatever the other tasks hold. -/
theorem SaneTask.step (hnamed : r₀.leases.Named) {phase : Phase}
    (h : SaneTask job r₀ name others phase r) :
    SaneTask job r₀ name others (phase.step job name r).1 (phase.step job name r).2 := by
  cases phase with
  | waiting => exact h.step_waiting
  | loading => exact h.step_loading
  | loaded o => exact h.step_loaded hnamed
  | holding o =>
      refine ⟨h.steady, h.leases, ?_⟩
      have hfound : r₀.found job.host name = .ok o.decl := h.faithful
      show _ = _
      rw [hfound]
      rfl
  | analysed o result =>
      refine ⟨h.steady.release o, h.leases.drop, ?_⟩
      have hresult : result = _ := h.faithful
      show _ = _
      rw [Repository.tryExtract_fst, hresult]
  | finished outcome => exact h

/-! ## What a run keeps -/

/-- The objects that the tasks hold. -/
def held (tasks : List Task) : List Loaded := tasks.flatMap (·.phase.held)

/-- **The invariant of all schedules.** The leases of the tasks lie on top of the first ones, the
rest of the repository is what it was, and each task has found what its name led to in the
beginning. -/
structure Sane (job : Job) (r₀ : Repository) (names : List String) (w : World) : Prop where
  steady : Steady job r₀ w.repository
  leases : r₀.leases.Above (held w.tasks) w.repository.leases
  faithful : ∀ task ∈ w.tasks, task.phase.Faithful job r₀ task.name
  names : w.tasks.map Task.name = names

variable {names : List String}

theorem sane_start (job : Job) (htidy : r₀.leases.Tidy) (names : List String) :
    Sane job r₀ names (World.start r₀ names) where
  steady := by
    refine ⟨rfl, rfl, .refl _ _, ?_⟩
    intro name lease hlease hopen
    exact Repository.found_of_leased hopen hlease job.host
  leases := by
    have hnone : held (World.start r₀ names).tasks = [] := by
      simp [held, World.start, Phase.held]
    rw [hnone]
    exact htidy.above
  faithful := by
    intro task htask
    obtain ⟨name, -, rfl⟩ := List.mem_map.mp htask
    trivial
  names := by
    show (names.map _).map _ = names
    rw [List.map_map]
    exact List.map_id names

theorem held_perm (before after : List Task) (task : Task) :
    (held (before ++ task :: after)).Perm (task.phase.held ++ held (before ++ after)) := by
  simp only [held, List.flatMap_append, List.flatMap_cons]
  exact List.perm_append_comm_assoc _ _ _

theorem Sane.move (hnamed : r₀.leases.Named) (h : Sane job r₀ names w) (i : Nat) :
    Sane job r₀ names (w.move job i) := by
  rcases w.move_cases job i with hsame | ⟨before, task, after, htasks, hmove⟩
  · rw [hsame]
    exact h
  · -- the task that moves meets the others only in what they hold
    have htask : SaneTask job r₀ task.name (held (before ++ after)) task.phase w.repository :=
      ⟨h.steady, h.leases.perm (htasks ▸ held_perm before after task),
        h.faithful task (by rw [htasks]; simp)⟩
    have hstep := htask.step hnamed
    rw [hmove]
    refine ⟨hstep.steady, hstep.leases.perm (held_perm before after ⟨task.name, _⟩).symm, ?_, ?_⟩
    · intro other hother
      rcases List.mem_append.mp hother with hmem | hmem
      · exact h.faithful other (by rw [htasks]; exact List.mem_append_left _ hmem)
      · rcases List.mem_cons.mp hmem with rfl | hmem
        · exact hstep.faithful
        · exact h.faithful other
            (by rw [htasks]; exact List.mem_append_right _ (List.mem_cons_of_mem _ hmem))
    · rw [← h.names, htasks]
      simp

theorem Sane.run (hnamed : r₀.leases.Named) (h : Sane job r₀ names w) (schedule : List Nat) :
    Sane job r₀ names (w.run job schedule) := by
  induction schedule generalizing w with
  | nil => exact h
  | cons i schedule ih => exact ih (h.move hnamed i)

/-! ## The end of a run -/

/-- Once there is a result, every task is finished. -/
theorem finished_of_results {tasks : List Task}
    {x : Except Fault (List (String × Except Fault DependencyTable))} (h : results tasks = some x) :
    ∀ task ∈ tasks, ∃ outcome, task.phase = .finished outcome := by
  induction tasks generalizing x with
  | nil => exact List.forall_mem_nil _
  | cons task tasks ih =>
      obtain ⟨name, phase⟩ := task
      cases phase with
      | finished outcome =>
          obtain ⟨rest, hrest, -⟩ := Option.map_eq_some_iff.mp h
          exact List.forall_mem_cons.mpr ⟨⟨outcome, rfl⟩, ih hrest⟩
      | _ => cases h

/-- Once every task is finished, there is a result. -/
theorem isSome_results {tasks : List Task} (h : ∀ task ∈ tasks, task.phase.rank = 0) :
    (results tasks).isSome := by
  induction tasks with
  | nil => rfl
  | cons task tasks ih =>
      obtain ⟨hrank, htasks⟩ := List.forall_mem_cons.mp h
      obtain ⟨name, phase⟩ := task
      cases phase with
      | finished outcome => rw [results, Option.isSome_map]; exact ih htasks
      | _ => cases hrank

/-- The outcomes of some names, each with its name, or the first fault among them. -/
def gathered (outcome : String → Except Fault (Except Fault DependencyTable))
    (names : List String) : Except Fault (List (String × Except Fault DependencyTable)) :=
  names.foldr (fun name => Repository.gather name (outcome name)) (.ok [])

/-- The tasks that are finished give what they came to in their order. -/
theorem results_eq {tasks : List Task}
    {outcome : String → Except Fault (Except Fault DependencyTable)}
    (h : ∀ task ∈ tasks, task.phase = .finished (outcome task.name)) :
    results tasks = some (gathered outcome (tasks.map Task.name)) := by
  induction tasks with
  | nil => rfl
  | cons task tasks ih =>
      obtain ⟨hphase, htasks⟩ := List.forall_mem_cons.mp h
      obtain ⟨name, phase⟩ := task
      change phase = _ at hphase
      rw [hphase, results, ih htasks]
      rfl

/-- If there are outcomes for all names, they are put together. -/
theorem gathered_eq_ok {outcome : String → Except Fault (Except Fault DependencyTable)}
    {f : String → Except Fault DependencyTable} {names : List String}
    (h : ∀ name ∈ names, outcome name = .ok (f name)) :
    gathered outcome names = .ok (names.map fun name => (name, f name)) := by
  induction names with
  | nil => rfl
  | cons name names ih =>
      obtain ⟨hname, hnames⟩ := List.forall_mem_cons.mp h
      show Repository.gather name (outcome name) (gathered outcome names) = _
      rw [hname, ih hnames]
      rfl

/-- If there is one fault, and no other, it is that of the whole. -/
theorem gathered_eq_error {outcome : String → Except Fault (Except Fault DependencyTable)}
    {fault : Fault} {names : List String}
    (honly : ∀ name ∈ names, ∀ other, outcome name = .error other → other = fault)
    (h : ∃ name ∈ names, outcome name = .error fault) :
    gathered outcome names = .error fault := by
  induction names with
  | nil =>
      obtain ⟨_, hmem, -⟩ := h
      cases hmem
  | cons name names ih =>
      obtain ⟨hname, hnames⟩ := List.forall_mem_cons.mp honly
      show Repository.gather name (outcome name) (gathered outcome names) = _
      cases houtcome : outcome name with
      | error other =>
          rw [hname other houtcome]
          rfl
      | ok a =>
          -- the fault is that of one of the other names
          have hrest : ∃ other ∈ names, outcome other = .error fault := by
            obtain ⟨other, hmem, hother⟩ := h
            rcases List.mem_cons.mp hmem with rfl | hmem
            · rw [houtcome] at hother
              cases hother
            · exact ⟨other, hmem, hother⟩
          rw [ih hnames hrest]
          rfl

/-- **Every run that ends comes to the same result and the same leases**, to what the tasks come to
that run on their own. -/
theorem Sane.result_eq (h : Sane job r₀ names w) {x : Except Fault Batch}
    (hresult : w.result = some x) :
    x = (gathered (fun name =>
        (r₀.tryExtract job.host job.includeSelf name job.requested).1) names).map
          (fun entries => ⟨.ofList entries⟩) ∧
      w.repository.leases = r₀.leases := by
  obtain ⟨entries, hentries, rfl⟩ := Option.map_eq_some_iff.mp hresult
  have hfinished := finished_of_results hentries
  constructor
  · have houtcome : ∀ task ∈ w.tasks, task.phase =
        .finished (r₀.tryExtract job.host job.includeSelf task.name job.requested).1 := by
      intro task htask
      obtain ⟨outcome, hphase⟩ := hfinished task htask
      have hfaithful := h.faithful task htask
      rw [hphase] at hfaithful ⊢
      exact congrArg Phase.finished hfaithful
    rw [@results_eq w.tasks (fun name => (r₀.tryExtract job.host job.includeSelf name
      job.requested).1) houtcome, h.names] at hentries
    exact congrArg _ (Option.some.inj hentries).symm
  · have hnone : held w.tasks = [] := by
      refine List.flatMap_eq_nil_iff.mpr fun task htask => ?_
      obtain ⟨outcome, hphase⟩ := hfinished task htask
      rw [hphase]
      rfl
    exact (hnone ▸ h.leases).eq_base

/-! ## Runs end -/

theorem Phase.rank_le (phase : Phase) : phase.rank ≤ 5 := by
  cases phase <;> simp [rank]

/-- A turn brings a task nearer to its end. -/
theorem Phase.rank_step (job : Job) (name : String) (phase : Phase) (r : Repository) :
    (phase.step job name r).1.rank ≤ phase.rank - 1 := by
  cases phase with
  | waiting =>
      simp only [step]
      split
      · exact Nat.zero_le _
      · split
        · exact Nat.le_of_ble_eq_true rfl
        · exact Nat.le_refl _
  | loading =>
      simp only [step]
      split
      · exact Nat.zero_le _
      · exact Nat.le_refl _
  | loaded o => exact Nat.le_refl _
  | holding o => exact Nat.le_refl _
  | analysed o result => exact Nat.le_refl _
  | finished outcome => exact Nat.le_refl _

theorem World.rank_move (job : Job) (w : World) (i j : Nat) {task : Task}
    (h : (w.move job i).tasks[j]? = some task) :
    ∃ earlier, w.tasks[j]? = some earlier ∧
      task.phase.rank ≤ earlier.phase.rank - if i = j then 1 else 0 := by
  -- only the task whose turn it is comes nearer, if there is such a task
  unfold World.move at h
  cases hget : w.tasks[i]? with
  | none =>
      simp only [hget] at h
      have hij : i ≠ j := by
        rintro rfl
        rw [hget] at h
        cases h
      exact ⟨task, h, by rw [if_neg hij]; exact Nat.le_refl _⟩
  | some moved =>
      simp only [hget] at h
      rw [List.getElem?_set] at h
      split at h
      · rename_i hij
        subst hij
        split at h
        · cases h
          exact ⟨moved, hget, by rw [if_pos rfl]; exact moved.phase.rank_step job _ _⟩
        · cases h
      · rename_i hij
        exact ⟨task, h, by rw [if_neg hij]; exact Nat.le_refl _⟩

theorem World.rank_run (job : Job) (w : World) (schedule : List Nat) (j : Nat) {task : Task}
    (h : (w.run job schedule).tasks[j]? = some task) :
    ∃ earlier, w.tasks[j]? = some earlier ∧
      task.phase.rank ≤ earlier.phase.rank - schedule.count j := by
  induction schedule generalizing w with
  | nil => exact ⟨task, h, Nat.le_refl _⟩
  | cons i schedule ih =>
      obtain ⟨next, hnext, hrank⟩ := ih (w.move job i) h
      obtain ⟨earlier, hearlier, hstep⟩ := w.rank_move job i j hnext
      refine ⟨earlier, hearlier, ?_⟩
      simp only [List.count_cons, beq_iff_eq]
      omega

/-- **A run in which every task has five turns ends.** -/
theorem World.isSome_result (job : Job) (w : World) (schedule : List Nat)
    (h : ∀ i < w.tasks.length, 5 ≤ schedule.count i) : (w.run job schedule).result.isSome := by
  rw [World.result, Option.isSome_map]
  refine isSome_results fun task htask => ?_
  obtain ⟨i, hi⟩ := List.mem_iff_getElem?.mp htask
  obtain ⟨earlier, hearlier, hrank⟩ := w.rank_run job schedule i hi
  have hturns := h i (List.getElem?_eq_some_iff.mp hearlier).1
  have hle := earlier.phase.rank_le
  omega

/-! ## One after the other -/

/-- Five steps of a task, with nobody else in between. -/
def Phase.fiveSteps (job : Job) (name : String) (x : Phase × Repository) : Phase × Repository :=
  let next := fun x : Phase × Repository => x.1.step job name x.2
  next (next (next (next (next x))))

/-- **A task that runs alone does what an extraction does.** -/
theorem fiveSteps_waiting (job : Job) (name : String) (r : Repository) :
    Phase.fiveSteps job name (.waiting, r) =
      (.finished (r.tryExtract job.host job.includeSelf name job.requested).1,
        (r.tryExtract job.host job.includeSelf name job.requested).2) := by
  unfold Repository.tryExtract Repository.extract Repository.withClass Repository.resolve
  -- both ask the same questions: is the name refused, is a lease open, does the load succeed
  cases hrefusal : r.refusal? name with
  | some fault => simp only [Phase.fiveSteps, Phase.step, hrefusal]
  | none =>
      cases hbump : r.leases.bump (Name.toInternal name) with
      | some taken => simp only [Phase.fiveSteps, Phase.step, hrefusal, hbump]
      | none =>
          rcases hload : r.load job.host name with ⟨fault | o, archives⟩
          · simp only [Phase.fiveSteps, Phase.step, hrefusal, hbump, hload]
          · simp only [Phase.fiveSteps, Phase.step, hrefusal, hbump, hload]

theorem World.move_append (job : Job) (r : Repository) (before after : List Task) (task : Task) :
    World.move job ⟨r, before ++ task :: after⟩ before.length =
      ⟨(task.phase.step job task.name r).2,
        before ++ ⟨task.name, (task.phase.step job task.name r).1⟩ :: after⟩ := by
  unfold World.move
  simp

theorem World.run_replicate (job : Job) (r : Repository) (before after : List Task)
    (name : String) :
    World.run job ⟨r, before ++ ⟨name, .waiting⟩ :: after⟩ (List.replicate 5 before.length) =
      ⟨(r.tryExtract job.host job.includeSelf name job.requested).2,
        before ++ ⟨name, .finished (r.tryExtract job.host job.includeSelf name job.requested).1⟩ ::
          after⟩ := by
  have hfive := fiveSteps_waiting job name r
  simp only [Phase.fiveSteps] at hfive
  simp only [World.run, List.replicate, List.foldl_cons, List.foldl_nil, World.move_append, hfive]

/-- The schedule in which `n` tasks, from a position on, run one after the other. -/
def inOrder : Nat → Nat → List Nat
  | _, 0 => []
  | i, n + 1 => List.replicate 5 i ++ inOrder (i + 1) n

theorem World.run_inOrder (job : Job) (r : Repository) (before : List Task) (names : List String) :
    let outcomes := Repository.outcomes job.host job.includeSelf job.requested names r
    ∃ tasks, World.run job ⟨r, before ++ names.map (⟨·, .waiting⟩)⟩
        (inOrder before.length names.length) = ⟨outcomes.2, before ++ tasks⟩ ∧
      results tasks = some outcomes.1 := by
  induction names generalizing r before with
  | nil => exact ⟨[], rfl, rfl⟩
  | cons name names ih =>
      rcases hfirst : r.tryExtract job.host job.includeSelf name job.requested with ⟨outcome, s⟩
      have hrun := World.run_replicate job r before (names.map (⟨·, .waiting⟩)) name
      rw [hfirst] at hrun
      -- the task that is finished stands in front of the others
      obtain ⟨tasks, htasks, hresults⟩ := ih s (before ++ [⟨name, .finished outcome⟩])
      refine ⟨⟨name, .finished outcome⟩ :: tasks, ?_, ?_⟩
      · simp only [World.run] at hrun htasks ⊢
        rw [List.length_cons, inOrder, List.foldl_append, List.map_cons, hrun]
        simp only [List.length_append, List.length_singleton, List.append_assoc,
          List.singleton_append] at htasks
        rw [htasks]
        simp only [Repository.outcomes, hfirst]
      · simp only [results, hresults, Repository.outcomes, hfirst, Option.map_some]

/-- **A batch is the run of one schedule**: its tasks, one after the other. -/
theorem World.run_batch (job : Job) (r : Repository) (names : List String) {workers : Option Int}
    (hworkers : ∀ n ∈ workers, 1 ≤ n) :
    let w := (World.start r names.eraseDups).run job (inOrder 0 names.eraseDups.length)
    let batch := r.batch job.host job.includeSelf names job.requested workers
    w.result = some batch.1 ∧ w.repository = batch.2 := by
  have hfilter : workers.filter (· < 1) = none := by
    rw [Option.filter_eq_none_iff]
    intro n hn
    have := hworkers n hn
    simpa using this
  obtain ⟨tasks, hrun, hresults⟩ := World.run_inOrder job r [] names.eraseDups
  simp only [List.nil_append, List.length_nil] at hrun
  simp only [World.start, hrun, World.result, hresults, Repository.batch, hfilter, Option.map_some,
    and_self]

/-! ## Any schedule -/

theorem keepFailure_eq_ok {α : Type} {x : Except Fault α}
    (h : ∀ fault, x = .error fault → ∃ e, fault = .failure e) :
    Repository.keepFailure x = .ok x := by
  cases x with
  | ok a => rfl
  | error fault =>
      obtain ⟨e, rfl⟩ := h fault rfl
      rfl

/-- A task on its own comes to an outcome, if the repository is open, its places can be searched,
only categories are asked for, and the name does not lead to values that are nested too deep. -/
theorem tryExtract_eq_ok (hlawful : r.Lawful) (hopen : r.closed = false) {host : Host}
    (hhandles : r.Handles host.files name) (hdeep : ¬ r.TooDeep host name) (includeSelf : Bool)
    (categories : Option (List Category)) :
    (r.tryExtract host includeSelf name (categories.map (List.map .category))).1 =
      .ok (r.found host name >>= fun c =>
        c.extract includeSelf (categories.map (List.map .category))) := by
  rw [Repository.tryExtract_fst]
  apply keepFailure_eq_ok
  intro fault hfault
  cases hfound : r.found host name with
  | error fault' =>
      rw [hfound] at hfault
      cases hfault
      rcases Repository.found_eq_error hopen hhandles hfound with hfailure | ⟨-, htooDeep⟩
      · exact hfailure
      · exact absurd htooDeep hdeep
  | ok c =>
      rw [hfound] at hfault
      exact ClassDecl.extract_eq_error (Repository.dottedName_ne_empty hlawful hfound) hfault

/-- A task for a name that leads to values that are nested too deep comes to no outcome. -/
theorem tryExtract_eq_error {host : Host} (h : r.TooDeep host name) (includeSelf : Bool)
    (requested : Option (List Requested)) :
    (r.tryExtract host includeSelf name requested).1 = .error (.misuse .nestedTooDeep) := by
  rw [Repository.tryExtract_fst, h.found_eq]
  rfl

/-- **A batch does not depend on the schedule.** Take a repository in any state that can be reached
and in which it is open, any names, and any categories. Assume that what goes wrong in the places is
a failure of the analysis. Then all depends on whether one of the names leads to bytes with values
that are nested deeper than the host can follow. If none does, the batch raises nothing: its
outcomes stand under the different names, in the order in which they were first asked for, and each
is the one of an extraction that runs alone. If one does, there is no batch, whatever the other
names come to. In either case the leases are in the end what they were.

All this is so for every schedule: once the tasks are finished, they have come to the same batch or
the same fault, and they are finished at the latest when each has had five turns. -/
theorem batch_independent (hreachable : r.Reachable) (hopen : r.closed = false) (host : Host)
    (includeSelf : Bool) (names : List String) (categories : Option (List Category))
    (workers : Option Int) (hworkers : ∀ n ∈ workers, 1 ≤ n)
    (hhandles : ∀ name ∈ names, r.Handles host.files name) :
    let requested := categories.map (List.map Requested.category)
    ∃ result : Except Fault Batch,
      (r.batch host includeSelf names requested workers).1 = result ∧
      (r.batch host includeSelf names requested workers).2.leases = r.leases ∧
      ((∀ name ∈ names, ¬ r.TooDeep host name) →
        ∃ b : Batch, result = .ok b ∧ b.outcomes.keys = names.eraseDups ∧
          ∀ name ∈ names, ∃ outcome, b.outcomes.get? name = some outcome ∧
            (r.tryExtract host includeSelf name requested).1 = .ok outcome) ∧
      ((∃ name ∈ names, r.TooDeep host name) → result = .error (.misuse .nestedTooDeep)) ∧
      ∀ schedule : List Nat,
        let w := (World.start r names.eraseDups).run ⟨host, includeSelf, requested⟩ schedule
        (∀ x, w.result = some x → x = result ∧ w.repository.leases = r.leases) ∧
          ((∀ i < names.eraseDups.length, 5 ≤ schedule.count i) → w.result.isSome) := by
  intro requested
  have hlawful := hreachable.lawful
  let job : Job := ⟨host, includeSelf, requested⟩
  let alone := fun name => (r.tryExtract host includeSelf name requested).1
  let outcome := fun name => r.found host name >>= fun c => c.extract includeSelf requested
  have hok : ∀ name ∈ names, ¬ r.TooDeep host name → alone name = .ok (outcome name) :=
    fun name hname hdeep =>
      tryExtract_eq_ok hlawful hopen (hhandles name hname) hdeep includeSelf categories
  have hrun (schedule : List Nat) {x : Except Fault Batch}
      (hresult : ((World.start r names.eraseDups).run job schedule).result = some x) :=
    ((sane_start job hlawful.tidy names.eraseDups).run hlawful.tidy.named schedule).result_eq
      hresult
  -- the batch itself is the run of one of the schedules
  obtain ⟨hbatch, hafter⟩ := World.run_batch job r names hworkers
  obtain ⟨hresult, hleases⟩ := hrun _ hbatch
  refine ⟨_, hresult, hafter ▸ hleases, ?_, ?_, ?_⟩
  · intro hnone
    have hentries : gathered alone names.eraseDups =
        .ok (names.eraseDups.map fun name => (name, outcome name)) :=
      gathered_eq_ok fun name hname =>
        hok name (List.mem_eraseDups.mp hname) (hnone name (List.mem_eraseDups.mp hname))
    have hnodup : ((names.eraseDups.map fun name => (name, outcome name)).map Prod.fst).Nodup := by
      rw [List.map_map]
      exact (List.map_id names.eraseDups).symm ▸ nodup_eraseDups names
    have hlisted := OrderedMap.entries_ofList hnodup
    refine ⟨⟨.ofList (names.eraseDups.map fun name => (name, outcome name))⟩,
      congrArg (Except.map _) hentries, ?_, ?_⟩
    · rw [OrderedMap.keys, hlisted, List.map_map]
      exact List.map_id _
    · intro name hname
      refine ⟨outcome name, ?_, hok name hname (hnone name hname)⟩
      rw [OrderedMap.get?_eq_some_iff, hlisted]
      exact List.mem_map.mpr ⟨name, List.mem_eraseDups.mpr hname, rfl⟩
  · intro hsome
    have hentries : gathered alone names.eraseDups = .error (.misuse .nestedTooDeep) := by
      apply gathered_eq_error
      · -- the other names come to outcomes, or to the same fault
        intro name hname fault hfault
        by_cases hdeep : r.TooDeep host name
        · exact Except.error.inj
            (hfault.symm.trans (tryExtract_eq_error hdeep includeSelf requested))
        · have hname' := hok name (List.mem_eraseDups.mp hname) hdeep
          cases hfault.symm.trans hname'
      · obtain ⟨name, hname, hdeep⟩ := hsome
        exact ⟨name, List.mem_eraseDups.mpr hname, tryExtract_eq_error hdeep includeSelf requested⟩
    exact congrArg (Except.map _) hentries
  · intro schedule w
    refine ⟨fun x hx => hrun schedule hx, fun hturns => ?_⟩
    apply World.isSome_result
    intro i hi
    exact hturns i (by simpa [World.start] using hi)

/-- A class without members, in a package. -/
def packagedLayout : ClassFile where
  minorVersion := 0
  majorVersion := 61
  slotCount := 3
  constants := [.text (ModifiedUtf8.encode "a/B") "a/B", .classRef 1]
  flags := 0x21
  thisIndex := 2
  superIndex := 0
  interfaceIndexes := []
  fields := []
  methods := []
  attributes := []

/-- A directory with the file of the class, and nothing else. -/
def packagedFiles : FileSystem := fun path =>
  if path = ⟨.relative, ["classes"]⟩ then some .directory
  else if path = ⟨.relative, ["classes", "a", "B.class"]⟩ then some (.file packagedLayout.bytes)
  else none

/-- A repository on the directory. -/
def packagedClasses : Repository := .ofSearchPath ⟨[⟨.relative, ["classes"]⟩], by simp⟩

/-- The directory, and depth for one value that has no values inside. -/
def packagedHost : Host := ⟨packagedFiles, 1⟩

/-- What stands there is a directory or the file of the class. -/
theorem packagedFiles_cases (p : Path) :
    packagedFiles p = none ∨ packagedFiles p = some .directory ∨
      packagedFiles p = some (.file packagedLayout.bytes) := by
  unfold packagedFiles
  split
  · exact .inr (.inl rfl)
  · split
    · exact .inr (.inr rfl)
    · exact .inl rfl

theorem packagedFiles_readable (p : Path) (reason : String) :
    packagedFiles p ≠ some (.unreadable reason) := by
  rcases packagedFiles_cases p with hnode | hnode | hnode
  all_goals
    rw [hnode]
    simp

theorem packagedClasses_handles (name : String) : packagedClasses.Handles packagedFiles name := by
  intro entry hentry fault herror
  obtain rfl := List.mem_singleton.mp hentry
  have hdirectory : packagedFiles ⟨.relative, ["classes"]⟩ = some .directory := if_pos rfl
  simp only [SearchPath.readEntry, hdirectory, SearchPath.readDirectory] at herror
  rcases packagedFiles_cases ((⟨.relative, ["classes"]⟩ : Path).join
    (.ofText (Name.toInternal name ++ ".class"))) with hnode | hnode | hnode
  all_goals
    rw [hnode] at herror
    cases herror

/-- The two spellings of one class are loaded at the same time, one load is lost, and a third name
leads nowhere. -/
theorem batch_independent_race :
    let names := ["a.B", "x.Y", "a/B", "a.B"]
    let w := (World.start packagedClasses names.eraseDups).run ⟨packagedHost, false, none⟩
      [0, 2, 2, 0, 1, 0, 2, 1, 0, 2, 2, 0, 1, 1, 1]
    packagedClasses.Reachable ∧ packagedClasses.closed = false ∧
      (∀ name ∈ names, packagedClasses.Handles packagedHost.files name) ∧
      w.repository.nextId = 2 ∧
      ∃ b, w.result = some (.ok b) ∧ b.outcomes.keys = ["a.B", "x.Y", "a/B"] ∧
        w.repository.leases = packagedClasses.leases := by
  have hreachable : packagedClasses.Reachable := .places _
  have hloads : ((World.start packagedClasses ["a.B", "x.Y", "a/B", "a.B"].eraseDups).run
      ⟨packagedHost, false, none⟩ [0, 2, 2, 0, 1, 0, 2, 1, 0, 2, 2, 0, 1, 1, 1]).repository.nextId
        = 2 := by
    decide +kernel
  have hnames : ["a.B", "x.Y", "a/B", "a.B"].eraseDups = ["a.B", "x.Y", "a/B"] := by decide
  obtain ⟨result, -, -, hok, -, hschedule⟩ := batch_independent hreachable rfl packagedHost false
    ["a.B", "x.Y", "a/B", "a.B"] none none (by simp) fun name _ => packagedClasses_handles name
  have hfound : ∀ name ∈ ["a.B", "x.Y", "a/B", "a.B"],
      packagedClasses.found packagedHost name ≠ .error (.misuse .nestedTooDeep) := by
    decide +kernel
  obtain ⟨b, rfl, hkeys, -⟩ := hok fun name hname hdeep => hfound name hname hdeep.found_eq
  obtain ⟨hresult, hfinished⟩ := hschedule [0, 2, 2, 0, 1, 0, 2, 1, 0, 2, 2, 0, 1, 1, 1]
  obtain ⟨x, hx⟩ := Option.isSome_iff_exists.mp (hfinished (by rw [hnames]; decide))
  obtain ⟨rfl, hleases⟩ := hresult x hx
  exact ⟨hreachable, rfl, fun name _ => packagedClasses_handles name, hloads, b, hx,
    hkeys.trans hnames, hleases⟩

/-- A repository in memory that has the bytes of one class. -/
def storedClass (b : Bytes) : Repository :=
  ⟨.memory (.ofList [("A", .bytes b)]), .empty, ∅, 1, false⟩

theorem toInternal_A : Name.toInternal "A" = "A" := by decide +kernel

theorem storedClass_reachable (b : Bytes) : (storedClass b).Reachable := by
  have hmade : Repository.ofArguments (some [("A", .bytes b)]) = .ok (storedClass b) := by
    show (Repository.storedOf 0 [("A", .bytes b)] >>= _) = _
    rw [Repository.storedOf, toInternal_A]
    rfl
  refine .memory (fun name c hmem => ?_) hmade
  cases List.mem_singleton.mp hmem

theorem storedClass_tooDeep {b : Bytes} {host : Host}
    (h : ClassFile.readDecl host.depth b = .error .tooDeep) : (storedClass b).TooDeep host "A" := by
  refine ⟨?_, rfl, b, "<memory>/A.class", ?_, h⟩
  · show (if OrderedMap.contains _ (Name.toInternal "A") then _ else _) = _
    rw [toInternal_A]
    rfl
  · rw [toInternal_A]
    rfl

/-- A batch comes to its end with its first name, if that leads to values that are nested too
deep. -/
theorem batch_of_tooDeep {host : Host} (h : r.TooDeep host name) (includeSelf : Bool)
    (names : List String) (requested : Option (List Requested)) :
    (r.batch host includeSelf (name :: names) requested none).1 =
      .error (.misuse .nestedTooDeep) := by
  have hfirst := tryExtract_eq_error h includeSelf requested
  simp only [Repository.batch, Option.filter_none, List.eraseDups_cons, Repository.outcomes, hfirst]
  rfl

/-- **A batch can be lost to one class.** Take a class with a number in a thousand arrays in an
annotation, and a host with a depth of a thousand levels. The class is no outcome of the batch, but
its end, and that of the other names. -/
theorem batch_raises_deep :
    let r := storedClass (ClassFile.layoutWith .deepValue).bytes
    let host : Host := ⟨fun _ => none, 1000⟩
    r.Reachable ∧ r.closed = false ∧ (∀ name, r.Handles host.files name) ∧
      (r.batch host false ["A", "x.Y"] none none).1 = .error (.misuse .nestedTooDeep) := by
  intro r host
  have hdeep : r.TooDeep host "A" :=
    storedClass_tooDeep (ClassFile.deepLayout_wellLaid.readable.readDecl_bytes_eq_tooDeep
      ClassFile.deepLayout_not_nestedWithin)
  exact ⟨storedClass_reachable _, rfl, fun _ => trivial, batch_of_tooDeep hdeep false ["x.Y"] none⟩

end JvmDeps.Schedule
