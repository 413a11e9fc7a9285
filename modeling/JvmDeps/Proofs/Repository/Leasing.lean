import JvmDeps.Proofs.Lease.Restoring
import JvmDeps.Proofs.Repository.Finding
import JvmDeps.Repository.Extraction

set_option autoImplicit false

/-! # Leases of a repository

`Repository.Resolves` says what finding a class can come to, and what it does to the repository.
`Repository.Reachable` are the states to which the users of a repository can bring it, one after the
other or at the same time. In each of them the leases stand under the names of their classes, are
counted, and are of classes without defect (`Reachable.lawful`).

Finding a class puts a lease on top of the others (`Resolves.above`). So whoever finds a class and
gives it back leaves the leases exactly as they were (`Repository.visit_unmoved`), and so does every
operation on one class (`Repository.withClass_eq`).
-/

namespace JvmDeps.Repository

variable {r s u : Repository} {host : Host} {name : String}

/-! ## Finding a class -/

theorem refusal?_congr (hcontent : s.content = r.content) (hclosed : s.closed = r.closed)
    (name : String) : s.refusal? name = r.refusal? name := by
  simp only [refusal?, scope, hcontent, hclosed]

/-- A name is refused in neither spelling or in both. -/
theorem refusal?_of_spelling {other : String} (hname : Name.toInternal other = Name.toInternal name)
    (h : r.refusal? name = none) : r.refusal? other = none := by
  have hempty : other = "" ↔ name = "" := by
    rw [← Name.toInternal_eq_empty_iff, hname, Name.toInternal_eq_empty_iff]
  cases hr : r.content with
  | memory classes =>
      simp only [refusal?, hr, hname] at h ⊢
      split at h
      · rename_i hcontains
        exact if_pos hcontains
      · cases h
  | places path =>
      simp only [refusal?, hr] at h ⊢
      split at h
      · cases h
      · rename_i hopen
        rw [if_neg hopen]
        split at h
        · cases h
        · rename_i hne
          exact if_neg fun hother => hne (hempty.mp hother)

/-- What finding the class of a name can come to, and the repository after it. -/
inductive Resolves (host : Host) (name : String) (r : Repository) :
    Except Fault Loaded → Repository → Prop
  | refused {fault : Fault} (hrefused : r.refusal? name = some fault) :
      Resolves host name r (.error fault) r
  /-- A lease was open. -/
  | joined {o : Loaded} {t : LeaseTable} (hopen : r.refusal? name = none)
      (hbump : r.leases.bump (Name.toInternal name) = some (o, t)) :
      Resolves host name r (.ok o) { r with leases := t }
  | failed {fault : Fault} (hopen : r.refusal? name = none)
      (hbump : r.leases.bump (Name.toInternal name) = none)
      (hload : (r.load host name).1 = .error fault) :
      Resolves host name r (.error fault) { r with archives := (r.load host name).2 }
  | loaded {o : Loaded} (hopen : r.refusal? name = none)
      (hbump : r.leases.bump (Name.toInternal name) = none) (hload : (r.load host name).1 = .ok o) :
      Resolves host name r (.ok o)
        { r with
          leases := (r.leases.commit (Name.toInternal name) o).2
          archives := (r.load host name).2
          nextId := r.nextId + 1 }

theorem resolves (r : Repository) (host : Host) (name : String) :
    Resolves host name r (r.resolve host name).1 (r.resolve host name).2 := by
  cases hrefusal : r.refusal? name with
  | some fault =>
      simp only [resolve, hrefusal]
      exact .refused hrefusal
  | none =>
      cases hbump : r.leases.bump (Name.toInternal name) with
      | some taken =>
          simp only [resolve, hrefusal, hbump]
          exact .joined hrefusal hbump
      | none =>
          rcases hload : r.load host name with ⟨fault | o, archives⟩
          · have hfailed := Resolves.failed hrefusal hbump (congrArg Prod.fst hload)
            simpa only [resolve, hrefusal, hbump, hload] using hfailed
          · have hloaded := Resolves.loaded hrefusal hbump (congrArg Prod.fst hload)
            have hobject := LeaseTable.commit_fst_of_bump hbump o
            simpa only [resolve, hrefusal, hbump, hload, hobject] using hloaded

theorem Resolves.content {x : Except Fault Loaded} (h : Resolves host name r x s) :
    s.content = r.content := by
  cases h <;> rfl

theorem Resolves.closed {x : Except Fault Loaded} (h : Resolves host name r x s) :
    s.closed = r.closed := by
  cases h <;> rfl

/-- A failure leaves the leases alone. -/
theorem Resolves.leases_of_error {fault : Fault} (h : Resolves host name r (.error fault) s) :
    s.leases = r.leases := by
  cases h <;> rfl

theorem Resolves.refusal? {o : Loaded} (h : Resolves host name r (.ok o) s) :
    r.refusal? name = none := by
  cases h with
  | joined hopen _ => exact hopen
  | loaded hopen _ _ => exact hopen

/-- What is found has the name that was asked for. -/
theorem Resolves.name_eq {o : Loaded} (h : Resolves host name r (.ok o) s)
    (hnamed : r.leases.Named) :
    o.decl.name = Name.toInternal name := by
  cases h with
  | joined _ hbump =>
      obtain ⟨lease, hlease, rfl, -⟩ := LeaseTable.get?_of_bump hbump (Name.toInternal name)
      exact hnamed _ lease hlease
  | loaded _ _ hload => exact name_of_load hload

theorem Resolves.takes {o : Loaded} (h : Resolves host name r (.ok o) s) :
    r.leases.Takes (Name.toInternal name) o s.leases ∧
      r.leases.leases.keys <+: s.leases.leases.keys := by
  cases h with
  | joined _ hbump =>
      exact ⟨LeaseTable.bump_takes hbump, LeaseTable.keys_of_bump hbump ▸ List.prefix_refl _⟩
  | loaded _ hbump _ =>
      have htakes := r.leases.commit_takes (Name.toInternal name) o
      rw [LeaseTable.commit_fst_of_bump hbump o] at htakes
      exact ⟨htakes, r.leases.keys_commit_prefix _ _⟩

/-- **Finding a class puts a lease of it on top.** -/
theorem Resolves.above {t : LeaseTable} {held : List Loaded} {o : Loaded}
    (h : Resolves host name r (.ok o) s) (habove : t.Above held r.leases) :
    t.Above (o :: held) s.leases := by
  obtain ⟨htakes, horder⟩ := h.takes
  rw [← h.name_eq habove.tidy.named] at htakes
  exact habove.take htakes horder

/-! ## What a name leads to -/

/-- The class that a name leads to, from a lease or from a load, or the fault if there is none. -/
def found (r : Repository) (host : Host) (name : String) : Except Fault ClassDecl :=
  (r.resolve host name).1.map Loaded.decl

theorem found_of_refused {fault : Fault} (h : r.refusal? name = some fault) (host : Host) :
    r.found host name = .error fault := by
  simp only [found, resolve, h]
  rfl

theorem found_of_leased {lease : Lease} (hopen : r.refusal? name = none)
    (h : r.leases.get? (Name.toInternal name) = some lease) (host : Host) :
    r.found host name = .ok lease.object.decl := by
  simp only [found, resolve, hopen, LeaseTable.bump, h]
  rfl

theorem found_of_free (hopen : r.refusal? name = none)
    (h : r.leases.get? (Name.toInternal name) = none) (host : Host) :
    r.found host name = r.declared host name := by
  have hresolves := resolves r host name
  unfold found declared
  generalize (r.resolve host name).1 = x at hresolves
  generalize (r.resolve host name).2 = s at hresolves
  cases hresolves with
  | refused hrefused => rw [hopen] at hrefused; cases hrefused
  | joined _ hbump => simp only [LeaseTable.bump, h, reduceCtorEq] at hbump
  | failed _ _ hload => rw [hload]
  | loaded _ _ hload => rw [hload]

theorem refusal?_of_found {c : ClassDecl} (h : r.found host name = .ok c) :
    r.refusal? name = none := by
  cases hrefusal : r.refusal? name with
  | none => rfl
  | some fault =>
      rw [found_of_refused hrefusal] at h
      cases h

/-- The name leads to bytes with values that are nested too deep: it is not refused, no lease is
open, and reading what is stored comes to the end of the depth. -/
structure TooDeep (r : Repository) (host : Host) (name : String) : Prop where
  asked : r.refusal? name = none
  free : r.leases.get? (Name.toInternal name) = none
  stored : r.StoresTooDeep host (Name.toInternal name)

/-- Both spellings of a name lead to the same class. -/
theorem found_of_spelling {other : String} {c : ClassDecl}
    (hname : Name.toInternal other = Name.toInternal name) (h : r.found host name = .ok c) :
    r.found host other = .ok c := by
  have hopen : r.refusal? name = none := refusal?_of_found h
  have hother : r.refusal? other = none := refusal?_of_spelling hname hopen
  cases hget : r.leases.get? (Name.toInternal name) with
  | some lease =>
      rw [found_of_leased hopen hget] at h
      rw [found_of_leased hother (hname ▸ hget), h]
  | none =>
      rw [found_of_free hopen hget] at h
      rw [found_of_free hother (hname ▸ hget)]
      exact declared_of_spelling hname h

theorem name_of_found {c : ClassDecl} (hnamed : r.leases.Named) (h : r.found host name = .ok c) :
    c.name = Name.toInternal name := by
  obtain ⟨o, hresult, rfl⟩ := map_eq_ok_iff.mp h
  have hresolves := resolves r host name
  rw [hresult] at hresolves
  exact hresolves.name_eq hnamed

/-- While the repository is open, a name is refused with a failure of the analysis. -/
theorem refusal?_eq_some {fault : Fault} (hopen : r.closed = false)
    (h : r.refusal? name = some fault) : ∃ e, fault = .failure e := by
  unfold refusal? at h
  split at h
  · split at h
    · cases h
    · cases h
      exact ⟨_, rfl⟩
  · rw [hopen] at h
    simp only [Bool.false_eq_true, if_false] at h
    split at h
    · cases h
      exact ⟨_, rfl⟩
    · cases h

/-- While the repository is open and its places can be searched, a name that leads nowhere is a
failure of the analysis, or leads to values that are nested too deep. -/
theorem found_eq_error {fault : Fault} (hopen : r.closed = false)
    (hhandles : r.Handles host.files name) (h : r.found host name = .error fault) :
    (∃ e, fault = .failure e) ∨ fault = .misuse .nestedTooDeep ∧ r.TooDeep host name := by
  cases hrefusal : r.refusal? name with
  | some fault' =>
      rw [found_of_refused hrefusal] at h
      cases h
      exact .inl (refusal?_eq_some hopen hrefusal)
  | none =>
      cases hget : r.leases.get? (Name.toInternal name) with
      | some lease =>
          rw [found_of_leased hrefusal hget] at h
          cases h
      | none =>
          rw [found_of_free hrefusal hget] at h
          rcases declared_eq_error hhandles h with hfailure | ⟨hdeep, hstored⟩
          · exact .inl hfailure
          · exact .inr ⟨hdeep, hrefusal, hget, hstored⟩

theorem TooDeep.found_eq (h : r.TooDeep host name) :
    r.found host name = .error (.misuse .nestedTooDeep) := by
  rw [found_of_free h.asked h.free]
  exact h.stored.declared_eq

/-! ## Reachable states -/

/-- A state to which its users can bring a repository. They find classes and give back whatever they
like, in whatever files there are at the time. When they do so at the same time, a class may also be
loaded in one state and leased in another. -/
inductive Reachable : Repository → Prop
  | memory {arguments : List (String × Argument)} {r : Repository}
      (hsound : ∀ name c, (name, Argument.decl c) ∈ arguments → c.Sound)
      (hmade : ofArguments (some arguments) = .ok r) : Reachable r
  | places (path : SearchPath) : Reachable (ofSearchPath path)
  | resolve {r : Repository} (h : Reachable r) (host : Host) (name : String) :
      Reachable (r.resolve host name).2
  | load {r : Repository} (h : Reachable r) (host : Host) (name : String) :
      Reachable { r with archives := (r.load host name).2, nextId := r.nextId + 1 }
  | commit {r s : Repository} (h : Reachable r) (hearlier : Reachable s)
      (hcontent : s.content = r.content) {host : Host} {name : String} {o : Loaded}
      (hload : (s.load host name).1 = .ok o) :
      Reachable { r with leases := (r.leases.commit (Name.toInternal name) o).2 }
  | release {r : Repository} (h : Reachable r) (o : Loaded) : Reachable (r.release o)
  | close {r : Repository} (h : Reachable r) : Reachable r.close

/-- What holds of every state: the leases are in order, and neither a class that is held in memory
nor one that is leased has a defect. -/
structure Lawful (r : Repository) : Prop where
  tidy : r.leases.Tidy
  content : r.content.Sound
  leased : ∀ name lease, r.leases.get? name = some lease → lease.object.decl.Sound

/-- Taking a class without defect keeps the leases in order. -/
theorem Lawful.take {o : Loaded} (h : r.Lawful)
    (htakes : r.leases.Takes (Name.toInternal name) o s.leases) (hcontent : s.content = r.content)
    (hname : o.decl.name = Name.toInternal name) (hsound : o.decl.Sound) : s.Lawful := by
  refine ⟨⟨htakes.named h.tidy.named hname, htakes.positive h.tidy.positive⟩,
    hcontent ▸ h.content, ?_⟩
  intro n lease hlease
  rcases htakes.cases_get? hlease with ⟨-, hobject⟩ | hbefore
  · rw [hobject]
    exact hsound
  · exact h.leased n lease hbefore

theorem Lawful.of_leases_eq (h : r.Lawful) (hleases : s.leases = r.leases)
    (hcontent : s.content = r.content) : s.Lawful :=
  ⟨hleases ▸ h.tidy, hcontent ▸ h.content, hleases ▸ h.leased⟩

/-- What is found has no defect. -/
theorem Resolves.sound {o : Loaded} (h : Resolves host name r (.ok o) s) (hr : r.Lawful) :
    o.decl.Sound := by
  cases h with
  | joined _ hbump =>
      obtain ⟨lease, hlease, rfl, -⟩ := LeaseTable.get?_of_bump hbump (Name.toInternal name)
      exact hr.leased _ lease hlease
  | loaded _ _ hload => exact (sound_of_declared (declared_of_load hload)).2 hr.content

theorem Resolves.lawful {x : Except Fault Loaded} (h : Resolves host name r x s) (hr : r.Lawful) :
    s.Lawful := by
  cases x with
  | error fault => exact hr.of_leases_eq h.leases_of_error h.content
  | ok o => exact hr.take h.takes.1 h.content (h.name_eq hr.tidy.named) (h.sound hr)

theorem sound_of_found {c : ClassDecl} (hr : r.Lawful) (h : r.found host name = .ok c) :
    c.Sound := by
  obtain ⟨o, hresult, rfl⟩ := map_eq_ok_iff.mp h
  have hresolves := resolves r host name
  rw [hresult] at hresolves
  exact hresolves.sound hr

theorem dottedName_ne_empty {c : ClassDecl} (hr : r.Lawful) (h : r.found host name = .ok c) :
    c.dottedName ≠ "" := by
  intro hempty
  have hinternal : Name.toInternal c.name = "" := by
    rw [← Name.toInternal_toDotted]
    exact Name.toInternal_eq_empty_iff.mpr hempty
  exact (sound_of_found hr h).name (Name.toInternal_eq_empty_iff.mp hinternal)

/-- A class that was loaded earlier can be leased later. -/
theorem Lawful.commit {o : Loaded} (h : r.Lawful) (hearlier : s.content = r.content)
    (hload : (s.load host name).1 = .ok o) :
    Lawful { r with leases := (r.leases.commit (Name.toInternal name) o).2 } := by
  have hdeclared := sound_of_declared (declared_of_load hload)
  have htakes := r.leases.commit_takes (Name.toInternal name) o
  rcases r.leases.commit_object (Name.toInternal name) o with ⟨lease, hlease, hobject⟩ | hobject
  · rw [hobject] at htakes
    exact h.take htakes rfl (h.tidy.named _ lease hlease) (h.leased _ lease hlease)
  · rw [hobject] at htakes
    exact h.take htakes rfl hdeclared.1 (hdeclared.2 (hearlier ▸ h.content))

theorem Lawful.release (h : r.Lawful) (o : Loaded) : (r.release o).Lawful := by
  refine ⟨h.tidy.release o, h.content, ?_⟩
  intro n lease hlease
  obtain ⟨before, hbefore, hobject⟩ := LeaseTable.exists_of_get?_release hlease
  exact hobject ▸ h.leased n before hbefore

theorem exists_of_storedOf {id : Nat} {arguments : List (String × Argument)}
    {stored : List (String × Stored)} (h : storedOf id arguments = .ok stored) {internal : String}
    {o : Loaded} (hmem : (internal, .object o) ∈ stored) :
    ∃ name, (name, Argument.decl o.decl) ∈ arguments := by
  induction arguments generalizing id stored with
  | nil =>
      cases h
      cases hmem
  | cons e arguments ih =>
      obtain ⟨name, argument⟩ := e
      cases argument with
      | other value => cases h
      | decl c =>
          obtain ⟨rest, hrest, rfl⟩ := map_eq_ok_iff.mp h
          rcases List.mem_cons.mp hmem with heq | hmem
          · cases heq
            exact ⟨name, List.mem_cons_self⟩
          · obtain ⟨other, hother⟩ := ih hrest hmem
            exact ⟨other, List.mem_cons_of_mem _ hother⟩
      | bytes b =>
          obtain ⟨rest, hrest, rfl⟩ := map_eq_ok_iff.mp h
          rcases List.mem_cons.mp hmem with heq | hmem
          · cases heq
          · obtain ⟨other, hother⟩ := ih hrest hmem
            exact ⟨other, List.mem_cons_of_mem _ hother⟩

theorem lawful_of_empty (hleases : r.leases = .empty) (hcontent : r.content.Sound) : r.Lawful := by
  have hnone : ∀ name lease, r.leases.get? name ≠ some lease := by
    rw [hleases]
    exact nofun
  exact ⟨⟨fun n lease h => (hnone n lease h).elim, fun n lease h => (hnone n lease h).elim⟩,
    hcontent, fun n lease h => (hnone n lease h).elim⟩

theorem lawful_of_ofArguments {arguments : List (String × Argument)}
    (hsound : ∀ name c, (name, Argument.decl c) ∈ arguments → c.Sound)
    (hmade : ofArguments (some arguments) = .ok r) : r.Lawful := by
  obtain ⟨stored, hstored, hmade⟩ := bind_eq_ok_iff.mp hmade
  cases hmade
  refine lawful_of_empty rfl ?_
  intro name o hget
  obtain ⟨name', hmem⟩ := exists_of_storedOf hstored
    (OrderedMap.mem_of_mem_ofList (OrderedMap.get?_eq_some_iff.mp hget))
  exact hsound name' o.decl (OrderedMap.mem_of_mem_ofList hmem)

/-- **Every state of a repository is in order.** -/
theorem Reachable.lawful (h : Reachable r) : r.Lawful := by
  induction h with
  | memory hsound hmade => exact lawful_of_ofArguments hsound hmade
  | places path => exact lawful_of_empty rfl trivial
  | resolve _ host name ih => exact (resolves _ host name).lawful ih
  | load _ _ _ ih => exact ih.of_leases_eq rfl rfl
  | commit _ _ hcontent hload ih _ => exact ih.commit hcontent hload
  | release _ o ih => exact ih.release o
  | close _ ih => exact ih.of_leases_eq rfl rfl

/-! ## Finding a class and giving it back -/

/-- Finds the class of a name and gives it back. -/
def visit (r : Repository) (host : Host) (name : String) : Except Fault Loaded × Repository :=
  match r.resolve host name with
  | (.error fault, r) => (.error fault, r)
  | (.ok o, r) => (.ok o, r.release o)

theorem visit_fst (r : Repository) (host : Host) (name : String) :
    (r.visit host name).1 = (r.resolve host name).1 := by
  rcases hresolve : r.resolve host name with ⟨fault | o, s⟩
  · simp only [visit, hresolve]
  · simp only [visit, hresolve]

/-- An operation on one class visits it. -/
theorem withClass_eq {α : Type} (host : Host) (name : String)
    (work : ClassDecl → Except Fault α) (r : Repository) :
    withClass host name work r =
      ((r.visit host name).1 >>= fun o => work o.decl, (r.visit host name).2) := by
  rcases hresolve : r.resolve host name with ⟨fault | o, s⟩
  · simp only [withClass, visit, hresolve]
    rfl
  · simp only [withClass, visit, hresolve]
    rfl

/-- What a class is found to depend on, or why nothing is. -/
theorem tryExtract_fst (host : Host) (includeSelf : Bool) (name : String)
    (requested : Option (List Requested)) (r : Repository) :
    (r.tryExtract host includeSelf name requested).1 =
      keepFailure (r.found host name >>= fun c => c.extract includeSelf requested) := by
  rcases hresolve : r.resolve host name with ⟨fault | o, s⟩
  · simp only [tryExtract, extract, withClass, found, hresolve]
    rfl
  · simp only [tryExtract, extract, withClass, found, hresolve]
    rfl

theorem tryExtract_eq (host : Host) (includeSelf : Bool) (name : String)
    (requested : Option (List Requested)) (r : Repository) :
    r.tryExtract host includeSelf name requested =
      (keepFailure ((r.visit host name).1 >>= fun o => o.decl.extract includeSelf requested),
        (r.visit host name).2) := by
  rw [tryExtract, extract, withClass_eq]

/-- Nothing has changed but the archives that are open and the number for the next class. -/
structure Unmoved (r s : Repository) : Prop where
  content : s.content = r.content
  closed : s.closed = r.closed
  leases : s.leases = r.leases

theorem Unmoved.refl (r : Repository) : r.Unmoved r := ⟨rfl, rfl, rfl⟩

theorem Unmoved.trans (h : r.Unmoved s) (h' : s.Unmoved u) : r.Unmoved u :=
  ⟨h'.content.trans h.content, h'.closed.trans h.closed, h'.leases.trans h.leases⟩

/-- Whoever finds a class, does what leaves the leases alone, and gives the class back, has left the
leases alone. -/
theorem Resolves.unmoved_release {o : Loaded} (h : Resolves host name r (.ok o) s)
    (htidy : r.leases.Tidy) (hbetween : s.Unmoved u) : r.Unmoved (u.release o) where
  content := hbetween.content.trans h.content
  closed := hbetween.closed.trans h.closed
  leases := by
    have habove := (h.above htidy.above).drop
    rw [← hbetween.leases] at habove
    exact habove.eq_base

theorem Resolves.unmoved_of_error {fault : Fault} (h : Resolves host name r (.error fault) s) :
    r.Unmoved s :=
  ⟨h.content, h.closed, h.leases_of_error⟩

/-- **A visit leaves the leases as they were.** -/
theorem visit_unmoved (htidy : r.leases.Tidy) (host : Host) (name : String) :
    r.Unmoved (r.visit host name).2 := by
  have hresolves := resolves r host name
  rcases hresolve : r.resolve host name with ⟨fault | o, s⟩
  · rw [hresolve] at hresolves
    simp only [visit, hresolve]
    exact hresolves.unmoved_of_error
  · rw [hresolve] at hresolves
    simp only [visit, hresolve]
    exact hresolves.unmoved_release htidy (.refl _)

end JvmDeps.Repository
