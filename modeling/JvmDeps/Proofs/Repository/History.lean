import JvmDeps.Proofs.Repository.Programs
import JvmDeps.Proofs.Repository.Schedule

set_option autoImplicit false

/-! # Answers do not depend on the past

A class that is leased, an archive that was opened and bytes that are read again could each give an
answer that a new repository would not give. None does, as long as the files stay as they are.

`Repository.Later` are the states that a repository can come to while its users find classes, give
them back and perform operations. In each of them a lease is of the class to which its name led in
the beginning (`Later.steady`), so every name still leads where it led (`Later.found_eq`). The two
spellings of a name lead to the same class, or to the same fault, but for the spelling in the
message that there is no such class (`found_of_spelling_or_notFound`). Together:
`perform_eq_fresh`.
-/

namespace JvmDeps

namespace Repository

variable {r : Repository}

/-! ## Later states -/

/-- The repository has just been made. -/
inductive Fresh : Repository → Prop
  | memory {arguments : List (String × Argument)} {r : Repository}
      (hmade : ofArguments (some arguments) = .ok r) : Fresh r
  | places (path : SearchPath) : Fresh (ofSearchPath path)

/-- What a repository can come to while the files stay as they are. A block that holds a class finds
it where it begins and gives it back where it ends, with anything in between. If users work at the
same time, a class may also be loaded in one state and leased in another. -/
inductive Later (host : Host) (r₀ : Repository) : Repository → Prop
  | start : Later host r₀ r₀
  | resolve {r : Repository} (h : Later host r₀ r) (name : String) :
      Later host r₀ (r.resolve host name).2
  | release {r : Repository} (h : Later host r₀ r) (o : Loaded) : Later host r₀ (r.release o)
  | perform {r : Repository} {α : Type} (h : Later host r₀ r) (includeSelf : Bool)
      (op : Operation α) : Later host r₀ (op.perform host includeSelf r).2
  | load {r : Repository} (h : Later host r₀ r) (name : String) :
      Later host r₀ { r with archives := (r.load host name).2, nextId := r.nextId + 1 }
  | commit {r s : Repository} {name : String} {o : Loaded} (h : Later host r₀ r)
      (hearlier : Later host r₀ s) (hopen : s.refusal? name = none)
      (hload : (s.load host name).1 = .ok o) :
      Later host r₀ { r with leases := (r.leases.commit (Name.toInternal name) o).2 }

theorem Fresh.leases_eq (h : r.Fresh) : r.leases = .empty := by
  cases h with
  | memory hmade =>
      obtain ⟨stored, -, hmade⟩ := bind_eq_ok_iff.mp hmade
      cases hmade
      rfl
  | places path => rfl

end Repository

namespace Schedule

variable {r r₀ s : Repository} {name : String} {job : Job} {o : Loaded}

theorem steady_refl (job : Job) (r : Repository) : Steady job r r :=
  ⟨rfl, rfl, .refl _ _, fun _ _ hlease hopen => Repository.found_of_leased hopen hlease job.host⟩

/-- A load gives what the name led to in the beginning, if nothing was leased then. -/
theorem Steady.declared_eq (h : Steady job r₀ r) (hfresh : r₀.Fresh)
    (hopen : r₀.refusal? name = none) :
    r.declared job.host name = r₀.found job.host name := by
  have hfree : r₀.leases.get? (Name.toInternal name) = none := by
    rw [hfresh.leases_eq]
    rfl
  rw [Repository.found_of_free hopen hfree]
  exact Repository.declared_congr h.content h.archives name

/-- **Every name leads where it led in the beginning.** -/
theorem Steady.found_eq (h : Steady job r₀ r) (hfresh : r₀.Fresh) (name : String) :
    r.found job.host name = r₀.found job.host name := by
  have hrefusal := h.refusal? name
  cases hr : r.refusal? name with
  | some fault =>
      rw [Repository.found_of_refused hr, Repository.found_of_refused (hrefusal ▸ hr)]
  | none =>
      have hopen : r₀.refusal? name = none := hrefusal ▸ hr
      cases hget : r.leases.get? (Name.toInternal name) with
      | some lease => rw [Repository.found_of_leased hr hget, h.shared name lease hget hopen]
      | none => rw [Repository.found_of_free hr hget, h.declared_eq hfresh hopen]

/-- Finding a class keeps the leases faithful: it joins a lease, or brings a class that was loaded
just now. -/
theorem Steady.resolve (h : Steady job r₀ r) (hfresh : r₀.Fresh) (name : String) :
    Steady job r₀ (r.resolve job.host name).2 := by
  have hrefusal := h.refusal? name
  have hresolves := Repository.resolves r job.host name
  generalize (r.resolve job.host name).1 = x at hresolves
  generalize (r.resolve job.host name).2 = s at hresolves ⊢
  cases hresolves with
  | refused _ => exact h
  | joined hopen hbump =>
      obtain ⟨lease, hlease, rfl, -⟩ := LeaseTable.get?_of_bump hbump (Name.toInternal name)
      have hfound := h.shared name lease hlease (hrefusal ▸ hopen)
      exact h.take (LeaseTable.bump_takes hbump) hfound
  | failed _ _ _ => exact h.load name r.nextId
  | @loaded o hopen hbump hload =>
      have hfound : r₀.found job.host name = .ok o.decl := by
        rw [← h.declared_eq hfresh (hrefusal ▸ hopen)]
        exact Repository.declared_of_load hload
      have htakes := r.leases.commit_takes (Name.toInternal name) o
      rw [LeaseTable.commit_fst_of_bump hbump o] at htakes
      exact (h.load name (r.nextId + 1)).take htakes hfound

theorem Steady.visits (h : Steady job r₀ r) (hfresh : r₀.Fresh) (names : List String) :
    Steady job r₀ (Repository.visits job.host names r).2 := by
  induction names generalizing r with
  | nil => exact h
  | cons name names ih =>
      have hresolve := h.resolve hfresh name
      have hvisit : Steady job r₀ (r.visit job.host name).2 := by
        unfold Repository.visit
        rcases hresult : r.resolve job.host name with ⟨fault | o, s⟩
        · rw [hresult] at hresolve
          exact hresolve
        · rw [hresult] at hresolve
          exact hresolve.release o
      exact ih hvisit

/-- A class that was loaded at some time can be leased at any other. -/
theorem Steady.commit (h : Steady job r₀ r) (hfresh : r₀.Fresh) (hearlier : Steady job r₀ s)
    (hopen : s.refusal? name = none) (hload : (s.load job.host name).1 = .ok o) :
    Steady job r₀ { r with leases := (r.leases.commit (Name.toInternal name) o).2 } := by
  have hopen₀ : r₀.refusal? name = none := hearlier.refusal? name ▸ hopen
  have hfound : r₀.found job.host name =
      .ok (r.leases.commit (Name.toInternal name) o).1.decl := by
    rcases r.leases.commit_object (Name.toInternal name) o with ⟨lease, hlease, hobject⟩ | hobject
    · rw [hobject]
      exact h.shared name lease hlease hopen₀
    · rw [hobject, ← hearlier.declared_eq hfresh hopen₀]
      exact Repository.declared_of_load hload
  exact h.take (r.leases.commit_takes (Name.toInternal name) o) hfound

end Schedule

namespace Repository

variable {r r₀ : Repository} {host : Host} {name : String}

/-- **In every later state, whoever is leased is the class to which its names led in the
beginning.** -/
theorem Later.steady (job : Schedule.Job) (hfresh : r₀.Fresh) (h : Later job.host r₀ r) :
    Schedule.Steady job r₀ r := by
  induction h with
  | start => exact Schedule.steady_refl job r₀
  | resolve _ name ih => exact ih.resolve hfresh name
  | release _ o ih => exact ih.release o
  | perform _ includeSelf op ih =>
      rw [op.perform_snd]
      exact ih.visits hfresh op.names
  | load _ name ih => exact ih.load name _
  | commit _ _ hopen hload ih ihearlier => exact ih.commit hfresh ihearlier hopen hload

theorem Later.found_eq (hfresh : r₀.Fresh) (h : Later host r₀ r) (name : String) :
    r.found host name = r₀.found host name :=
  (Later.steady ⟨host, false, none⟩ hfresh h).found_eq hfresh name

theorem withClass_fst {α : Type} (host : Host) (name : String)
    (work : ClassDecl → Except Fault α) (r : Repository) :
    (withClass host name work r).1 = r.found host name >>= work := by
  unfold withClass found
  rcases r.resolve host name with ⟨fault | o, s⟩ <;> rfl

/-- In every later state the work is done on the class to which the name led in the beginning. -/
theorem Later.withClass_fst {α : Type} {c : ClassDecl} (hfresh : r₀.Fresh) (h : Later host r₀ r)
    (hfound : r₀.found host name = .ok c) (work : ClassDecl → Except Fault α) :
    (withClass host name work r).1 = work c := by
  rw [Repository.withClass_fst, h.found_eq hfresh, hfound]
  rfl

/-! ## Spellings -/

/-- The fault that there is no class of a name in some places. -/
abbrev notFound (name : String) (scope : List String) : Fault :=
  .failure (.classNotFound name scope)

theorem declared_of_spelling_or_notFound {other : String}
    (hname : Name.toInternal other = Name.toInternal name) (r : Repository) (host : Host) :
    r.declared host other = r.declared host name ∨
      ∃ scope, r.declared host other = .error (notFound other scope) ∧
        r.declared host name = .error (notFound name scope) := by
  rw [declared_eq, declared_eq, hname]
  rcases r.stored? host.files (Name.toInternal name) with fault | _ | ⟨stored, source⟩
  · exact Or.inl rfl
  · exact Or.inr ⟨r.scope, rfl, rfl⟩
  · cases stored with
    | object o => exact Or.inl rfl
    | bytes b => exact Or.inl rfl

/-- If a name is refused, so is its other spelling, and in the same way. -/
theorem refusal?_of_spelling_or_notFound {other : String} {fault : Fault}
    (hname : Name.toInternal other = Name.toInternal name) (h : r.refusal? name = some fault) :
    r.refusal? other = some fault ∨
      ∃ scope, r.refusal? other = some (notFound other scope) ∧ fault = notFound name scope := by
  cases hr : r.content with
  | memory classes =>
      simp only [refusal?, hr, hname] at h ⊢
      split at h
      · cases h
      · rename_i hmissing
        rw [if_neg hmissing]
        exact Or.inr ⟨r.scope, rfl, (Option.some.inj h).symm⟩
  | places path =>
      simp only [refusal?, hr] at h ⊢
      split at h
      · rename_i hclosed
        rw [if_pos hclosed]
        exact Or.inl h
      · rename_i hopen
        rw [if_neg hopen]
        split at h
        · rename_i hempty
          have hother : other = "" := by
            rw [← Name.toInternal_eq_empty_iff, hname, Name.toInternal_eq_empty_iff]
            exact hempty
          rw [if_pos hother]
          exact Or.inr ⟨r.scope, rfl, (Option.some.inj h).symm⟩
        · cases h

/-- **Both spellings of a name lead to the same class or fault**, or to none. -/
theorem found_of_spelling_or_notFound {other : String}
    (hname : Name.toInternal other = Name.toInternal name) (r : Repository) (host : Host) :
    r.found host other = r.found host name ∨
      ∃ scope, r.found host other = .error (notFound other scope) ∧
        r.found host name = .error (notFound name scope) := by
  cases hrefusal : r.refusal? name with
  | some fault =>
      rw [found_of_refused hrefusal]
      rcases refusal?_of_spelling_or_notFound hname hrefusal with hother | ⟨scope, hother, rfl⟩
      · exact Or.inl (found_of_refused hother host)
      · exact Or.inr ⟨scope, found_of_refused hother host, rfl⟩
  | none =>
      have hother : r.refusal? other = none := refusal?_of_spelling hname hrefusal
      cases hget : r.leases.get? (Name.toInternal name) with
      | some lease =>
          rw [found_of_leased hrefusal hget, found_of_leased hother (hname ▸ hget)]
          exact Or.inl rfl
      | none =>
          rw [found_of_free hrefusal hget, found_of_free hother (hname ▸ hget)]
          exact declared_of_spelling_or_notFound hname r host

end Repository

/-! ## Queries -/

/-- An operation on one class, without its name. -/
inductive Query : Type → Type
  | extract (requested : Option (List Requested)) : Query DependencyTable
  | survey (requested : Option (List Requested)) : Query Survey
  | tryExtract (requested : Option (List Requested)) : Query (Except Fault DependencyTable)
  | allDependencies : Query NameSet
  | namesIn (category : Category) : Query NameSet
  | superclass : Query (Option String)
  | signatureNames (method descriptor : Option String) : Query NameSet

namespace Query

/-- The query about the class of a name. -/
def about : {α : Type} → Query α → String → Operation α
  | _, extract requested, name => .extract name requested
  | _, survey requested, name => .survey name requested
  | _, tryExtract requested, name => .tryExtract name requested
  | _, allDependencies, name => .allDependencies name
  | _, namesIn category, name => .namesIn category name
  | _, superclass, name => .superclass name
  | _, signatureNames method descriptor, name => .signatureNames name method descriptor

/-- What is found out about a class, or about a name that leads to none. -/
def answer (includeSelf : Bool) : {α : Type} → Query α → Except Fault ClassDecl → Except Fault α
  | _, extract requested, x => x >>= fun c => c.extract includeSelf requested
  | _, survey requested, x => x >>= fun c => c.survey includeSelf requested
  | _, tryExtract requested, x =>
    Repository.keepFailure (x >>= fun c => c.extract includeSelf requested)
  | _, allDependencies, x => x >>= fun c => c.allDependencies includeSelf
  | _, namesIn category, x =>
    x >>= fun c => (c.extract includeSelf (some [.category category])).map (·.get category)
  | _, superclass, x => x >>= fun c => .ok c.superclass?
  | _, signatureNames method descriptor, x =>
    x >>= fun c => (c.selectedNames method descriptor).map (c.dropSelf includeSelf)

/-- The outcome of a query about a class that is in none of some places. -/
def missing : {α : Type} → Query α → String → List String → Except Fault α
  | _, tryExtract _, name, scope => .ok (.error (Repository.notFound name scope))
  | _, _, name, scope => .error (Repository.notFound name scope)

theorem answer_notFound {α : Type} (q : Query α) (includeSelf : Bool) (name : String)
    (scope : List String) :
    q.answer includeSelf (.error (Repository.notFound name scope)) = q.missing name scope := by
  cases q <;> rfl

end Query

/-- **A query answers what there is to say about the class that its name leads to.** -/
theorem Query.perform_fst {α : Type} (q : Query α) (host : Host) (includeSelf : Bool)
    (name : String) (r : Repository) :
    ((q.about name).perform host includeSelf r).1 = q.answer includeSelf (r.found host name) := by
  cases q with
  | tryExtract requested => exact Repository.tryExtract_fst host includeSelf name requested r
  | _ => exact Repository.withClass_fst host name _ r

end JvmDeps
