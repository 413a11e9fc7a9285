import JvmDeps.Proofs.Repository.Leasing

set_option autoImplicit false

/-! # Programs that hold classes

A program works on a repository with the operations of the extraction, and with blocks that hold a
class while their body runs (`Program`). What an operation or a block comes to, a fault included, is
handed to the rest of the program, which may go on with it in any way. A block gives its class back
however its body ended.

`Program.run` runs a program and keeps a record of every search for a class on the way, with the
blocks that were open at the time (`Search`). From every reachable state, the leases after a program
are exactly the leases before it, and every search in a block for the class of the block gives the
object that the block holds (`Program.run_restores`).
-/

namespace JvmDeps

/-! ## Operations -/

/-- An operation of the extraction, by the kind of its result. -/
inductive Operation : Type → Type
  | extract (name : String) (requested : Option (List Requested)) : Operation DependencyTable
  | survey (name : String) (requested : Option (List Requested)) : Operation Survey
  | tryExtract (name : String) (requested : Option (List Requested)) :
      Operation (Except Fault DependencyTable)
  | allDependencies (name : String) : Operation NameSet
  | namesIn (category : Category) (name : String) : Operation NameSet
  | superclass (name : String) : Operation (Option String)
  | signatureNames (name : String) (method descriptor : Option String) : Operation NameSet
  | batch (names : List String) (requested : Option (List Requested)) (workers : Option Int) :
      Operation Batch

namespace Operation

/-- Performs an operation. -/
def perform (host : Host) (includeSelf : Bool) :
    {α : Type} → Operation α → Repository → Except Fault α × Repository
  | _, extract name requested => Repository.extract host includeSelf name requested
  | _, survey name requested => Repository.survey host includeSelf name requested
  | _, tryExtract name requested => Repository.tryExtract host includeSelf name requested
  | _, allDependencies name => Repository.allDependencies host includeSelf name
  | _, namesIn category name => Repository.namesIn host includeSelf category name
  | _, superclass name => Repository.superclass host name
  | _, signatureNames name method descriptor =>
    Repository.signatureNames host includeSelf name method descriptor
  | _, batch names requested workers => Repository.batch host includeSelf names requested workers

/-- The names whose classes an operation searches for, in order. -/
def names : {α : Type} → Operation α → List String
  | _, extract name _ => [name]
  | _, survey name _ => [name]
  | _, tryExtract name _ => [name]
  | _, allDependencies name => [name]
  | _, namesIn _ name => [name]
  | _, superclass name => [name]
  | _, signatureNames name _ _ => [name]
  | _, batch names _ workers => if (workers.filter (· < 1)).isSome then [] else names.eraseDups

end Operation

namespace Repository

variable {r s : Repository} {host : Host} {name : String}

/-- Visits classes one after the other, with what was found under each name. -/
def visits (host : Host) : List String → Repository →
    List (String × Except Fault Loaded) × Repository
  | [], r => ([], r)
  | name :: names, r =>
    match r.visit host name with
    | (found, r) =>
      match visits host names r with
      | (more, r) => ((name, found) :: more, r)

theorem withClass_snd {α : Type} (host : Host) (name : String)
    (work : ClassDecl → Except Fault α) (r : Repository) :
    (withClass host name work r).2 = (visits host [name] r).2 := by
  rw [withClass_eq]
  rfl

theorem outcomes_snd (host : Host) (includeSelf : Bool) (requested : Option (List Requested))
    (names : List String) (r : Repository) :
    (outcomes host includeSelf requested names r).2 = (visits host names r).2 := by
  induction names generalizing r with
  | nil => rfl
  | cons name names ih =>
      simp only [outcomes, visits, tryExtract_eq]
      exact ih _

end Repository

/-- **An operation does to the repository what visits to its classes do.** -/
theorem Operation.perform_snd {α : Type} (host : Host) (includeSelf : Bool) (op : Operation α)
    (r : Repository) :
    (op.perform host includeSelf r).2 = (Repository.visits host op.names r).2 := by
  cases op with
  | batch names requested workers =>
      simp only [perform, Repository.batch, Operation.names]
      split
      · rename_i hworkers
        simp only [hworkers, Option.isSome_some, if_true]
        rfl
      · rename_i hworkers
        simp only [hworkers, Option.isSome_none, Bool.false_eq_true, if_false]
        exact Repository.outcomes_snd ..
  | tryExtract name requested => exact congrArg Prod.snd (Repository.tryExtract_eq ..)
  | _ => exact Repository.withClass_snd ..

/-! ## Programs -/

/-- A program that works on a repository and gives an `α`. The files may be others at each step. -/
inductive Program : Type → Type 1
  /-- Returns, or raises a fault. -/
  | done {α : Type} (result : Except Fault α) : Program α
  /-- Performs an operation and goes on with what it came to. -/
  | call {α β : Type} (host : Host) (includeSelf : Bool) (op : Operation β)
      (next : Except Fault β → Program α) : Program α
  /-- Holds the class of a name while the body runs, and goes on with what the body came to, or with
  the fault if there is no such class. -/
  | hold {α β : Type} (host : Host) (name : String) (body : Loaded → Program β)
      (next : Except Fault β → Program α) : Program α

/-- A block: the name it was opened with, and the object that it holds. -/
structure Block where
  name : String
  object : Loaded

/-- A search for a class: the blocks that were open, the name, and what was found. -/
structure Search where
  blocks : List Block
  name : String
  found : Except Fault Loaded

namespace Program

/-- What a program came to, the repository after it, and the searches on the way. -/
structure Outcome (α : Type) where
  result : Except Fault α
  repository : Repository
  searches : List Search

/-- Adds searches that were made before. -/
def Outcome.after {α : Type} (earlier : List Search) (x : Outcome α) : Outcome α :=
  { x with searches := earlier ++ x.searches }

/-- Runs a program inside of some blocks. -/
def run : {α : Type} → Program α → List Block → Repository → Outcome α
  | _, done result, _, r => ⟨result, r, []⟩
  | _, call host includeSelf op next, blocks, r =>
    let visited := (Repository.visits host op.names r).1
    let searches := visited.map fun (name, found) => ⟨blocks, name, found⟩
    match op.perform host includeSelf r with
    | (result, r) => ((next result).run blocks r).after searches
  | _, hold host name body next, blocks, r =>
    match r.resolve host name with
    | (.error fault, r) =>
      ((next (.error fault)).run blocks r).after [⟨blocks, name, .error fault⟩]
    | (.ok o, r) =>
      let inner := (body o).run (⟨name, o⟩ :: blocks) r
      ((next inner.result).run blocks (inner.repository.release o)).after
        (⟨blocks, name, .ok o⟩ :: inner.searches)

end Program

/-! ## Blocks -/

namespace Repository

variable {r s : Repository} {host : Host} {name : String} {b : Block}

/-- The class of a block can be found, and its lease is open. -/
structure Holds (r : Repository) (b : Block) : Prop where
  findable : r.refusal? b.name = none
  leased : ∃ k, r.leases.get? (Name.toInternal b.name) = some ⟨b.object, k⟩

theorem Holds.of_unmoved (h : r.Holds b) (hmoved : r.Unmoved s) : s.Holds b where
  findable := (refusal?_congr hmoved.content hmoved.closed b.name).trans h.findable
  leased := hmoved.leases ▸ h.leased

/-- The class that was found is held by the block that opens with it. -/
theorem Resolves.holds {o : Loaded} (h : Resolves host name r (.ok o) s) : s.Holds ⟨name, o⟩ where
  findable := (refusal?_congr h.content h.closed name).trans h.refusal?
  leased := ⟨_, h.takes.1.self⟩

/-- The blocks that are open keep what they hold when another opens. -/
theorem Holds.of_resolves {o : Loaded} (h : r.Holds b)
    (hresolves : Resolves host name r (.ok o) s) :
    s.Holds b := by
  refine ⟨(refusal?_congr hresolves.content hresolves.closed b.name).trans h.findable, ?_⟩
  obtain ⟨k, hk⟩ := h.leased
  have htakes := hresolves.takes.1
  by_cases hname : Name.toInternal b.name = Name.toInternal name
  · rw [hname] at hk ⊢
    have hsame : b.object = o := htakes.same _ hk
    rw [hsame]
    exact ⟨_, htakes.self⟩
  · exact ⟨k, (htakes.other _ hname).trans hk⟩

/-- **A search in a block for its class gives the object of the block**, in either spelling. -/
theorem Holds.resolve_fst (h : r.Holds b) (hname : Name.toInternal name = Name.toInternal b.name)
    (host : Host) : (r.resolve host name).1 = .ok b.object := by
  have hrefusal : r.refusal? name = none := refusal?_of_spelling hname h.findable
  obtain ⟨k, hk⟩ := h.leased
  rw [← hname] at hk
  simp only [resolve, hrefusal, LeaseTable.bump, hk]

end Repository

/-- The search gives the object of every open block for the class. -/
def Search.Faithful (x : Search) : Prop :=
  ∀ b ∈ x.blocks, Name.toInternal x.name = Name.toInternal b.name → x.found = .ok b.object

theorem Repository.visits_faithful {r : Repository} {blocks : List Block} (htidy : r.leases.Tidy)
    (hblocks : ∀ b ∈ blocks, r.Holds b) (host : Host) (names : List String) :
    r.Unmoved (visits host names r).2 ∧
      ∀ e ∈ (visits host names r).1, Search.Faithful ⟨blocks, e.1, e.2⟩ := by
  induction names generalizing r with
  | nil => exact ⟨.refl r, List.forall_mem_nil _⟩
  | cons name names ih =>
      have hvisit := visit_unmoved htidy host name
      obtain ⟨hmoved, hfaithful⟩ := ih (hvisit.leases ▸ htidy)
        fun b hb => (hblocks b hb).of_unmoved hvisit
      refine ⟨hvisit.trans hmoved, List.forall_mem_cons.mpr ⟨?_, hfaithful⟩⟩
      intro b hb hname
      change Name.toInternal name = Name.toInternal b.name at hname
      show (r.visit host name).1 = .ok b.object
      rw [visit_fst, (hblocks b hb).resolve_fst hname host]

namespace Program

/-- The outcome leaves the leases as they were, and every search on the way was faithful. -/
structure Outcome.Restores {α : Type} (r : Repository) (x : Outcome α) : Prop where
  unmoved : r.Unmoved x.repository
  faithful : ∀ search ∈ x.searches, search.Faithful

theorem Outcome.Restores.after {α : Type} {r s : Repository} {x : Outcome α} {earlier : List Search}
    (h : x.Restores s) (hmoved : r.Unmoved s) (hearlier : ∀ search ∈ earlier, search.Faithful) :
    (x.after earlier).Restores r :=
  ⟨hmoved.trans h.unmoved, List.forall_mem_append.mpr ⟨hearlier, h.faithful⟩⟩

theorem restores_run {α : Type} (p : Program α) {blocks : List Block} {r : Repository}
    (htidy : r.leases.Tidy) (hblocks : ∀ b ∈ blocks, r.Holds b) :
    (p.run blocks r).Restores r := by
  -- along the program: the leases are in order, and the open blocks hold their classes
  induction p generalizing blocks r with
  | done result => exact ⟨.refl r, List.forall_mem_nil _⟩
  | call host includeSelf op next ih =>
      obtain ⟨hmoved, hfaithful⟩ := Repository.visits_faithful htidy hblocks host op.names
      show (((next _).run blocks (op.perform host includeSelf r).2).after _).Restores r
      rw [op.perform_snd host includeSelf r]
      have hnext := ih (op.perform host includeSelf r).1 (hmoved.leases ▸ htidy)
        fun b hb => (hblocks b hb).of_unmoved hmoved
      refine hnext.after hmoved ?_
      intro search hsearch
      obtain ⟨e, he, rfl⟩ := List.mem_map.mp hsearch
      exact hfaithful e he
  | hold host name body next ihbody ihnext =>
      have hfirst : Search.Faithful ⟨blocks, name, (r.resolve host name).1⟩ := by
        intro b hb hname
        exact (hblocks b hb).resolve_fst hname host
      have hresolves := Repository.resolves r host name
      rw [run]
      split
      · rename_i fault s heq
        rw [heq] at hfirst hresolves
        have hmoved := hresolves.unmoved_of_error
        have hnext := ihnext (.error fault) (hmoved.leases ▸ htidy)
          fun b hb => (hblocks b hb).of_unmoved hmoved
        exact hnext.after hmoved (List.forall_mem_singleton.mpr hfirst)
      · rename_i o s heq
        rw [heq] at hfirst hresolves
        have hinner := ihbody o (hresolves.above htidy.above).tidy (List.forall_mem_cons.mpr
          ⟨hresolves.holds, fun b hb => (hblocks b hb).of_resolves hresolves⟩)
        -- the class is given back, whatever the body came to
        have hmoved := hresolves.unmoved_release htidy hinner.unmoved
        have hnext := ihnext ((body o).run (⟨name, o⟩ :: blocks) s).result
          (hmoved.leases ▸ htidy) fun b hb => (hblocks b hb).of_unmoved hmoved
        exact hnext.after hmoved (List.forall_mem_cons.mpr ⟨hfirst, hinner.faithful⟩)

/-- **No lease is lost or left over.** From every reachable state, and whatever succeeds or fails on
the way, a program leaves the leases exactly as it met them: their names, objects, counts and order.
Every search inside of a block for the class of the block, in either spelling, gives the object that
the block holds. -/
theorem run_restores {α : Type} (p : Program α) {r : Repository} (h : Repository.Reachable r) :
    (p.run [] r).repository.leases = r.leases ∧
      ∀ search ∈ (p.run [] r).searches, ∀ b ∈ search.blocks,
        Name.toInternal search.name = Name.toInternal b.name → search.found = .ok b.object := by
  have hrun : (p.run [] r).Restores r := p.restores_run h.lawful.tidy (List.forall_mem_nil _)
  exact ⟨hrun.unmoved.leases, hrun.faithful⟩

/-- A host without files. -/
def noFiles : Host := ⟨fun _ => none, 1⟩

/-- One class in memory. -/
def oneClass : Repository :=
  ⟨.memory (.ofList [("a/B", .object ⟨0, { name := "a/B" }⟩)]), .empty, ∅, 1, false⟩

theorem oneClass_reachable : oneClass.Reachable := by
  have hname : Name.toInternal "a.B" = "a/B" := by decide +kernel
  have hmade : Repository.ofArguments (some [("a.B", .decl { name := "a/B" })]) = .ok oneClass := by
    show (Repository.storedOf 0 [("a.B", .decl { name := "a/B" })] >>= _) = _
    rw [Repository.storedOf, hname]
    rfl
  refine .memory ?_ hmade
  intro name c hmem
  cases List.mem_singleton.mp hmem
  exact ⟨by decide, List.forall_mem_nil _, List.forall_mem_nil _, List.nodup_nil⟩

/-- Holds a class under one spelling, asks for it and for one that is missing in a batch, holds it
again under the other spelling, and raises a fault there. -/
def raisesInBlocks : Program Unit :=
  .hold noFiles "a.B"
    (fun _ => .call noFiles false (.batch ["a/B", "x.Y"] none none) fun _ =>
      .hold noFiles "a/B" (fun _ => .done (.error (.raised .value "stop"))) .done)
    .done

/-- Somebody else has the class all the while. -/
theorem run_restores_raisesInBlocks :
    let r := (oneClass.resolve noFiles "a/B").2
    r.Reachable ∧ r.leases.size = 1 ∧
      (raisesInBlocks.run [] r).result = .error (.raised .value "stop") ∧
      (raisesInBlocks.run [] r).searches.length = 4 ∧
      (raisesInBlocks.run [] r).repository.leases = r.leases ∧
      ∀ search ∈ (raisesInBlocks.run [] r).searches, ∀ b ∈ search.blocks,
        Name.toInternal search.name = Name.toInternal b.name → search.found = .ok b.object := by
  have hresult : (raisesInBlocks.run [] (oneClass.resolve noFiles "a/B").2).result
      = .error (.raised .value "stop") := by
    decide +kernel
  have hsize : (oneClass.resolve noFiles "a/B").2.leases.size = 1 := by decide +kernel
  have hlength : (raisesInBlocks.run [] (oneClass.resolve noFiles "a/B").2).searches.length
      = 4 := by
    decide +kernel
  have hreachable := oneClass_reachable.resolve noFiles "a/B"
  exact ⟨hreachable, hsize, hresult, hlength, run_restores raisesInBlocks hreachable⟩

end Program

end JvmDeps
