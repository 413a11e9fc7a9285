import JvmDeps.Proofs.Repository.Agreement

set_option autoImplicit false

/-! # Clients of one repository

Any number of clients find classes in a repository and give them back, in any order and at the same
time. `Sharing.Run` are their runs; a run leaves events behind, and the leases of the repository run
along as the table of an interleaving (`Run.leasing`).

A client has a lease as long as it has taken it and not given it back (`unreturned`). The table does
not know the clients. It counts how often an object is leased, and a release takes one lease away,
whoever makes it. So a client that gives an object back too often changes nothing while nobody else
has a lease of it, and otherwise may end the lease of another client (`release_of_returned`).
-/

namespace JvmDeps

/-- What a release goes by: the identity of the object and the name that its class declares. -/
def Loaded.key (o : Loaded) : Nat × String := (o.id, o.decl.name)

namespace LeaseTable

/-- A release is granted exactly if the name of the class has a lease of an object with this
identity. -/
theorem release_fst_iff {t : LeaseTable} {o : Loaded} :
    (t.release o).1 = true ↔
      ∃ lease, t.get? o.decl.name = some lease ∧ lease.object.id = o.id := by
  constructor
  · intro hgranted
    obtain ⟨lease, hlease, hid, -⟩ := (release_drops hgranted).self
    exact ⟨lease, hlease, hid⟩
  · rintro ⟨lease, hlease, hid⟩
    unfold release
    simp only [hlease, hid, ne_eq, not_true_eq_false, if_false]
    split <;> rfl

/-- Where every lease stands under the name of its class, a lease that a release goes by is the one
that it looks at. -/
theorem Named.key_eq_iff {t : LeaseTable} (h : t.Named) {name : String} {lease : Lease}
    (hlease : t.get? name = some lease) (o : Loaded) :
    lease.object.key = o.key ↔ name = o.decl.name ∧ lease.object.id = o.id := by
  rw [Loaded.key, Loaded.key, h name lease hlease, Prod.mk.injEq, and_comm]

end LeaseTable

namespace Interleaving

variable {κ : Type} [DecidableEq κ]

/-! ## What clients have not given back -/

/-- The leases that clients have taken and not given back, with what a release of each goes by. A
release is that of the client that makes it, whether it is granted or not. -/
def unreturned : List (Event κ) → List (κ × (Nat × String))
  | [] => []
  | .acquired c _ object :: es => (c, object.key) :: unreturned es
  | .released c object _ :: es => (unreturned es).erase (c, object.key)
  | _ :: es => unreturned es

/-- No object is leased more often than clients have taken it and not given it back. -/
def Covered (es : List (Event κ)) (t : LeaseTable) : Prop :=
  ∀ name lease, t.get? name = some lease →
    lease.count ≤ (unreturned es).countP fun h => h.2 = lease.object.key

theorem Covered.take {es : List (Event κ)} {t u : LeaseTable} {c : κ} {name : String}
    {object : Loaded} (h : Covered es t) (htakes : t.Takes name object u) :
    Covered (.acquired c name object :: es) u := by
  intro n lease hlease
  rw [unreturned, List.countP_cons]
  by_cases hn : n = name
  · subst hn
    rw [htakes.self] at hlease
    cases hlease
    have hbefore : t.count n ≤ (unreturned es).countP fun h => h.2 = object.key := by
      cases hget : t.get? n with
      | none =>
          rw [LeaseTable.count_eq_zero_of_get? hget]
          exact Nat.zero_le _
      | some before =>
          rw [LeaseTable.count_eq_of_get? hget, ← htakes.same before hget]
          exact h n before hget
    rw [if_pos (decide_eq_true rfl)]
    exact Nat.succ_le_succ hbefore
  · rw [htakes.other n hn] at hlease
    exact Nat.le_add_right_of_le (h n lease hlease)

/-- A release takes away at most one of the leases that it goes by, and none of the others. -/
theorem Covered.release {es : List (Event κ)} {t : LeaseTable} (h : Covered es t)
    (hnamed : t.Named) (c : κ) (object : Loaded) :
    Covered (.released c object (t.release object).1 :: es) (t.release object).2 := by
  intro n lease hlease
  rw [unreturned, List.countP_erase]
  cases hgranted : (t.release object).1 with
  | false =>
      rw [LeaseTable.release_eq_of_false hgranted] at hlease
      -- a lease that the release goes by would have been ended
      have hkey : object.key ≠ lease.object.key := by
        intro hkey
        obtain ⟨rfl, hid⟩ := (hnamed.key_eq_iff hlease object).mp hkey.symm
        rw [LeaseTable.release_fst_iff.mpr ⟨lease, hlease, hid⟩] at hgranted
        cases hgranted
      simpa [hkey] using h n lease hlease
  | true =>
      have hdrops := LeaseTable.release_drops hgranted
      obtain ⟨before, hbefore, hid, hafter⟩ := hdrops.self
      by_cases hn : n = object.decl.name
      · rw [hn, hafter] at hlease
        split at hlease
        · cases hlease
          have hcount := h _ before hbefore
          dsimp only
          split <;> omega
        · cases hlease
      · rw [hdrops.other n hn] at hlease
        have hkey : object.key ≠ lease.object.key := fun hkey =>
          hn ((hnamed.key_eq_iff hlease object).mp hkey.symm).1
        simpa [hkey] using h n lease hlease

/-- **In every run, an object is leased at most as often as clients have not given it back.** -/
theorem Run.covered {es : List (Event κ)} {w : World κ} (h : Run es w) : Covered es w.table := by
  induction h with
  | start =>
      intro name lease hlease
      cases hlease
  | step hrun hstep ih =>
      cases hstep with
      | join _ hbump => exact ih.take (LeaseTable.bump_takes hbump)
      | miss _ _ => exact ih
      | load _ _ => exact ih
      | fail _ => exact ih
      | commit _ => exact ih.take (LeaseTable.commit_takes _ _ _)
      | release => exact ih.release hrun.named.table _ _

/-- A release that is granted ends a lease that some client has not given back. -/
theorem Run.exists_unreturned {es : List (Event κ)} {w : World κ} (h : Run es w) {object : Loaded}
    (hgranted : (w.table.release object).1 = true) : ∃ d, (d, object.key) ∈ unreturned es := by
  obtain ⟨lease, hlease, hid⟩ := LeaseTable.release_fst_iff.mp hgranted
  have hkey := (h.named.table.key_eq_iff hlease object).mpr ⟨rfl, hid⟩
  have hcovered := h.covered _ lease hlease
  have hpos : 0 < (unreturned es).countP fun x => x.2 = lease.object.key :=
    Nat.lt_of_lt_of_le (h.balanced.positive _ lease hlease) hcovered
  obtain ⟨⟨d, key⟩, hmem, heq⟩ := List.countP_pos_iff.mp hpos
  obtain rfl : key = lease.object.key := by simpa using heq
  exact ⟨d, hkey ▸ hmem⟩

/-! ## Clients that release only what they hold -/

/-- An element is taken out of a list before or after the list is mapped, if no other element is
mapped to the same. -/
theorem map_erase_of_unique {α β : Type} [BEq α] [LawfulBEq α] [BEq β] [LawfulBEq β] {f : α → β}
    {a : α} {l : List α} (h : ∀ b ∈ l, f b = f a → b = a) :
    (l.erase a).map f = (l.map f).erase (f a) := by
  induction l with
  | nil => rfl
  | cons b l ih =>
      obtain ⟨hb, hl⟩ := List.forall_mem_cons.mp h
      by_cases heq : b = a
      · subst heq
        rw [List.erase_cons_head, List.map_cons, List.erase_cons_head]
      · have hne : f b ≠ f a := fun hf => heq (hb hf)
        rw [List.erase_cons_tail (by simpa using heq), List.map_cons, List.map_cons,
          List.erase_cons_tail (by simpa using hne), ih hl]

/-- While clients release only what they hold, what they have not given back is what they hold. -/
theorem Run.unreturned_eq {es : List (Event κ)} {w : World κ} (h : Run es w)
    (hdisciplined : Disciplined es) :
    unreturned es = (holdings es).map fun x => (x.1, x.2.key) := by
  induction h with
  | start => rfl
  | @step es e w w' hrun hstep ih =>
      have hbefore := ih hdisciplined.tail
      cases e with
      | acquired c name object => rw [unreturned, holdings, hbefore, List.map_cons]
      | missed c name => exact hbefore
      | loaded c name object => exact hbefore
      | failed c name => exact hbefore
      | released c object granted =>
          have htracks := hrun.tracks hdisciplined.tail
          obtain rfl := htracks.granted hdisciplined.1 hstep
          rw [unreturned, holdings, hbefore]
          refine (@map_erase_of_unique _ _ _ _ _ _ (fun x : κ × Loaded => (x.1, x.2.key))
            (c, object) (holdings es) ?_).symm
          -- two held objects that a release goes by are one, the one of the table
          rintro ⟨d, other⟩ hmem heq
          obtain ⟨hclient, hkey⟩ := Prod.mk.inj heq
          obtain ⟨k, hk⟩ := htracks.leased c object hdisciplined.1
          obtain ⟨k', hk'⟩ := htracks.leased d other hmem
          rw [show other.decl.name = object.decl.name from congrArg Prod.snd hkey, hk] at hk'
          cases hk'
          exact Prod.ext hclient rfl

/-- While clients release only what they hold, a release of what somebody holds is granted. -/
theorem Run.granted_of_unreturned {es : List (Event κ)} {w : World κ} (h : Run es w)
    (hdisciplined : Disciplined es) {d : κ} {object : Loaded}
    (hmem : (d, object.key) ∈ unreturned es) : (w.table.release object).1 = true := by
  rw [h.unreturned_eq hdisciplined] at hmem
  obtain ⟨⟨d', held⟩, hheld, heq⟩ := List.mem_map.mp hmem
  obtain ⟨-, hkey⟩ := Prod.mk.inj heq
  obtain ⟨k, hk⟩ := (h.tracks hdisciplined).leased d' held hheld
  rw [show held.decl.name = object.decl.name from congrArg Prod.snd hkey] at hk
  exact LeaseTable.release_fst_iff.mpr ⟨_, hk, congrArg Prod.fst hkey⟩

end Interleaving

/-! ## Clients of a repository -/

namespace Sharing

open Interleaving (Event Phase unreturned)

variable {κ : Type} [DecidableEq κ]

/-- The repository that the clients share, and where each of them is in finding a class, by the
internal name. -/
structure World (κ : Type) where
  repository : Repository
  phase : κ → Phase

/-- The leases of the repository and the clients that take them. -/
def World.leasing (s : World κ) : Interleaving.World κ := ⟨s.repository.leases, s.phase⟩

/-- One step of one client: a section of finding a class, the load between the two, in whatever
files there are at the time, or a release. -/
inductive Step : World κ → Event κ → World κ → Prop
  | join {s : World κ} {c : κ} {name : String} {o : Loaded} {t : LeaseTable}
      (hphase : s.phase c = .idle) (hopen : s.repository.refusal? name = none)
      (hbump : s.repository.leases.bump (Name.toInternal name) = some (o, t)) :
      Step s (.acquired c (Name.toInternal name) o) ⟨{ s.repository with leases := t }, s.phase⟩
  | miss {s : World κ} {c : κ} {name : String}
      (hphase : s.phase c = .idle) (hopen : s.repository.refusal? name = none)
      (hbump : s.repository.leases.bump (Name.toInternal name) = none) :
      Step s (.missed c (Name.toInternal name))
        ⟨s.repository, Function.update s.phase c (.loading (Name.toInternal name))⟩
  | load {s : World κ} {c : κ} {name : String} {host : Host} {o : Loaded}
      (hphase : s.phase c = .loading (Name.toInternal name))
      (hload : (s.repository.load host name).1 = .ok o) :
      Step s (.loaded c (Name.toInternal name) o)
        ⟨{ s.repository with
            archives := (s.repository.load host name).2, nextId := s.repository.nextId + 1 },
          Function.update s.phase c (.loaded (Name.toInternal name) o)⟩
  | fail {s : World κ} {c : κ} {name : String} {host : Host} {fault : Fault}
      (hphase : s.phase c = .loading (Name.toInternal name))
      (hload : (s.repository.load host name).1 = .error fault) :
      Step s (.failed c (Name.toInternal name))
        ⟨{ s.repository with archives := (s.repository.load host name).2 },
          Function.update s.phase c .idle⟩
  | commit {s : World κ} {c : κ} {name : String} {o : Loaded}
      (hphase : s.phase c = .loaded name o) :
      Step s (.acquired c name (s.repository.leases.commit name o).1)
        ⟨{ s.repository with leases := (s.repository.leases.commit name o).2 },
          Function.update s.phase c .idle⟩
  | release {s : World κ} {c : κ} {o : Loaded} :
      Step s (.released c o (s.repository.leases.release o).1) ⟨s.repository.release o, s.phase⟩

/-- The runs from a new repository, with their events; the latest event comes first. Somebody may
close the repository in between. -/
inductive Run : List (Event κ) → World κ → Prop
  | start {r : Repository} (hfresh : r.Fresh) : Run [] ⟨r, fun _ => .idle⟩
  | step {es : List (Event κ)} {e : Event κ} {s s' : World κ}
      (hrun : Run es s) (hstep : Step s e s') : Run (e :: es) s'
  | close {es : List (Event κ)} {s : World κ} (hrun : Run es s) :
      Run es ⟨s.repository.close, s.phase⟩

/-- A step of the clients of a repository is one of the clients of its leases. -/
theorem Step.leasing {s s' : World κ} {e : Event κ} (h : Step s e s') :
    Interleaving.Step s.leasing e s'.leasing := by
  cases h with
  | join hphase _ hbump => exact .join hphase hbump
  | miss hphase _ hbump => exact .miss hphase hbump
  | load hphase hload => exact .load hphase (Repository.name_of_load hload)
  | fail hphase _ => exact .fail hphase
  | commit hphase => exact .commit hphase
  | release => exact .release

/-- **The leases of a repository run along as an interleaving.** -/
theorem Run.leasing {es : List (Event κ)} {s : World κ} (h : Run es s) :
    Interleaving.Run es s.leasing := by
  induction h with
  | start hfresh =>
      rw [World.leasing, hfresh.leases_eq]
      exact .start
  | step _ hstep ih => exact ih.step hstep.leasing
  | close _ ih => exact ih

/-- The events that a client leaves behind when it finds a class in one go. -/
def finding (c : κ) (host : Host) (name : String) (r : Repository) : List (Event κ) :=
  let internal := Name.toInternal name
  match r.refusal? name with
  | some _ => []
  | none =>
    match r.leases.bump internal with
    | some (o, _) => [.acquired c internal o]
    | none =>
      match (r.load host name).1 with
      | .error _ => [.failed c internal, .missed c internal]
      | .ok o => [.acquired c internal o, .loaded c internal o, .missed c internal]

/-- **A client that is idle can find a class in one go**: this is what `Repository.resolve` does. -/
theorem Run.resolve {es : List (Event κ)} {s : World κ} (h : Run es s) {c : κ}
    (hidle : s.phase c = .idle) (host : Host) (name : String) :
    Run (finding c host name s.repository ++ es) ⟨(s.repository.resolve host name).2, s.phase⟩ := by
  have hback (phase : Phase) :
      Function.update (Function.update s.phase c phase) c .idle = s.phase := by
    rw [Function.update_idem, ← hidle, Function.update_eq_self]
  have hresolves := Repository.resolves s.repository host name
  generalize (s.repository.resolve host name).1 = x at hresolves
  generalize (s.repository.resolve host name).2 = r at hresolves ⊢
  unfold finding
  cases hresolves with
  | refused hrefused =>
      simp only [hrefused]
      exact h
  | joined hopen hbump =>
      simp only [hopen, hbump]
      exact h.step (.join hidle hopen hbump)
  | failed hopen hbump hload =>
      simp only [hopen, hbump, hload]
      have hfail := (h.step (.miss hidle hopen hbump)).step
        (.fail (Function.update_self ..) hload)
      rwa [hback] at hfail
  | @loaded o hopen hbump hload =>
      simp only [hopen, hbump, hload]
      have hloaded := (h.step (.miss hidle hopen hbump)).step
        (.load (Function.update_self ..) hload)
      have hcommit := hloaded.step (.commit (Function.update_self ..))
      rw [Function.update_idem, hback, LeaseTable.commit_fst_of_bump hbump] at hcommit
      exact hcommit

/-- **What the release of a client does that has no lease of the object any more**, or never had
one, in any run of any number of clients of a repository. It leaves the leases as they are, unless
another client has a lease of the object. If clients have so far released only what they held, then
it does end a lease whenever another client has one. -/
theorem release_of_returned {es : List (Event κ)} {s : World κ} (hrun : Run es s) {c : κ}
    {o : Loaded} (hreturned : (c, o.key) ∉ unreturned es) :
    ((s.repository.release o).leases ≠ s.repository.leases →
        ∃ d, d ≠ c ∧ (d, o.key) ∈ unreturned es)
      ∧ (Interleaving.Disciplined es → ∀ d, (d, o.key) ∈ unreturned es →
        (s.repository.release o).leases.count o.decl.name + 1 =
          s.repository.leases.count o.decl.name) := by
  refine ⟨fun hchanged => ?_, fun hdisciplined d hmem => ?_⟩
  · cases hgranted : (s.repository.leases.release o).1 with
    | false => exact (hchanged (LeaseTable.release_eq_of_false hgranted)).elim
    | true =>
        obtain ⟨d, hmem⟩ := hrun.leasing.exists_unreturned hgranted
        refine ⟨d, ?_, hmem⟩
        rintro rfl
        exact hreturned hmem
  · have hgranted := hrun.leasing.granted_of_unreturned hdisciplined hmem
    exact (LeaseTable.release_drops hgranted).count_succ hrun.leasing.balanced.positive

deriving instance DecidableEq for Event

open Program (noFiles)

/-- The only class of the repositories below. -/
def sharedDecl : ClassDecl := { name := "a/B" }

/-- The object that is handed out for it. -/
def sharedClass : Loaded := ⟨0, sharedDecl⟩

/-- Two clients find the class, under its two spellings, and the first gives it back. -/
def oneReturned : List (Event Nat) :=
  [.released 0 sharedClass true, .acquired 1 "a/B" sharedClass, .acquired 0 "a/B" sharedClass,
    .loaded 0 "a/B" sharedClass, .missed 0 "a/B"]

/-- The repository after that. -/
def afterReturn : Repository :=
  let r := Repository.alone sharedDecl
  let r₁ := (r.resolve noFiles "a.B").2
  let r₂ := (r₁.resolve noFiles "a/B").2
  r₂.release sharedClass

theorem run_oneReturned : Run oneReturned ⟨afterReturn, fun _ => .idle⟩ := by
  let r := Repository.alone sharedDecl
  let r₁ := (r.resolve noFiles "a.B").2
  let r₂ := (r₁.resolve noFiles "a/B").2
  have hfresh : r.Fresh := .memory (Repository.ofDecls_singleton (by decide +kernel))
  have hfirst := (Run.start hfresh).resolve (c := 0) rfl noFiles "a.B"
  have hsecond := hfirst.resolve (c := 1) rfl noFiles "a/B"
  have hevents : oneReturned = .released 0 sharedClass (r₂.leases.release sharedClass).1 ::
      (finding 1 noFiles "a/B" r₁ ++ (finding 0 noFiles "a.B" r ++ [])) := by
    decide +kernel
  rw [hevents]
  exact hsecond.step .release

/-- The second client still has the class. If the first gives it back once more, that lease is
gone. -/
theorem release_of_returned_twice :
    (0, sharedClass.key) ∉ unreturned oneReturned ∧ Interleaving.Disciplined oneReturned ∧
      (1, sharedClass.key) ∈ unreturned oneReturned ∧
      (afterReturn.release sharedClass).leases.count sharedClass.decl.name + 1 =
        afterReturn.leases.count sharedClass.decl.name := by
  have hreturned : (0, sharedClass.key) ∉ unreturned oneReturned := by decide
  have hdisciplined : Interleaving.Disciplined oneReturned := by decide
  have hmem : (1, sharedClass.key) ∈ unreturned oneReturned := by decide
  exact ⟨hreturned, hdisciplined, hmem,
    (release_of_returned run_oneReturned hreturned).2 hdisciplined 1 hmem⟩

/-- **A release can end the lease of another client.** The first client has given back its only
lease, and its next release leaves nothing leased, though the second client has not given back
anything. -/
theorem release_ends_lease_of_other :
    Run oneReturned ⟨afterReturn, fun _ => .idle⟩ ∧
      (0, sharedClass.key) ∉ unreturned oneReturned ∧
      (1, sharedClass.key) ∈ unreturned oneReturned ∧
      afterReturn.leases.isLeased "a/B" = true ∧
      (afterReturn.release sharedClass).leases.isLeased "a/B" = false := by
  refine ⟨run_oneReturned, by decide, by decide, ?_⟩
  decide +kernel

end Sharing

end JvmDeps
