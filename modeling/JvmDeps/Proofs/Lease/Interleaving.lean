import JvmDeps.Lease.Table
import Mathlib.Data.List.Count
import Mathlib.Logic.Function.Basic

set_option autoImplicit false

/-! # Interleaved clients of one lease table

Any number of clients share a `LeaseTable`. Taking a class is three steps of its client: the first
section (`LeaseTable.bump`), the load, which holds nothing and may fail, and the second section
(`LeaseTable.commit`). Giving a class back is one step (`LeaseTable.release`). `Step` lets one
client take one step, and `Run` strings steps together in any order, with the events they leave
behind.

What holds in every state of every run:

* the count of a name is the number of takings that returned less the number of releases that were
  granted, and no count is zero (`Run.count_add_releases`, `Run.count_pos`);
* if clients release only what they hold (`Disciplined`), then whoever holds a class holds the
  object of the table, every release is granted, and the table is empty as soon as nothing is held
  (`Run.tracks`).
-/

namespace JvmDeps

namespace LeaseTable

/-! ## What the sections do to the count of a name -/

/-- How many leases of a name are open. -/
def count (t : LeaseTable) (name : String) : Nat := ((t.get? name).map Lease.count).getD 0

theorem count_eq_of_get? {t : LeaseTable} {name : String} {lease : Lease}
    (h : t.get? name = some lease) : t.count name = lease.count := by
  simp [count, h]

theorem count_eq_zero_of_get? {t : LeaseTable} {name : String} (h : t.get? name = none) :
    t.count name = 0 := by
  simp [count, h]

theorem count_congr {t u : LeaseTable} {name : String} (h : u.get? name = t.get? name) :
    u.count name = t.count name := by
  simp [count, h]

/-- What taking a class does to the table: the name has a lease more, of the object that was given,
and no other name has changed. -/
structure Takes (t : LeaseTable) (name : String) (object : Loaded) (u : LeaseTable) : Prop where
  /-- An open lease keeps its object. -/
  same : ∀ lease, t.get? name = some lease → lease.object = object
  self : u.get? name = some ⟨object, t.count name + 1⟩
  other : ∀ n, n ≠ name → u.get? n = t.get? n

theorem bump_takes {t u : LeaseTable} {name : String} {object : Loaded}
    (h : t.bump name = some (object, u)) : t.Takes name object u := by
  refine ⟨?_, ?_, ?_⟩
  · intro lease hlease
    obtain ⟨lease', hlease', hobject, -⟩ := get?_of_bump h name
    rw [hlease] at hlease'
    cases hlease'
    exact hobject
  · obtain ⟨lease, hlease, -, hget⟩ := get?_of_bump h name
    rw [hget, if_pos rfl, count_eq_of_get? hlease]
  · intro n hn
    obtain ⟨_, -, -, hget⟩ := get?_of_bump h n
    rw [hget, if_neg hn]

theorem get?_eq_none_of_bump {t : LeaseTable} {name : String} (h : t.bump name = none) :
    t.get? name = none := by
  unfold bump at h
  split at h
  · assumption
  · simp at h

theorem commit_takes (t : LeaseTable) (name : String) (loaded : Loaded) :
    t.Takes name (t.commit name loaded).1 (t.commit name loaded).2 := by
  unfold commit
  cases hbump : t.bump name with
  | some taken => exact bump_takes hbump
  | none =>
      have hnone := get?_eq_none_of_bump hbump
      refine ⟨?_, ?_, ?_⟩
      · intro lease hlease
        rw [hnone] at hlease
        cases hlease
      · rw [count_eq_zero_of_get? hnone]
        exact (OrderedMap.get?_insert _ _ _ _).trans (if_pos rfl)
      · intro n hn
        exact (OrderedMap.get?_insert _ _ _ _).trans (if_neg hn)

/-- The object of a commit is the one that was leased, or else the one that was loaded. -/
theorem commit_object (t : LeaseTable) (name : String) (loaded : Loaded) :
    (∃ lease, t.get? name = some lease ∧ (t.commit name loaded).1 = lease.object)
      ∨ (t.commit name loaded).1 = loaded := by
  unfold commit
  cases hbump : t.bump name with
  | none => exact Or.inr rfl
  | some taken =>
      obtain ⟨object, u⟩ := taken
      obtain ⟨lease, hlease, hobject, -⟩ := get?_of_bump hbump name
      exact Or.inl ⟨lease, hlease, hobject.symm⟩

/-- What a granted release does to the table: the name had a lease of an object with this identity,
it has one less of it, and no other name has changed. -/
structure Drops (t : LeaseTable) (object : Loaded) (u : LeaseTable) : Prop where
  self : ∃ lease, t.get? object.decl.name = some lease ∧ lease.object.id = object.id
    ∧ u.get? object.decl.name =
      if lease.count > 1 then some ⟨lease.object, lease.count - 1⟩ else none
  other : ∀ n, n ≠ object.decl.name → u.get? n = t.get? n

theorem release_drops {t : LeaseTable} {object : Loaded} (h : (t.release object).1 = true) :
    t.Drops object (t.release object).2 := by
  refine ⟨?_, fun n hn => get?_release_of_ne hn⟩
  unfold release at h ⊢
  split at h
  · simp at h
  · rename_i lease hlease
    split at h
    · simp at h
    · rename_i hid
      refine ⟨lease, hlease, not_not.mp hid, ?_⟩
      simp only [if_neg hid]
      split
      · exact (OrderedMap.get?_insert _ _ _ _).trans (if_pos rfl)
      · exact (OrderedMap.get?_erase _ _ _).trans (if_pos rfl)

/-- A release of the leased object is granted. -/
theorem release_of_get? {t : LeaseTable} {object : Loaded} {k : Nat}
    (h : t.get? object.decl.name = some ⟨object, k⟩) : (t.release object).1 = true := by
  unfold release
  simp only [h, ne_eq, not_true_eq_false, if_false]
  split <;> rfl

/-! ## Tables without idle names -/

/-- No name is kept without a lease. -/
def Positive (t : LeaseTable) : Prop := ∀ name lease, t.get? name = some lease → 0 < lease.count

theorem Takes.positive {t u : LeaseTable} {name : String} {object : Loaded}
    (h : t.Takes name object u) (hpos : t.Positive) : u.Positive := by
  intro n lease hlease
  by_cases hn : n = name
  · subst hn
    rw [h.self] at hlease
    cases hlease
    exact Nat.succ_pos _
  · exact hpos n lease (h.other n hn ▸ hlease)

theorem Drops.positive {t u : LeaseTable} {object : Loaded} (h : t.Drops object u)
    (hpos : t.Positive) : u.Positive := by
  intro n lease hlease
  by_cases hn : n = object.decl.name
  · subst hn
    obtain ⟨before, -, -, hafter⟩ := h.self
    rw [hafter] at hlease
    split at hlease
    · cases hlease
      show 0 < before.count - 1
      omega
    · cases hlease
  · exact hpos n lease (h.other n hn ▸ hlease)

/-- A granted release counts one less. -/
theorem Drops.count_succ {t u : LeaseTable} {object : Loaded} (h : t.Drops object u)
    (hpos : t.Positive) : u.count object.decl.name + 1 = t.count object.decl.name := by
  obtain ⟨before, hbefore, -, hafter⟩ := h.self
  have hlive : 0 < before.count := hpos _ before hbefore
  rw [count_eq_of_get? hbefore]
  split at hafter
  · rw [count_eq_of_get? hafter]
    show before.count - 1 + 1 = before.count
    omega
  · rw [count_eq_zero_of_get? hafter]
    omega

/-! ## Tables that go by the declared names -/

/-- Every lease stands under the name that its class declares. -/
def Named (t : LeaseTable) : Prop :=
  ∀ name lease, t.get? name = some lease → lease.object.decl.name = name

theorem Takes.named {t u : LeaseTable} {name : String} {object : Loaded}
    (h : t.Takes name object u) (ht : t.Named) (hname : object.decl.name = name) : u.Named := by
  intro n lease hlease
  by_cases hn : n = name
  · subst hn
    rw [h.self] at hlease
    cases hlease
    exact hname
  · exact ht n lease (h.other n hn ▸ hlease)

theorem Drops.named {t u : LeaseTable} {object : Loaded} (h : t.Drops object u)
    (ht : t.Named) : u.Named := by
  intro n lease hlease
  by_cases hn : n = object.decl.name
  · subst hn
    obtain ⟨before, hbefore, -, hafter⟩ := h.self
    rw [hafter] at hlease
    split at hlease
    · cases hlease
      exact ht _ before hbefore
    · cases hlease
  · exact ht n lease (h.other n hn ▸ hlease)

/-- A table without open leases has no entries. -/
theorem size_eq_zero {t : LeaseTable} (h : ∀ name, t.get? name = none) : t.size = 0 := by
  have hget : ∀ name, OrderedMap.find? name t.leases.entries = none := h
  rw [size, OrderedMap.size]
  cases hentries : t.leases.entries with
  | nil => rfl
  | cons e es =>
      have := hget e.1
      rw [hentries] at this
      simp [OrderedMap.find?] at this

end LeaseTable

namespace Interleaving

/-! ## Clients, events and runs -/

/-- Where a client is in taking a class. -/
inductive Phase where
  | idle
  /-- No lease was open; the load is under way. -/
  | loading (name : String)
  /-- The load succeeded; the second section is still to come. -/
  | loaded (name : String) (object : Loaded)
deriving DecidableEq

/-- What the step of a client comes to. -/
inductive Event (κ : Type) where
  /-- A taking has returned, from its first or its second section. -/
  | acquired (client : κ) (name : String) (object : Loaded)
  /-- The first section found no open lease. -/
  | missed (client : κ) (name : String)
  | loaded (client : κ) (name : String) (object : Loaded)
  /-- The load failed, and so has the taking. -/
  | failed (client : κ) (name : String)
  /-- A release, and whether it was granted. -/
  | released (client : κ) (object : Loaded) (granted : Bool)

/-- The table that the clients share, and where each of them is. -/
structure World (κ : Type) where
  table : LeaseTable
  phase : κ → Phase

/-- No lease is open and every client is idle. -/
def World.start (κ : Type) : World κ := ⟨.empty, fun _ => .idle⟩

variable {κ : Type} [DecidableEq κ]

/-- One step of one client. A load for a name gives a class of that name. -/
inductive Step : World κ → Event κ → World κ → Prop
  | join {w : World κ} {c : κ} {name : String} {object : Loaded} {t : LeaseTable}
      (hphase : w.phase c = .idle) (hbump : w.table.bump name = some (object, t)) :
      Step w (.acquired c name object) ⟨t, w.phase⟩
  | miss {w : World κ} {c : κ} {name : String}
      (hphase : w.phase c = .idle) (hbump : w.table.bump name = none) :
      Step w (.missed c name) ⟨w.table, Function.update w.phase c (.loading name)⟩
  | load {w : World κ} {c : κ} {name : String} {object : Loaded}
      (hphase : w.phase c = .loading name) (hname : object.decl.name = name) :
      Step w (.loaded c name object) ⟨w.table, Function.update w.phase c (.loaded name object)⟩
  | fail {w : World κ} {c : κ} {name : String} (hphase : w.phase c = .loading name) :
      Step w (.failed c name) ⟨w.table, Function.update w.phase c .idle⟩
  | commit {w : World κ} {c : κ} {name : String} {object : Loaded}
      (hphase : w.phase c = .loaded name object) :
      Step w (.acquired c name (w.table.commit name object).1)
        ⟨(w.table.commit name object).2, Function.update w.phase c .idle⟩
  | release {w : World κ} {c : κ} {object : Loaded} :
      Step w (.released c object (w.table.release object).1)
        ⟨(w.table.release object).2, w.phase⟩

/-- The runs from the start, with their events; the latest event comes first. -/
inductive Run : List (Event κ) → World κ → Prop
  | start : Run [] (World.start κ)
  | step {es : List (Event κ)} {e : Event κ} {w w' : World κ}
      (hrun : Run es w) (hstep : Step w e w') : Run (e :: es) w'

/-! ## What a step does to the table -/

/-- The event leaves the table as it is. -/
def Event.quiet : Event κ → Bool
  | .acquired _ _ _ => false
  | .released _ _ granted => !granted
  | _ => true

/-- The table after an event. -/
inductive Effect (t : LeaseTable) : Event κ → LeaseTable → Prop
  | take {c : κ} {name : String} {object : Loaded} {u : LeaseTable} (h : t.Takes name object u) :
      Effect t (.acquired c name object) u
  | drop {c : κ} {object : Loaded} {u : LeaseTable} (h : t.Drops object u) :
      Effect t (.released c object true) u
  | keep {e : Event κ} (h : e.quiet = true) : Effect t e t

theorem Step.effect {w w' : World κ} {e : Event κ} (h : Step w e w') :
    Effect w.table e w'.table := by
  cases h with
  | join _ hbump => exact .take (LeaseTable.bump_takes hbump)
  | miss _ _ => exact .keep rfl
  | load _ _ => exact .keep rfl
  | fail _ => exact .keep rfl
  | commit _ => exact .take (LeaseTable.commit_takes _ _ _)
  | @release c object =>
      cases hgranted : (w.table.release object).1 with
      | true => exact .drop (LeaseTable.release_drops hgranted)
      | false =>
          show Effect w.table _ (w.table.release object).2
          rw [LeaseTable.release_eq_of_false hgranted]
          exact .keep rfl

/-! ## Accounting -/

/-- The event is the return of a taking of the name. -/
def Event.acquires (name : String) : Event κ → Bool
  | .acquired _ n _ => n = name
  | _ => false

/-- The event is a granted release of a class of the name. -/
def Event.releases (name : String) : Event κ → Bool
  | .released _ object granted => granted && object.decl.name = name
  | _ => false

omit [DecidableEq κ] in
theorem Event.not_acquires_of_quiet {e : Event κ} (h : e.quiet = true) (name : String) :
    e.acquires name = false ∧ e.releases name = false := by
  cases e with
  | released c object granted =>
      have : granted = false := by simpa [Event.quiet] using h
      simp [Event.acquires, Event.releases, this]
  | _ => simp_all [Event.quiet, Event.acquires, Event.releases]

/-- The table keeps the books: every count is what was taken less what was given back, and no name
is kept without a lease. -/
structure Balanced (es : List (Event κ)) (t : LeaseTable) : Prop where
  count_add : ∀ name,
    t.count name + es.countP (Event.releases name) = es.countP (Event.acquires name)
  positive : t.Positive

omit [DecidableEq κ] in
theorem Balanced.step {es : List (Event κ)} {e : Event κ} {t u : LeaseTable}
    (h : Balanced es t) (heffect : Effect t e u) : Balanced (e :: es) u := by
  have hsum := h.count_add
  cases heffect with
  | keep hquiet =>
      refine ⟨fun name => ?_, h.positive⟩
      obtain ⟨hacquires, hreleases⟩ := Event.not_acquires_of_quiet hquiet name
      simpa [List.countP_cons, hacquires, hreleases] using hsum name
  | @take c n object _ htakes =>
      refine ⟨fun name => ?_, htakes.positive h.positive⟩
      by_cases hn : name = n
      · subst hn
        have hcount : u.count name = t.count name + 1 := LeaseTable.count_eq_of_get? htakes.self
        have := hsum name
        simp only [List.countP_cons, Event.acquires, Event.releases, decide_true, if_true,
          Bool.false_eq_true, if_false]
        omega
      · rw [LeaseTable.count_congr (htakes.other name hn)]
        simpa [List.countP_cons, Event.acquires, Event.releases, Ne.symm hn] using hsum name
  | @drop c object _ hdrops =>
      refine ⟨fun name => ?_, hdrops.positive h.positive⟩
      by_cases hn : name = object.decl.name
      · subst hn
        have hcount := hdrops.count_succ h.positive
        have := hsum object.decl.name
        simp only [List.countP_cons, Event.acquires, Event.releases, decide_true, Bool.and_self,
          if_true, Bool.false_eq_true, if_false]
        omega
      · rw [LeaseTable.count_congr (hdrops.other name hn)]
        simpa [List.countP_cons, Event.acquires, Event.releases, Ne.symm hn] using hsum name

theorem Run.balanced {es : List (Event κ)} {w : World κ} (h : Run es w) : Balanced es w.table := by
  induction h with
  | start => exact ⟨fun _ => rfl, fun _ _ hlease => by cases hlease⟩
  | step _ hstep ih => exact ih.step hstep.effect

/-! ## Names

The table is searched under the requested name when a class is taken, and under the name that the
class declares when it is given back. The two agree, since a load gives a class of its name. -/

/-- Every object stands under the name that it declares, in the table and on the way there. -/
structure Named (w : World κ) : Prop where
  table : w.table.Named
  pending : ∀ c name object, w.phase c = .loaded name object → object.decl.name = name

/-- What is taken under a name declares that name. -/
theorem Named.acquired {w w' : World κ} {c : κ} {name : String} {object : Loaded} (h : Named w)
    (hstep : Step w (.acquired c name object) w') : object.decl.name = name := by
  cases hstep with
  | join _ hbump =>
      obtain ⟨lease, hlease, hobject, -⟩ := LeaseTable.get?_of_bump hbump name
      rw [← hobject]
      exact h.table name lease hlease
  | @commit _ _ loaded hphase =>
      rcases LeaseTable.commit_object w.table name loaded with ⟨lease, hlease, hobject⟩ | hobject
      · rw [hobject]
        exact h.table name lease hlease
      · rw [hobject]
        exact h.pending c name loaded hphase

omit [DecidableEq κ] in
theorem table_named_of_effect {t u : LeaseTable} {e : Event κ} (ht : t.Named)
    (heffect : Effect t e u)
    (hacquired : ∀ c name object, e = .acquired c name object → object.decl.name = name) :
    u.Named := by
  cases heffect with
  | keep _ => exact ht
  | take htakes => exact htakes.named ht (hacquired _ _ _ rfl)
  | drop hdrops => exact hdrops.named ht

/-- A phase that a step sets is the only one that it changes. -/
theorem pending_update {w : World κ} {c : κ} {phase : Phase}
    (h : ∀ c name object, w.phase c = .loaded name object → object.decl.name = name)
    (hphase : ∀ name object, phase = .loaded name object → object.decl.name = name) :
    ∀ d name object, Function.update w.phase c phase d = .loaded name object →
      object.decl.name = name := by
  intro d name object hd
  by_cases hdc : d = c
  · subst hdc
    rw [Function.update_self] at hd
    exact hphase name object hd
  · rw [Function.update_of_ne hdc] at hd
    exact h d name object hd

theorem Named.step {w w' : World κ} {e : Event κ} (h : Named w) (hstep : Step w e w') :
    Named w' := by
  refine ⟨table_named_of_effect h.table hstep.effect ?_, ?_⟩
  · rintro c name object rfl
    exact h.acquired hstep
  · cases hstep with
    | join _ _ => exact h.pending
    | release => exact h.pending
    | miss _ _ => exact pending_update h.pending fun _ _ hp => by cases hp
    | fail _ => exact pending_update h.pending fun _ _ hp => by cases hp
    | commit _ => exact pending_update h.pending fun _ _ hp => by cases hp
    | load _ hname =>
        apply pending_update h.pending
        rintro name object hp
        cases hp
        exact hname

theorem Run.named {es : List (Event κ)} {w : World κ} (h : Run es w) : Named w := by
  induction h with
  | start =>
      refine ⟨?_, ?_⟩
      · intro name lease hlease
        cases hlease
      · intro c name object hphase
        cases hphase
  | step _ hstep ih => exact ih.step hstep

/-- Every taking of a name has returned a class of that name. -/
theorem Run.name_of_acquired {es : List (Event κ)} {w : World κ} (h : Run es w) :
    ∀ c name object, Event.acquired c name object ∈ es → object.decl.name = name := by
  induction h with
  | start =>
      intro c name object hmem
      cases hmem
  | step hrun hstep ih =>
      intro c name object hmem
      rcases List.mem_cons.mp hmem with rfl | hmem
      · exact hrun.named.acquired hstep
      · exact ih c name object hmem

/-! ## Holdings -/

/-- What the clients hold after some events: an object for every taking that returned, less one for
every release of it that was granted. -/
def holdings : List (Event κ) → List (κ × Loaded)
  | [] => []
  | .acquired c _ object :: es => (c, object) :: holdings es
  | .released c object true :: es => (holdings es).erase (c, object)
  | _ :: es => holdings es

/-- Every client has released only what it held at that moment. -/
def Disciplined : List (Event κ) → Prop
  | [] => True
  | .released c object _ :: es => (c, object) ∈ holdings es ∧ Disciplined es
  | _ :: es => Disciplined es

instance Disciplined.decidable : (es : List (Event κ)) → Decidable (Disciplined es)
  | [] => inferInstanceAs (Decidable True)
  | .released c object _ :: es =>
    have := Disciplined.decidable es
    inferInstanceAs (Decidable ((c, object) ∈ holdings es ∧ Disciplined es))
  | .acquired _ _ _ :: es | .missed _ _ :: es | .loaded _ _ _ :: es | .failed _ _ :: es =>
    Disciplined.decidable es

theorem Disciplined.tail {e : Event κ} {es : List (Event κ)} (h : Disciplined (e :: es)) :
    Disciplined es := by
  cases e with
  | released c object granted => exact h.2
  | _ => exact h

theorem holdings_of_quiet {e : Event κ} (h : e.quiet = true) (es : List (Event κ)) :
    holdings (e :: es) = holdings es := by
  cases e with
  | released c object granted =>
      cases granted with
      | false => rfl
      | true => cases h
  | acquired c name object => cases h
  | _ => rfl

/-- How many leases of an object are held. -/
def heldCount (held : List (κ × Loaded)) (object : Loaded) : Nat :=
  held.countP fun h => h.2 = object

/-- The table tracks the holdings: what is held is leased under its name, and as often as it is
held. -/
structure Tracks (held : List (κ × Loaded)) (t : LeaseTable) : Prop where
  leased : ∀ c object, (c, object) ∈ held → ∃ k, t.get? object.decl.name = some ⟨object, k⟩
  counted : ∀ name lease, t.get? name = some lease → heldCount held lease.object = lease.count

omit [DecidableEq κ] in
/-- Taking a class adds one holding and one lease. -/
theorem Tracks.take {held : List (κ × Loaded)} {t u : LeaseTable} {c : κ} {object : Loaded}
    (h : Tracks held t) (hnamed : t.Named) (htakes : t.Takes object.decl.name object u) :
    Tracks ((c, object) :: held) u := by
  refine ⟨?_, ?_⟩
  · intro d other hmem
    by_cases hname : other.decl.name = object.decl.name
    · -- an object of the same name is the same object, by the lease that was open
      have hsame : other = object := by
        rcases List.mem_cons.mp hmem with heq | hmem
        · exact (Prod.mk.inj heq).2
        · obtain ⟨k, hk⟩ := h.leased d other hmem
          exact htakes.same _ (hname ▸ hk)
      subst hsame
      exact ⟨_, htakes.self⟩
    · rcases List.mem_cons.mp hmem with heq | hmem
      · exact absurd (congrArg (fun p => p.2.decl.name) heq) hname
      · obtain ⟨k, hk⟩ := h.leased d other hmem
        exact ⟨k, (htakes.other _ hname).trans hk⟩
  · intro name lease hlease
    by_cases hname : name = object.decl.name
    · subst hname
      rw [htakes.self] at hlease
      cases hlease
      -- before, there were as many holdings as leases, also if there was none
      have hbefore : heldCount held object = t.count object.decl.name := by
        cases hget : t.get? object.decl.name with
        | none =>
            rw [LeaseTable.count_eq_zero_of_get? hget, heldCount, List.countP_eq_zero]
            rintro ⟨d, other⟩ hmem hother
            have hsame : other = object := by simpa using hother
            obtain ⟨k, hk⟩ := h.leased d other hmem
            rw [hsame, hget] at hk
            cases hk
        | some before =>
            rw [LeaseTable.count_eq_of_get? hget, ← h.counted _ before hget,
              htakes.same before hget]
      show heldCount ((c, object) :: held) object = t.count object.decl.name + 1
      rw [← hbefore]
      simp [heldCount]
    · have hget : t.get? name = some lease := (htakes.other name hname) ▸ hlease
      have hne : object ≠ lease.object := by
        intro heq
        exact hname (by rw [heq, hnamed name lease hget])
      rw [← h.counted name lease hget]
      simp [heldCount, hne]

/-- Giving a held class back takes one holding and one lease away. -/
theorem Tracks.drop {held : List (κ × Loaded)} {t u : LeaseTable} {c : κ} {object : Loaded}
    (h : Tracks held t) (hnamed : t.Named) (hmem : (c, object) ∈ held) (hdrops : t.Drops object u) :
    Tracks (held.erase (c, object)) u := by
  obtain ⟨k, hk⟩ := h.leased c object hmem
  have hheld : heldCount held object = k := h.counted _ _ hk
  have hleft : heldCount (held.erase (c, object)) object = k - 1 := by
    rw [← hheld, heldCount, heldCount, List.countP_erase]
    simp [hmem]
  have hafter : u.get? object.decl.name = if k > 1 then some ⟨object, k - 1⟩ else none := by
    obtain ⟨before, hbefore, -, hafter⟩ := hdrops.self
    rw [hk] at hbefore
    cases hbefore
    exact hafter
  refine ⟨?_, ?_⟩
  · intro d other hother
    obtain ⟨k', hk'⟩ := h.leased d other (List.mem_of_mem_erase hother)
    by_cases hname : other.decl.name = object.decl.name
    · rw [hname, hk] at hk'
      cases hk'
      -- the object is still held, so its lease was not the last one
      have hpos : 0 < heldCount (held.erase (c, object)) object :=
        List.countP_pos_iff.mpr ⟨(d, object), hother, by simp⟩
      have hmany : k > 1 := by omega
      exact ⟨k - 1, hafter.trans (if_pos hmany)⟩
    · exact ⟨k', (hdrops.other _ hname).trans hk'⟩
  · intro name lease hlease
    by_cases hname : name = object.decl.name
    · subst hname
      rw [hafter] at hlease
      split at hlease
      · cases hlease
        exact hleft
      · cases hlease
    · have hget : t.get? name = some lease := (hdrops.other name hname) ▸ hlease
      have hne : object ≠ lease.object := by
        intro heq
        exact hname (by rw [heq, hnamed name lease hget])
      rw [← h.counted name lease hget, heldCount, heldCount, List.countP_erase]
      simp [hne]

/-- A release of what is held is granted. -/
theorem Tracks.granted {held : List (κ × Loaded)} {w w' : World κ} {c : κ} {object : Loaded}
    {granted : Bool} (h : Tracks held w.table) (hmem : (c, object) ∈ held)
    (hstep : Step w (.released c object granted) w') : granted = true := by
  obtain ⟨k, hk⟩ := h.leased c object hmem
  cases hstep with
  | release => exact LeaseTable.release_of_get? hk

/-- What an event does to the table, it does to the holdings. -/
theorem Tracks.effect {es : List (Event κ)} {e : Event κ} {t u : LeaseTable}
    (h : Tracks (holdings es) t) (hnamed : t.Named)
    (hacquired : ∀ c name object, e = .acquired c name object → object.decl.name = name)
    (hreleased : ∀ c object, e = .released c object true → (c, object) ∈ holdings es)
    (heffect : Effect t e u) : Tracks (holdings (e :: es)) u := by
  cases heffect with
  | keep hquiet =>
      rw [holdings_of_quiet hquiet]
      exact h
  | take htakes =>
      have hname := hacquired _ _ _ rfl
      subst hname
      exact h.take hnamed htakes
  | drop hdrops => exact h.drop hnamed (hreleased _ _ rfl) hdrops

/-- **Disciplined clients and the table agree.** -/
theorem Run.tracks {es : List (Event κ)} {w : World κ} (h : Run es w)
    (hdisciplined : Disciplined es) : Tracks (holdings es) w.table := by
  induction h with
  | start =>
      refine ⟨?_, ?_⟩
      · intro c object hmem
        cases hmem
      · intro name lease hlease
        cases hlease
  | step hrun hstep ih =>
      -- the table at each moment goes by the declared names, whatever the clients do
      refine (ih hdisciplined.tail).effect hrun.named.table ?_ ?_ hstep.effect
      · rintro c name object rfl
        exact hrun.named.acquired hstep
      · rintro c object rfl
        exact hdisciplined.1

theorem Run.granted {es : List (Event κ)} {w : World κ} (h : Run es w)
    (hdisciplined : Disciplined es) :
    ∀ c object granted, Event.released c object granted ∈ es → granted = true := by
  induction h with
  | start =>
      intro c object granted hmem
      cases hmem
  | step hrun hstep ih =>
      intro c object granted hmem
      rcases List.mem_cons.mp hmem with rfl | hmem
      · exact (hrun.tracks hdisciplined.tail).granted hdisciplined.1 hstep
      · exact ih hdisciplined.tail c object granted hmem

/-- Nothing is leased once nothing is held. -/
theorem Run.size_eq_zero {es : List (Event κ)} {w : World κ} (h : Run es w)
    (hdisciplined : Disciplined es) (hheld : holdings es = []) : w.table.size = 0 := by
  apply LeaseTable.size_eq_zero
  intro name
  cases hget : w.table.get? name with
  | none => rfl
  | some lease =>
      -- a lease that is kept is counted, and so it is held
      have hcount := (h.tracks hdisciplined).counted name lease hget
      have hpos := h.balanced.positive name lease hget
      rw [hheld] at hcount
      simp only [heldCount, List.countP_nil] at hcount
      omega

/-! ## Failed takings

A failed taking consists of a missed first section and a failed load. Neither touches the table,
and nobody else looks at the client's phase, so the run without the two is a run to the same
world. -/

/-- The event is a step of the client's own taking. -/
def Event.moves (client : κ) : Event κ → Bool
  | .acquired c _ _ | .missed c _ | .loaded c _ _ | .failed c _ => c = client
  | .released _ _ _ => false

/-- The world in which a client has not begun. -/
def World.reset (w : World κ) (client : κ) : World κ :=
  ⟨w.table, Function.update w.phase client .idle⟩

theorem World.reset_phase (w : World κ) {c client : κ} (h : c ≠ client) :
    (w.reset client).phase c = w.phase c :=
  Function.update_of_ne h _ _

theorem World.update_reset (w : World κ) {c client : κ} (h : c ≠ client) (t : LeaseTable)
    (phase : Phase) :
    (⟨t, Function.update (w.reset client).phase c phase⟩ : World κ)
      = (⟨t, Function.update w.phase c phase⟩ : World κ).reset client := by
  simp only [World.reset, Function.update_comm h]

/-- A step of another client goes the same way if a client has not begun. -/
theorem Step.reset {w w' : World κ} {e : Event κ} {client : κ} (h : Step w e w')
    (hmoves : e.moves client = false) :
    Step (w.reset client) e (w'.reset client) ∧ w'.phase client = w.phase client := by
  cases h with
  | @join c name object t hphase hbump =>
      have hne : c ≠ client := by simpa [Event.moves] using hmoves
      exact ⟨.join ((w.reset_phase hne).trans hphase) hbump, rfl⟩
  | @miss c name hphase hbump =>
      have hne : c ≠ client := by simpa [Event.moves] using hmoves
      rw [← w.update_reset hne]
      exact ⟨.miss ((w.reset_phase hne).trans hphase) hbump, Function.update_of_ne hne.symm _ _⟩
  | @load c name object hphase hname =>
      have hne : c ≠ client := by simpa [Event.moves] using hmoves
      rw [← w.update_reset hne]
      exact ⟨.load ((w.reset_phase hne).trans hphase) hname, Function.update_of_ne hne.symm _ _⟩
  | @fail c name hphase =>
      have hne : c ≠ client := by simpa [Event.moves] using hmoves
      rw [← w.update_reset hne]
      exact ⟨.fail ((w.reset_phase hne).trans hphase), Function.update_of_ne hne.symm _ _⟩
  | @commit c name object hphase =>
      have hne : c ≠ client := by simpa [Event.moves] using hmoves
      rw [← w.update_reset hne]
      exact ⟨.commit ((w.reset_phase hne).trans hphase), Function.update_of_ne hne.symm _ _⟩
  | release => exact ⟨.release, rfl⟩

/-- While a load is under way, the others run as if its client had not begun. -/
theorem Run.reset_of_missed {c : κ} {name : String} {before : List (Event κ)} :
    ∀ (during : List (Event κ)) {w : World κ}, (∀ e ∈ during, e.moves c = false) →
      Run (during ++ .missed c name :: before) w →
        Run (during ++ before) (w.reset c) ∧ w.phase c = .loading name
  | [], w, _, hrun => by
      cases hrun with
      | @step _ _ w₀ _ hrun hstep =>
          cases hstep with
          | miss hphase _ =>
              refine ⟨?_, Function.update_self ..⟩
              -- the client was idle before, so taking its first section back changes nothing
              have hback : (⟨w₀.table, Function.update w₀.phase c (.loading name)⟩ :
                  World κ).reset c = w₀ := by
                simp only [World.reset, Function.update_idem]
                rw [← hphase, Function.update_eq_self]
              rw [hback]
              exact hrun
  | e :: during, w, hmoves, hrun => by
      cases hrun with
      | step hrun hstep =>
          obtain ⟨hmoves, hrest⟩ := List.forall_mem_cons.mp hmoves
          obtain ⟨hreset, hphase⟩ := reset_of_missed during hrest hrun
          obtain ⟨hstep', hphase'⟩ := hstep.reset hmoves
          exact ⟨.step hreset hstep', hphase'.trans hphase⟩

/-- **A failed taking leaves no trace.** -/
theorem Run.erase_failed {c : κ} {name : String} {before during : List (Event κ)} {w : World κ}
    (h : Run (.failed c name :: during ++ .missed c name :: before) w)
    (hmoves : ∀ e ∈ during, e.moves c = false) : Run (during ++ before) w := by
  cases h with
  | step hrun hstep =>
      obtain ⟨hreset, -⟩ := reset_of_missed during hmoves hrun
      cases hstep with
      | fail _ => exact hreset

/-! ## Any interleaving -/

/-- **Lease accounting under any interleaving.** In every state of every run:

* the count of each name is the number of takings of it that returned less the number of granted
  releases of classes of that name, and no name is kept without a lease; what is taken under a name
  declares that name;
* a failed load changes no entry, and the run without the failed taking leads to the same state;
* if clients release only what they hold, then whoever holds a class holds the object of the table,
  every release was granted, and once nothing is held the table is empty. -/
theorem Run.accounts {es : List (Event κ)} {w : World κ} (h : Run es w) :
    ((∀ name, w.table.count name + es.countP (Event.releases name) =
          es.countP (Event.acquires name))
        ∧ (∀ name lease, w.table.get? name = some lease → lease.count ≠ 0)
        ∧ ∀ c name object, Event.acquired c name object ∈ es → object.decl.name = name)
      ∧ ((∀ c name w', Step w (.failed c name) w' → w'.table = w.table)
        ∧ ∀ c name during before, es = .failed c name :: during ++ .missed c name :: before →
          (∀ e ∈ during, e.moves c = false) → Run (during ++ before) w)
      ∧ (Disciplined es →
        (∀ c object, (c, object) ∈ holdings es →
            ∃ k, w.table.get? object.decl.name = some ⟨object, k⟩)
          ∧ (∀ c object granted, Event.released c object granted ∈ es → granted = true)
          ∧ (holdings es = [] → w.table.size = 0)) := by
  refine ⟨⟨h.balanced.count_add, ?_, h.name_of_acquired⟩, ⟨?_, ?_⟩, ?_⟩
  · intro name lease hlease
    exact Nat.ne_of_gt (h.balanced.positive name lease hlease)
  · intro c name w' hstep
    cases hstep with
    | fail _ => rfl
  · rintro c name during before rfl hmoves
    exact h.erase_failed hmoves
  · intro hdisciplined
    exact ⟨(h.tracks hdisciplined).leased, h.granted hdisciplined, h.size_eq_zero hdisciplined⟩

/-- Two clients load one class at the same time, a third fails to load it; the first to finish wins,
and both give its object back. -/
theorem Run.accounts_race :
    let first : Loaded := ⟨1, { name := "A" }⟩
    let second : Loaded := ⟨2, { name := "A" }⟩
    let es : List (Event Nat) :=
      [.released 1 second true, .released 0 second true, .acquired 0 "A" second,
        .acquired 1 "A" second, .failed 2 "A", .loaded 1 "A" second, .loaded 0 "A" first,
        .missed 2 "A", .missed 1 "A", .missed 0 "A"]
    Disciplined es ∧ ∃ w, Run es w ∧ w.table.count "A" + 2 = 2 ∧ w.table.size = 0 := by
  intro first second es
  have hrun : ∃ w, Run es w :=
    ⟨_, .step (.step (.step (.step (.step (.step (.step (.step (.step (.step .start
      (.miss rfl rfl)) (.miss rfl rfl)) (.miss rfl rfl)) (.load rfl rfl)) (.load rfl rfl))
      (.fail rfl)) (.commit rfl)) (.commit rfl)) .release) .release⟩
  obtain ⟨w, hw⟩ := hrun
  have hdisciplined : Disciplined es := by decide
  obtain ⟨⟨hcount, -⟩, -, hheld⟩ := Run.accounts hw
  exact ⟨hdisciplined, w, hw, hcount "A", (hheld hdisciplined).2.2 (by decide)⟩

end Interleaving

end JvmDeps
