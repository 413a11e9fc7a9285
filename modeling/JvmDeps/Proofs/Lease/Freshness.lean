import JvmDeps.Proofs.Lease.Restoring

set_option autoImplicit false

/-! # Stale objects

An object that nobody leases any more may still be in the hands of clients, who may give it back as
often as they like, also after a new object of the same name was leased. If every load gives a new
object (`FreshLoads`), such a release does nothing.

An object stands in at most one `Site`: under a name in the table, or with the client that has
loaded it and is on its way there (`Sited`). A step brings an object to a site only from its load or
from the client that commits it (`Step.stands_cases`). So an object that has left the table stands
nowhere, and as it is not loaded again, it never stands anywhere again (`Steps.gone`). The same
holds of an object that lost the race for its name.

A taking that is made while the load of another one is under way is that of a further client, so
nested takings are among the interleaved ones. `Lease.release_runAll_of_removed` says it of scripts,
in which the nesting shows.
-/

namespace JvmDeps

namespace Interleaving

variable {κ : Type} [DecidableEq κ]

/-! ## Runs that go on -/

/-- A run from one world to another, with its events; the latest event comes first. -/
inductive Steps : World κ → List (Event κ) → World κ → Prop
  | refl {w : World κ} : Steps w [] w
  | step {w w₁ w₂ : World κ} {es : List (Event κ)} {e : Event κ}
      (hsteps : Steps w es w₁) (hstep : Step w₁ e w₂) : Steps w (e :: es) w₂

theorem Steps.single {w w₁ : World κ} {e : Event κ} (h : Step w e w₁) : Steps w [e] w₁ :=
  .step .refl h

theorem Steps.trans {w w₁ w₂ : World κ} {es es' : List (Event κ)} (h : Steps w es w₁)
    (h' : Steps w₁ es' w₂) : Steps w (es' ++ es) w₂ := by
  induction h' with
  | refl => exact h
  | step _ hstep ih => exact .step ih hstep

theorem Run.append {w w₁ : World κ} {es later : List (Event κ)} (h : Run es w)
    (hlater : Steps w later w₁) : Run (later ++ es) w₁ := by
  induction hlater with
  | refl => exact h
  | step _ hstep ih => exact .step ih hstep

/-! ## New objects -/

/-- The identity of the object that an event has loaded. -/
def Event.loadedId? : Event κ → Option Nat
  | .loaded _ _ object => some object.id
  | _ => none

/-- The identities of the objects that were loaded, the latest first. -/
def loadedIds (es : List (Event κ)) : List Nat := es.filterMap Event.loadedId?

/-- Every load has given an object that none has given before. -/
def FreshLoads (es : List (Event κ)) : Prop := (loadedIds es).Nodup

instance FreshLoads.decidable (es : List (Event κ)) : Decidable (FreshLoads es) :=
  inferInstanceAs (Decidable (loadedIds es).Nodup)

omit [DecidableEq κ] in
theorem loadedIds_append (es es' : List (Event κ)) :
    loadedIds (es ++ es') = loadedIds es ++ loadedIds es' :=
  List.filterMap_append

omit [DecidableEq κ] in
theorem mem_loadedIds {es : List (Event κ)} {c : κ} {name : String} {object : Loaded}
    (h : Event.loaded c name object ∈ es) : object.id ∈ loadedIds es :=
  List.mem_filterMap.mpr ⟨_, h, rfl⟩

omit [DecidableEq κ] in
theorem loadedIds_subset_cons (e : Event κ) (es : List (Event κ)) :
    loadedIds es ⊆ loadedIds (e :: es) :=
  (List.Sublist.filterMap _ (List.sublist_cons_self e es)).subset

omit [DecidableEq κ] in
theorem FreshLoads.tail {e : Event κ} {es : List (Event κ)} (h : FreshLoads (e :: es)) :
    FreshLoads es :=
  h.sublist (List.Sublist.filterMap _ (List.sublist_cons_self e es))

omit [DecidableEq κ] in
theorem FreshLoads.of_append {later es : List (Event κ)} (h : FreshLoads (later ++ es)) :
    FreshLoads es :=
  h.sublist (List.Sublist.filterMap _ (List.sublist_append_right later es))

omit [DecidableEq κ] in
/-- What was loaded is not loaded again. -/
theorem FreshLoads.not_mem {later es : List (Event κ)} (h : FreshLoads (later ++ es)) {id : Nat}
    (hid : id ∈ loadedIds es) : id ∉ loadedIds later := by
  intro hlater
  rw [FreshLoads, loadedIds_append] at h
  exact (List.nodup_append.mp h).2.2 id hlater id hid rfl

/-! ## Where an object stands -/

/-- Where an object can stand: under a name in the table, or with a client that has loaded it. -/
inductive Site (κ : Type) where
  | leased (name : String)
  | pending (client : κ)

/-- An object with the identity stands at the site. -/
def World.Stands (w : World κ) (id : Nat) : Site κ → Prop
  | .leased name => ∃ lease, w.table.get? name = some lease ∧ lease.object.id = id
  | .pending c => ∃ name object, w.phase c = .loaded name object ∧ object.id = id

/-- No object with the identity stands anywhere. -/
def World.Gone (w : World κ) (id : Nat) : Prop := ∀ site, ¬ w.Stands id site

/-- A phase that a step sets is that of one client, and the others have loaded what they had. -/
theorem stands_pending_update {w : World κ} {t : LeaseTable} {c d : κ} {phase : Phase} {id : Nat}
    (h : (⟨t, Function.update w.phase c phase⟩ : World κ).Stands id (.pending d)) :
    (d = c ∧ ∃ name object, phase = .loaded name object ∧ object.id = id) ∨
      w.Stands id (.pending d) := by
  obtain ⟨name, object, hphase, hid⟩ := h
  by_cases hd : d = c
  · rw [hd] at hphase
    exact Or.inl ⟨hd, name, object, (Function.update_self c phase w.phase).symm.trans hphase, hid⟩
  · exact Or.inr ⟨name, object, (Function.update_of_ne hd phase w.phase).symm.trans hphase, hid⟩

/-- **How an object comes to a site**: it was there, it has just been loaded, or the client that had
loaded it has committed it. -/
theorem Step.stands_cases {w w' : World κ} {e : Event κ} {id : Nat} {site : Site κ}
    (h : Step w e w') (hstands : w'.Stands id site) :
    w.Stands id site ∨
      (∃ c name object, e = .loaded c name object ∧ object.id = id ∧ site = .pending c) ∨
      ∃ c name object, e = .acquired c name object ∧ w.Stands id (.pending c) ∧
        ¬ w'.Stands id (.pending c) ∧ site = .leased name := by
  cases site with
  | leased n =>
      obtain ⟨lease, hlease, hid⟩ := hstands
      cases h with
      | @join c name object t _ hbump =>
          obtain ⟨before, hbefore, hobject, -⟩ := LeaseTable.get?_of_bump hbump name
          rcases (LeaseTable.bump_takes hbump).cases_get? hlease with ⟨rfl, hsame⟩ | hold
          · exact Or.inl ⟨before, hbefore, by rw [hobject, ← hsame, hid]⟩
          · exact Or.inl ⟨lease, hold, hid⟩
      | miss _ _ => exact Or.inl ⟨lease, hlease, hid⟩
      | load _ _ => exact Or.inl ⟨lease, hlease, hid⟩
      | fail _ => exact Or.inl ⟨lease, hlease, hid⟩
      | @commit c name object hphase =>
          rcases (w.table.commit_takes name object).cases_get? hlease with ⟨rfl, hsame⟩ | hold
          · rcases w.table.commit_object n object with ⟨before, hbefore, hobject⟩ | hobject
            · exact Or.inl ⟨before, hbefore, by rw [← hobject, ← hsame, hid]⟩
            · -- nobody was faster, so the object goes from its client to the table
              refine Or.inr (Or.inr ⟨c, n, _, rfl, ⟨n, object, hphase, ?_⟩, ?_, rfl⟩)
              · rw [← hobject, ← hsame, hid]
              · rintro ⟨_, _, hidle, -⟩
                cases (Function.update_self c Phase.idle w.phase).symm.trans hidle
          · exact Or.inl ⟨lease, hold, hid⟩
      | release =>
          obtain ⟨before, hbefore, hsame⟩ := LeaseTable.exists_of_get?_release hlease
          exact Or.inl ⟨before, hbefore, by rw [hsame, hid]⟩
  | pending d =>
      cases h with
      | join _ _ => exact Or.inl hstands
      | release => exact Or.inl hstands
      | miss _ _ =>
          rcases stands_pending_update hstands with ⟨-, _, _, hphase, -⟩ | hold
          · cases hphase
          · exact Or.inl hold
      | fail _ =>
          rcases stands_pending_update hstands with ⟨-, _, _, hphase, -⟩ | hold
          · cases hphase
          · exact Or.inl hold
      | commit _ =>
          rcases stands_pending_update hstands with ⟨-, _, _, hphase, -⟩ | hold
          · cases hphase
          · exact Or.inl hold
      | @load c name object _ _ =>
          rcases stands_pending_update hstands with ⟨rfl, _, _, hphase, hid⟩ | hold
          · cases hphase
            exact Or.inr (Or.inl ⟨d, name, object, rfl, hid, rfl⟩)
          · exact Or.inl hold

/-! ## One site for each object -/

/-- Whatever stands somewhere was loaded, and stands nowhere else. -/
structure Sited (es : List (Event κ)) (w : World κ) : Prop where
  loaded : ∀ id site, w.Stands id site → id ∈ loadedIds es
  unique : ∀ id site site', w.Stands id site → w.Stands id site' → site = site'

theorem Sited.step {es : List (Event κ)} {e : Event κ} {w w' : World κ} (h : Sited es w)
    (hfresh : FreshLoads (e :: es)) (hstep : Step w e w') : Sited (e :: es) w' := by
  have hsubset := loadedIds_subset_cons e es
  -- what is loaded now stood nowhere before
  have hnew : ∀ c name object site, e = .loaded c name object → ¬ w.Stands object.id site := by
    rintro c name object site rfl hstands
    exact (List.nodup_cons.mp hfresh).1 (h.loaded _ site hstands)
  refine ⟨fun id site hstands => ?_, fun id site site' hsite hsite' => ?_⟩
  · rcases hstep.stands_cases hstands with hold | ⟨c, name, object, rfl, rfl, -⟩ |
      ⟨c, _, _, _, hpending, -⟩
    · exact hsubset (h.loaded id site hold)
    · exact mem_loadedIds List.mem_cons_self
    · exact hsubset (h.loaded id _ hpending)
  · rcases hstep.stands_cases hsite with hold | ⟨c, name, object, he, rfl, rfl⟩ |
      ⟨c, name, object, he, hpending, hleft, rfl⟩
    · rcases hstep.stands_cases hsite' with hold' | ⟨c', name', object', he', rfl, rfl⟩ |
        ⟨c', name', object', he', hpending', hleft', rfl⟩
      · exact h.unique id site site' hold hold'
      · exact absurd hold (hnew c' name' object' site he')
      · exact absurd (h.unique id site _ hold hpending' ▸ hsite) hleft'
    · rcases hstep.stands_cases hsite' with hold' | ⟨c', name', object', he', -, rfl⟩ |
        ⟨c', name', object', he', hpending', -, rfl⟩
      · exact absurd hold' (hnew c name object site' he)
      · rw [he] at he'
        cases he'
        rfl
      · exact absurd hpending' (hnew c name object _ he)
    · rcases hstep.stands_cases hsite' with hold' | ⟨c', name', object', he', rfl, rfl⟩ |
        ⟨c', name', object', he', -, -, rfl⟩
      · exact absurd (h.unique id site' _ hold' hpending ▸ hsite') hleft
      · exact absurd hpending (hnew c' name' object' _ he')
      · rw [he] at he'
        cases he'
        rfl

/-- **Where loads are fresh, every object stands in one place.** -/
theorem Run.sited {es : List (Event κ)} {w : World κ} (h : Run es w) (hfresh : FreshLoads es) :
    Sited es w := by
  induction h with
  | start =>
      have hnowhere : ∀ id site, ¬ (World.start κ).Stands id site := by
        rintro id (name | c)
        · rintro ⟨_, hlease, -⟩
          cases hlease
        · rintro ⟨_, _, hphase, -⟩
          cases hphase
      exact ⟨fun id site hstands => (hnowhere id site hstands).elim,
        fun id site _ hstands => (hnowhere id site hstands).elim⟩
  | step _ hstep ih => exact (ih hfresh.tail).step hfresh hstep

/-! ## Objects that are gone -/

/-- An object that stands nowhere comes back only by a load. -/
theorem Steps.gone {w w' : World κ} {es : List (Event κ)} {id : Nat} (h : Steps w es w')
    (hgone : w.Gone id) (hid : id ∉ loadedIds es) : w'.Gone id := by
  induction h with
  | refl => exact hgone
  | @step w₁ w₂ es e _ hstep ih =>
      have hbefore := ih fun hmem => hid (loadedIds_subset_cons e es hmem)
      intro site hstands
      rcases hstep.stands_cases hstands with hold | ⟨c, name, object, rfl, rfl, -⟩ |
        ⟨c, _, _, -, hpending, -⟩
      · exact hbefore site hold
      · exact hid (mem_loadedIds List.mem_cons_self)
      · exact hbefore _ hpending

/-- An object that stands in the table alone stands there, or nowhere any more. -/
theorem Steps.stands_leased {w w' : World κ} {es : List (Event κ)} {id : Nat} {name : String}
    (h : Steps w es w') (honly : ∀ site, w.Stands id site → site = .leased name)
    (hid : id ∉ loadedIds es) : ∀ site, w'.Stands id site → site = .leased name := by
  induction h with
  | refl => exact honly
  | @step w₁ w₂ es e _ hstep ih =>
      have hbefore := ih fun hmem => hid (loadedIds_subset_cons e es hmem)
      intro site hstands
      rcases hstep.stands_cases hstands with hold | ⟨c, _, object, rfl, rfl, -⟩ |
        ⟨c, _, _, -, hpending, -⟩
      · exact hbefore site hold
      · exact (hid (mem_loadedIds List.mem_cons_self)).elim
      · cases hbefore _ hpending

omit [DecidableEq κ] in
/-- An object that stands nowhere cannot be given back. -/
theorem World.Gone.release {w : World κ} {object : Loaded} (h : w.Gone object.id) :
    w.table.release object = (false, w.table) := by
  unfold LeaseTable.release
  cases hget : w.table.get? object.decl.name with
  | none => rfl
  | some lease =>
      have hid : lease.object.id ≠ object.id := fun hid =>
        h (.leased object.decl.name) ⟨lease, hget, hid⟩
      exact if_pos hid

/-- Every release of the object has been refused, and one more would be, and change nothing. -/
structure Refused (id : Nat) (es : List (Event κ)) (w : World κ) : Prop where
  past : ∀ c object granted, Event.released c object granted ∈ es → object.id = id →
    granted = false
  next : ∀ object, object.id = id → w.table.release object = (false, w.table)

theorem Steps.refused {w w' : World κ} {es : List (Event κ)} {id : Nat} (h : Steps w es w')
    (hgone : w.Gone id) (hid : id ∉ loadedIds es) : Refused id es w' := by
  refine ⟨?_, ?_⟩
  · induction h with
    | refl =>
        intro c object granted hmem
        cases hmem
    | @step w₁ w₂ es e hsteps hstep ih =>
        have hbefore : id ∉ loadedIds es := fun hmem => hid (loadedIds_subset_cons e es hmem)
        intro c object granted hmem hobject
        rcases List.mem_cons.mp hmem with rfl | hmem
        · cases hstep with
          | release =>
              subst hobject
              rw [(hsteps.gone hgone hbefore).release]
        · exact ih hbefore c object granted hmem hobject
  · rintro object rfl
    exact (h.gone hgone hid).release

/-- What was given back had been loaded, and no client has it on its way to the table. -/
theorem Run.loaded_of_released {es : List (Event κ)} {w : World κ} (h : Run es w)
    (hfresh : FreshLoads es) {c : κ} {object : Loaded}
    (hmem : Event.released c object true ∈ es) :
    object.id ∈ loadedIds es ∧ ∀ d, ¬ w.Stands object.id (.pending d) := by
  induction h with
  | start => cases hmem
  | @step es e w w' hrun hstep ih =>
      have hsited := hrun.sited hfresh.tail
      rcases List.mem_cons.mp hmem with rfl | hmem
      · -- the table had the object, so nobody else did
        have hleased : w.Stands object.id (.leased object.decl.name) := by
          generalize hgranted : true = granted at hstep
          cases hstep with
          | release =>
              obtain ⟨lease, hlease, hid, -⟩ := (LeaseTable.release_drops hgranted.symm).self
              exact ⟨lease, hlease, hid⟩
        refine ⟨loadedIds_subset_cons _ es (hsited.loaded _ _ hleased), fun d hpending => ?_⟩
        rcases hstep.stands_cases hpending with hold | ⟨_, _, _, he, -⟩ | ⟨_, _, _, he, -⟩
        · cases hsited.unique _ _ _ hold hleased
        · cases he
        · cases he
      · obtain ⟨hloaded, hnone⟩ := ih hfresh.tail hmem
        refine ⟨loadedIds_subset_cons _ es hloaded, fun d hpending => ?_⟩
        rcases hstep.stands_cases hpending with
          hold | ⟨_, _, _, rfl, hid, -⟩ | ⟨_, _, _, -, -, -, he⟩
        · exact hnone d hold
        · exact (List.nodup_cons.mp hfresh).1 (hid ▸ hloaded)
        · cases he

omit [DecidableEq κ] in
/-- What a client has on its way to the table is not leased. -/
theorem Sited.id_ne_of_pending {es : List (Event κ)} {w : World κ} (h : Sited es w) {c : κ}
    {name n : String} {object : Loaded} {lease : Lease} (hphase : w.phase c = .loaded name object)
    (hlease : w.table.get? n = some lease) : lease.object.id ≠ object.id := by
  intro hid
  have hleased : w.Stands object.id (.leased n) := ⟨lease, hlease, hid⟩
  have hpending : w.Stands object.id (.pending c) := ⟨name, object, hphase, rfl⟩
  cases h.unique _ _ _ hleased hpending

/-- An object that lost the race for its name stands nowhere: another one is leased. -/
theorem Sited.gone_of_lost {es : List (Event κ)} {w w' : World κ} {c : κ} {name : String}
    {object won : Loaded} (h : Sited es w) (hphase : w.phase c = .loaded name object)
    (hlost : w.table.isLeased name = true) (hstep : Step w (.acquired c name won) w') :
    won.id ≠ object.id ∧ w'.Gone object.id := by
  obtain ⟨lease, hlease⟩ := Option.isSome_iff_exists.mp hlost
  have hother := h.id_ne_of_pending hphase hlease
  cases hstep with
  | join hidle _ =>
      rw [hphase] at hidle
      cases hidle
  | @commit _ _ loaded hphase' =>
      have htakes := w.table.commit_takes name loaded
      have hwon : lease.object = (w.table.commit name loaded).1 := htakes.same lease hlease
      refine ⟨hwon ▸ hother, ?_⟩
      rintro (n | d) hstands
      · obtain ⟨after, hafter, hid⟩ := hstands
        rcases htakes.cases_get? hafter with ⟨-, hsame⟩ | hold
        · rw [hsame, ← hwon] at hid
          exact hother hid
        · exact h.id_ne_of_pending hphase hold hid
      · rcases stands_pending_update hstands with ⟨-, _, _, hidle, -⟩ | hold
        · cases hidle
        · -- the client itself has nothing any more
          have hpending : w.Stands object.id (.pending c) := ⟨name, object, hphase, rfl⟩
          obtain rfl : d = c := Site.pending.inj (h.unique _ _ _ hold hpending)
          obtain ⟨_, _, hidle, -⟩ := hstands
          cases (Function.update_self d Phase.idle w.phase).symm.trans hidle

/-! ## Stale releases -/

/-- Once the name of an object has no lease of it any more, no later release of it is granted. -/
theorem Run.refused_of_removed {before between after : List (Event κ)} {w w₁ w₂ : World κ}
    {name : String} {lease : Lease} (hrun : Run before w) (hlease : w.table.get? name = some lease)
    (hbetween : Steps w between w₁)
    (hremoved : ∀ left, w₁.table.get? name = some left → left.object.id ≠ lease.object.id)
    (hafter : Steps w₁ after w₂) (hfresh : FreshLoads (after ++ (between ++ before))) :
    Refused lease.object.id after w₂ := by
  have hsited := hrun.sited hfresh.of_append.of_append
  have hstands : w.Stands lease.object.id (.leased name) := ⟨lease, hlease, rfl⟩
  have hloaded := hsited.loaded _ _ hstands
  -- it stood under its name alone, and there it stands no more
  have honly := hbetween.stands_leased
    (fun site hsite => hsited.unique _ _ _ hsite hstands) (hfresh.of_append.not_mem hloaded)
  have hgone : w₁.Gone lease.object.id := by
    intro site hsite
    obtain rfl := honly site hsite
    obtain ⟨left, hleft, hid⟩ := hsite
    exact hremoved left hleft hid
  refine hafter.refused hgone (hfresh.not_mem ?_)
  rw [loadedIds_append]
  exact List.mem_append_right _ hloaded

/-- An object whose name was leased when it came to be committed is never given back. -/
theorem Run.refused_of_lost {before after : List (Event κ)} {w w₁ w₂ : World κ} {c : κ}
    {name : String} {object won : Loaded} (hrun : Run before w)
    (hphase : w.phase c = .loaded name object) (hlost : w.table.isLeased name = true)
    (hstep : Step w (.acquired c name won) w₁) (hafter : Steps w₁ after w₂)
    (hfresh : FreshLoads (after ++ .acquired c name won :: before)) :
    won.id ≠ object.id ∧ Refused object.id (after ++ .acquired c name won :: before) w₂ := by
  have hsited := hrun.sited hfresh.of_append.tail
  have hpending : w.Stands object.id (.pending c) := ⟨name, object, hphase, rfl⟩
  obtain ⟨hwon, hgone⟩ := hsited.gone_of_lost hphase hlost hstep
  have hloaded : object.id ∈ loadedIds (.acquired c name won :: before) :=
    loadedIds_subset_cons _ _ (hsited.loaded _ _ hpending)
  have hrefused := hafter.refused hgone (hfresh.not_mem hloaded)
  refine ⟨hwon, ?_, hrefused.next⟩
  intro d stale granted hmem hid
  rcases List.mem_append.mp hmem with hmem | hmem
  · exact hrefused.past d stale granted hmem hid
  · rcases List.mem_cons.mp hmem with heq | hmem
    · cases heq
    · -- what had been given back before would not be on its way now
      cases granted with
      | false => rfl
      | true =>
          obtain ⟨-, hnone⟩ := hrun.loaded_of_released hfresh.of_append.tail hmem
          exact (hnone c (hid ▸ hpending)).elim

/-- **A stale release does nothing**, in every run whose loads give new objects:

* once the name of an object has no lease of it any more, every later release of the object is
  refused and changes nothing, whatever is leased under the name meanwhile;
* if an object was loaded and its client then found its name leased, the client is given another
  one, and no release of the object is ever granted, before or after. -/
theorem Run.stale_refused {before : List (Event κ)} {w : World κ} (hrun : Run before w) :
    (∀ (name : String) (lease : Lease) (between after : List (Event κ)) (w₁ w₂ : World κ),
      w.table.get? name = some lease → Steps w between w₁ →
      (∀ left, w₁.table.get? name = some left → left.object.id ≠ lease.object.id) →
      Steps w₁ after w₂ → FreshLoads (after ++ (between ++ before)) →
        Refused lease.object.id after w₂)
    ∧ ∀ (c : κ) (name : String) (object won : Loaded) (after : List (Event κ)) (w₁ w₂ : World κ),
      w.phase c = .loaded name object → w.table.isLeased name = true →
      Step w (.acquired c name won) w₁ → Steps w₁ after w₂ →
      FreshLoads (after ++ .acquired c name won :: before) →
        won.id ≠ object.id ∧ Refused object.id (after ++ .acquired c name won :: before) w₂ := by
  refine ⟨?_, ?_⟩
  · intro name lease between after w₁ w₂ hlease hbetween hremoved hafter hfresh
    exact hrun.refused_of_removed hlease hbetween hremoved hafter hfresh
  · intro c name object won after w₁ w₂ hphase hlost hstep hafter hfresh
    exact hrun.refused_of_lost hphase hlost hstep hafter hfresh

/-- Two clients load one class at the same time, and the first to commit wins. Both give its object
back, and a third client leases the class again. Then the first object is given back once more, and
so is the one that was discarded. -/
theorem Run.stale_refused_again :
    let first : Loaded := ⟨1, { name := "A" }⟩
    let lost : Loaded := ⟨2, { name := "A" }⟩
    let again : Loaded := ⟨3, { name := "A" }⟩
    let before : List (Event Nat) :=
      [.acquired 0 "A" first, .loaded 1 "A" lost, .loaded 0 "A" first, .missed 1 "A", .missed 0 "A"]
    let between : List (Event Nat) := [.released 1 first true, .released 0 first true]
    let after : List (Event Nat) := [.acquired 2 "A" again, .loaded 2 "A" again, .missed 2 "A"]
    ∃ w w₁ w₂ w₃, Run before w ∧ Step w (.acquired 1 "A" first) w₁ ∧ Steps w₁ between w₂ ∧
      Steps w₂ after w₃ ∧ FreshLoads (after ++ (between ++ .acquired 1 "A" first :: before)) ∧
      w₃.table.get? "A" = some ⟨again, 1⟩ ∧
      w₃.table.release first = (false, w₃.table) ∧ w₃.table.release lost = (false, w₃.table) := by
  intro first lost again before between after
  have hrun : ∃ w, Run before w ∧ w.table.get? "A" = some ⟨first, 1⟩ ∧
      w.phase 1 = .loaded "A" lost ∧ ∃ w₁, Step w (.acquired 1 "A" first) w₁ ∧
      ∃ w₂, Steps w₁ between w₂ ∧ w₂.table.get? "A" = none ∧
      ∃ w₃, Steps w₂ after w₃ ∧ w₃.table.get? "A" = some ⟨again, 1⟩ :=
    ⟨_, .step (.step (.step (.step (.step .start (.miss rfl rfl)) (.miss rfl rfl)) (.load rfl rfl))
        (.load rfl rfl)) (.commit rfl), rfl, rfl, _, .commit rfl,
      _, .step (.step .refl .release) .release, rfl,
      _, .step (.step (.step .refl (.miss rfl rfl)) (.load rfl rfl)) (.commit rfl), rfl⟩
  obtain ⟨w, hbefore, hlease, hphase, w₁, hstep, w₂, hbetween, hremoved, w₃, hafter, hagain⟩ := hrun
  have hfresh : FreshLoads (after ++ (between ++ .acquired 1 "A" first :: before)) := by decide
  have hlost : w.table.isLeased "A" = true := by rw [LeaseTable.isLeased, hlease]; rfl
  obtain ⟨hleft, hdiscarded⟩ := Run.stale_refused hbefore
  have hfirst := hleft "A" _ (between ++ [.acquired 1 "A" first]) after w₂ w₃ hlease
    ((Steps.single hstep).trans hbetween) (by simp [hremoved]) hafter hfresh
  have hsecond := hdiscarded 1 "A" lost first (after ++ between) w₁ w₃ hphase hlost hstep
    (hbetween.trans hafter) hfresh
  exact ⟨w, w₁, w₂, w₃, hbefore, hstep, hbetween, hafter, hfresh, hagain, hfirst.next first rfl,
    hsecond.2.next lost rfl⟩

end Interleaving

end JvmDeps
