import JvmDeps.Lease.Script
import JvmDeps.Proofs.Lease.Freshness

set_option autoImplicit false

/-! # Scripts are interleavings

`Lease.runAll` runs the steps of a script one after the other, and the steps that happen during a
load inside of it. Such a run is one of the interleaved runs of `Interleaving.Run`: the steps at
nesting depth `d` are those of client `d` (`runAll_leads`). So what holds of every interleaving
holds of every script, for instance that a stale release does nothing
(`release_runAll_of_removed`).

A script is faithful if its loads give classes of the names they are asked for. Loads from a
repository are: `Repository.load` checks the declared name (`Repository.name_of_load`).
-/

namespace JvmDeps

namespace Lease

open Interleaving

mutual

/-- Every load of the step that succeeds gives a class of the name it is for. -/
def Step.Faithful : Step → Prop
  | .acquire name loaded during fails =>
    (fails = none → loaded.decl.name = name) ∧ AllFaithful during
  | .release _ => True
  | .isLeased _ => True

/-- Every load of the steps that succeeds gives a class of the name it is for. -/
def AllFaithful : List Step → Prop
  | [] => True
  | step :: steps => step.Faithful ∧ AllFaithful steps

end

mutual

/-- The identities of the objects that the loads of a step give, the latest first. -/
def Step.loads : Step → List Nat
  | .acquire _ loaded during fails =>
    (if fails.isSome then [] else [loaded.id]) ++ allLoads during
  | .release _ => []
  | .isLeased _ => []

/-- The identities of the objects that the loads of some steps give, the latest first. -/
def allLoads : List Step → List Nat
  | [] => []
  | step :: steps => allLoads steps ++ step.loads

end

/-- A run leads to a world with this table, in which every client is where it was, and loads nothing
but the objects of these identities. -/
def Leads (w : World Nat) (loads : List Nat) (t : LeaseTable) : Prop :=
  ∃ es, Steps w es ⟨t, w.phase⟩ ∧ (loadedIds es).Sublist loads

/-- A taking that has missed, loads, and ends with its client idle again. -/
theorem leads_of_missed {w : World Nat} {d : Nat} {name : String} {loaded : Loaded}
    {fails : Option Fault} {loads : List Nat} {t : LeaseTable} (hidle : w.phase d = .idle)
    (hbump : w.table.bump name = none) (hname : fails = none → loaded.decl.name = name)
    (hduring : Leads ⟨w.table, Function.update w.phase d (.loading name)⟩ loads t) :
    Leads w ((if fails.isSome then [] else [loaded.id]) ++ loads)
      (if fails.isSome then t else (t.commit name loaded).2) := by
  obtain ⟨es, hsteps, hloads⟩ := hduring
  have hmissed := (Steps.single (.miss hidle hbump)).trans hsteps
  have hback (phase : Phase) :
      Function.update (Function.update w.phase d phase) d .idle = w.phase := by
    rw [Function.update_idem, ← hidle, Function.update_eq_self]
  have hids : (loadedIds (es ++ [.missed d name])).Sublist loads := by
    rw [loadedIds_append]
    exact (List.append_nil _).symm ▸ hloads
  cases fails with
  | some fault =>
      have hfail := hmissed.step (.fail (Function.update_self ..))
      rw [hback] at hfail
      exact ⟨_, hfail, hids⟩
  | none =>
      have hload := hmissed.step (.load (Function.update_self ..) (hname rfl))
      have hcommit := hload.step (.commit (Function.update_self ..))
      rw [Function.update_idem, hback] at hcommit
      exact ⟨_, hcommit, hids.cons_cons loaded.id⟩

theorem Leads.trans {w : World Nat} {loads loads' : List Nat} {t u : LeaseTable}
    (h : Leads w loads t) (h' : Leads ⟨t, w.phase⟩ loads' u) : Leads w (loads' ++ loads) u := by
  obtain ⟨es, hsteps, hloads⟩ := h
  obtain ⟨es', hsteps', hloads'⟩ := h'
  refine ⟨es' ++ es, hsteps.trans hsteps', ?_⟩
  rw [loadedIds_append]
  exact hloads'.append hloads

mutual

/-- A step of a script is a run of the clients that are idle. -/
theorem Step.run_leads {w : World Nat} (d : Nat) (hidle : ∀ c, d ≤ c → w.phase c = .idle) :
    ∀ step : Step, step.Faithful → Leads w step.loads (step.run w.table).2
  | .release object, _ => ⟨[.released d object _], .single .release, .slnil⟩
  | .isLeased name, _ => ⟨[], .refl, .slnil⟩
  | .acquire name loaded during fails, hfaithful => by
      obtain ⟨hname, hduring⟩ := hfaithful
      have hown := hidle d (Nat.le_refl d)
      rw [Step.run, Step.loads]
      cases hbump : w.table.bump name with
      | some taken =>
          obtain ⟨object, t⟩ := taken
          exact ⟨[.acquired d name object], .single (.join hown hbump), List.nil_sublist _⟩
      | none =>
          -- the steps during the load are those of the clients above `d`
          have habove : ∀ c, d + 1 ≤ c →
              Function.update w.phase d (.loading name) c = .idle := by
            intro c hc
            rw [Function.update_of_ne (by omega)]
            exact hidle c (by omega)
          have hinside := @runAll_leads ⟨w.table, Function.update w.phase d (.loading name)⟩
            (d + 1) habove during hduring
          have hleads := leads_of_missed hown hbump hname hinside
          cases fails <;> simpa using hleads

/-- **A script is an interleaving.** -/
theorem runAll_leads {w : World Nat} (d : Nat) (hidle : ∀ c, d ≤ c → w.phase c = .idle) :
    ∀ steps : List Step, AllFaithful steps → Leads w (allLoads steps) (runAll w.table steps).2
  | [], _ => ⟨[], .refl, .slnil⟩
  | step :: steps, hfaithful => by
      have hstep := Step.run_leads d hidle step hfaithful.1
      exact hstep.trans (@runAll_leads ⟨(step.run w.table).2, w.phase⟩ d hidle steps hfaithful.2)

end

/-- **In a script whose loads give new objects, a stale release does nothing.** Take any steps,
after which a name is leased, then any steps, after which the name has no lease of that object any
more, and then any others. A release of the object is refused and changes nothing. -/
theorem release_runAll_of_removed {steps between after : List Step} (hsteps : AllFaithful steps)
    (hbetween : AllFaithful between) (hafter : AllFaithful after)
    (hfresh : (allLoads after ++ (allLoads between ++ allLoads steps)).Nodup) {name : String}
    {lease : Lease} (hlease : (runAll .empty steps).2.get? name = some lease)
    (hremoved : ∀ left, (runAll (runAll .empty steps).2 between).2.get? name = some left →
      left.object.id ≠ lease.object.id) {object : Loaded} (hid : object.id = lease.object.id) :
    let t := (runAll (runAll (runAll .empty steps).2 between).2 after).2
    t.release object = (false, t) := by
  have hidle : ∀ c, 0 ≤ c → (World.start Nat).phase c = .idle := fun _ _ => rfl
  obtain ⟨es, hrun, hloads⟩ := runAll_leads 0 hidle steps hsteps
  obtain ⟨es₁, hrun₁, hloads₁⟩ :=
    @runAll_leads ⟨(runAll .empty steps).2, (World.start Nat).phase⟩ 0 hidle between hbetween
  obtain ⟨es₂, hrun₂, hloads₂⟩ :=
    @runAll_leads ⟨(runAll (runAll .empty steps).2 between).2, (World.start Nat).phase⟩ 0 hidle
      after hafter
  have hstart : Run (es ++ []) _ := Run.start.append hrun
  rw [List.append_nil] at hstart
  have hnew : FreshLoads (es₂ ++ (es₁ ++ es)) := by
    rw [FreshLoads, loadedIds_append, loadedIds_append]
    exact hfresh.sublist (hloads₂.append (hloads₁.append hloads))
  exact (hstart.refused_of_removed hlease hrun₁ hremoved hrun₂ hnew).next object hid

/-- A class is given back, and leased again inside of the load of another: the old object is
refused. -/
example :
    let old : Loaded := ⟨1, { name := "A" }⟩
    let t := (runAll .empty [.acquire "A" old [] none, .release old,
      .acquire "B" ⟨2, { name := "B" }⟩ [.acquire "A" ⟨3, { name := "A" }⟩ [] none] none]).2
    t.isLeased "A" = true ∧ (t.release old).1 = false := by
  decide

end Lease

end JvmDeps
