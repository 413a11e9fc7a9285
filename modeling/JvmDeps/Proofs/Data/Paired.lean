import JvmDeps.Proofs.Data.Outcome
import Mathlib.Data.List.Forall2

set_option autoImplicit false

/-! # Lists related member by member

Lists of one length whose members are related one by one (`List.Forall₂`), and the steps of a
computation that are taken for each member of a list (`mapM_eq_ok_iff`).
-/

namespace JvmDeps

variable {ε α β γ : Type} {R S : α → β → Prop} {as : List α} {bs : List β}

/-- A relation that has a value for every member of a list has a list of values for it. -/
theorem exists_forall₂ (h : ∀ a ∈ as, ∃ b, R a b) : ∃ bs, List.Forall₂ R as bs := by
  induction as with
  | nil => exact ⟨[], .nil⟩
  | cons a as ih =>
      obtain ⟨⟨b, hb⟩, has⟩ := List.forall_mem_cons.mp h
      obtain ⟨bs, hbs⟩ := ih has
      exact ⟨b :: bs, .cons hb hbs⟩

/-- Every value on the right belongs to a member on the left. -/
theorem exists_left_of_forall₂ (h : List.Forall₂ R as bs) {b : β} (hb : b ∈ bs) :
    ∃ a ∈ as, R a b := by
  induction h with
  | nil => cases hb
  | cons hab _ ih => grind

/-- Every member on the left has a value on the right. -/
theorem exists_right_of_forall₂ (h : List.Forall₂ R as bs) {a : α} (ha : a ∈ as) :
    ∃ b ∈ bs, R a b :=
  exists_left_of_forall₂ h.flip ha

/-- A relation can be replaced by another that follows from it among the values. -/
theorem forall₂_imp_of_mem (h : List.Forall₂ R as bs) (himp : ∀ a, ∀ b ∈ bs, R a b → S a b) :
    List.Forall₂ S as bs := by
  induction h with
  | nil => exact .nil
  | cons hab _ ih =>
      exact .cons (himp _ _ (by simp) hab) (ih fun a b hb => himp a b (List.mem_cons_of_mem _ hb))

/-- Two lists of values for one list are one of pairs. -/
theorem forall₂_zip {T : α → γ → Prop} {cs : List γ} (hb : List.Forall₂ R as bs)
    (hc : List.Forall₂ T as cs) :
    List.Forall₂ (fun a bc => R a bc.1 ∧ T a bc.2) as (bs.zip cs) := by
  induction hb generalizing cs with
  | nil => exact .nil
  | cons hab _ ih =>
      obtain ⟨c, cs, hac, hcs, rfl⟩ := List.forall₂_cons_left_iff.mp hc
      exact .cons ⟨hab, hac⟩ (ih hcs)

theorem mapM_eq_ok_iff {f : α → Except ε β} :
    as.mapM f = .ok bs ↔ List.Forall₂ (fun a b => f a = .ok b) as bs := by
  induction as generalizing bs with
  | nil =>
      rw [List.mapM_nil, pure_eq_ok_iff, List.forall₂_nil_left_iff]
      exact eq_comm
  | cons a as ih =>
      rw [List.mapM_cons, List.forall₂_cons_left_iff]
      simp only [bind_eq_ok_iff, pure_eq_ok_iff, ih]
      constructor
      · rintro ⟨b, hb, bs, hbs, rfl⟩
        exact ⟨b, bs, hb, hbs, rfl⟩
      · rintro ⟨b, bs, hb, hbs, rfl⟩
        exact ⟨b, hb, bs, hbs, rfl⟩

end JvmDeps
