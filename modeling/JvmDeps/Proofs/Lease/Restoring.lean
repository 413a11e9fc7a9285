import JvmDeps.Proofs.Data.OrderedMap
import JvmDeps.Proofs.Lease.Interleaving

set_option autoImplicit false

/-! # Leases on top of a table

Clients who meet a table with open leases take classes and give them back. `LeaseTable.Above t held
u` says that `u` is the table `t` with the leases of the objects of `held` on top: their counts are
added, no lease of `t` has lost its object, and the names of `t` stand in front, in their order.
Taking a class puts an object on top (`Above.take`), giving it back takes it away again
(`Above.drop`), and with nothing on top the table is `t` itself, entry for entry (`Above.eq_base`).
-/

namespace JvmDeps.LeaseTable

/-! ## What the sections do to the names -/

theorem keys_of_bump {t u : LeaseTable} {name : String} {object : Loaded}
    (h : t.bump name = some (object, u)) : u.leases.keys = t.leases.keys := by
  unfold bump at h
  split at h
  · cases h
  · rename_i lease hlease
    cases h
    exact OrderedMap.keys_insert_of_mem _ (OrderedMap.mem_keys_iff.mpr ⟨lease, hlease⟩)

/-- A taking puts a name that had no lease at the end. -/
theorem keys_commit_prefix (t : LeaseTable) (name : String) (loaded : Loaded) :
    t.leases.keys <+: (t.commit name loaded).2.leases.keys := by
  unfold commit
  cases hbump : t.bump name with
  | some taken =>
      show _ <+: taken.2.leases.keys
      exact keys_of_bump hbump ▸ List.prefix_refl _
  | none =>
      have hnot := OrderedMap.get?_eq_none_iff.mp (get?_eq_none_of_bump hbump)
      show _ <+: (t.leases.insert name ⟨loaded, 1⟩).keys
      rw [OrderedMap.keys_insert_of_not_mem _ hnot]
      exact List.prefix_append _ _

/-- A release keeps the names, or takes out the one whose last lease it was. -/
theorem keys_release {t : LeaseTable} {object : Loaded} {count : Nat}
    (h : t.get? object.decl.name = some ⟨object, count⟩) :
    (t.release object).2.leases.keys =
      if count > 1 then t.leases.keys
      else t.leases.keys.filter fun name => !decide (name = object.decl.name) := by
  unfold release
  simp only [h, ne_eq, not_true_eq_false, if_false]
  split
  · exact OrderedMap.keys_insert_of_mem _ (OrderedMap.mem_keys_iff.mpr ⟨_, h⟩)
  · exact OrderedMap.keys_erase _ _

theorem commit_fst_of_bump {t : LeaseTable} {name : String} (h : t.bump name = none)
    (loaded : Loaded) : (t.commit name loaded).1 = loaded := by
  simp only [commit, h]

/-! ## What the sections do to the leased objects -/

/-- A lease after a taking is of the object that was taken, or it was there before. -/
theorem Takes.cases_get? {t u : LeaseTable} {name n : String} {object : Loaded} {lease : Lease}
    (h : t.Takes name object u) (hlease : u.get? n = some lease) :
    n = name ∧ lease.object = object ∨ t.get? n = some lease := by
  by_cases hn : n = name
  · rw [hn, h.self] at hlease
    cases hlease
    exact Or.inl ⟨hn, rfl⟩
  · exact Or.inr ((h.other n hn).symm.trans hlease)

/-- A lease after a release was there before, with the same object. -/
theorem exists_of_get?_release {t : LeaseTable} {object : Loaded} {n : String} {lease : Lease}
    (h : (t.release object).2.get? n = some lease) :
    ∃ before, t.get? n = some before ∧ before.object = lease.object := by
  cases hgranted : (t.release object).1 with
  | false =>
      rw [release_eq_of_false hgranted] at h
      exact ⟨lease, h, rfl⟩
  | true =>
      have hdrops := release_drops hgranted
      by_cases hn : n = object.decl.name
      · obtain ⟨before, hbefore, -, hafter⟩ := hdrops.self
        rw [hn, hafter] at h
        split at h
        · cases h
          exact ⟨before, hn ▸ hbefore, rfl⟩
        · cases h
      · exact ⟨lease, (hdrops.other n hn).symm.trans h, rfl⟩

/-! ## Tables on top of tables -/

/-- A table as the sections make it: every lease is counted and stands under the name that its class
declares. -/
structure Tidy (t : LeaseTable) : Prop where
  named : t.Named
  positive : t.Positive

theorem Tidy.release {t : LeaseTable} (h : t.Tidy) (object : Loaded) :
    (t.release object).2.Tidy := by
  cases hgranted : (t.release object).1 with
  | false =>
      rw [release_eq_of_false hgranted]
      exact h
  | true =>
      have hdrops := release_drops hgranted
      exact ⟨hdrops.named h.named, hdrops.positive h.positive⟩

/-- The table `u` is the table `t` with a lease on top for every object of `held`. -/
structure Above (t : LeaseTable) (held : List Loaded) (u : LeaseTable) : Prop where
  base : t.Tidy
  tidy : u.Tidy
  count_eq : ∀ name, u.count name = t.count name + held.countP fun o => o.decl.name = name
  kept : ∀ name lease, t.get? name = some lease → ∃ k, u.get? name = some ⟨lease.object, k⟩
  leased : ∀ o ∈ held, ∃ k, u.get? o.decl.name = some ⟨o, k⟩
  order : t.leases.keys <+: u.leases.keys

variable {t u v : LeaseTable} {held rest : List Loaded} {o : Loaded}

theorem Tidy.above (h : t.Tidy) : t.Above [] t where
  base := h
  tidy := h
  count_eq := fun _ => rfl
  kept := fun _ lease hlease => ⟨lease.count, hlease⟩
  leased := fun _ hmem => nomatch hmem
  order := List.prefix_refl _

theorem Above.perm (h : t.Above held u) (hperm : held.Perm rest) : t.Above rest u where
  base := h.base
  tidy := h.tidy
  count_eq := fun name => by rw [h.count_eq name, hperm.countP_eq]
  kept := h.kept
  leased := fun o hmem => h.leased o (hperm.mem_iff.mpr hmem)
  order := h.order

/-- An object that is taken comes on top. -/
theorem Above.take (h : t.Above held u) (htakes : u.Takes o.decl.name o v)
    (horder : u.leases.keys <+: v.leases.keys) : t.Above (o :: held) v where
  base := h.base
  tidy := ⟨htakes.named h.tidy.named rfl, htakes.positive h.tidy.positive⟩
  count_eq := by
    intro name
    rw [List.countP_cons]
    by_cases hname : o.decl.name = name
    · subst hname
      rw [count_eq_of_get? htakes.self, h.count_eq, if_pos (decide_eq_true rfl)]
      exact Nat.add_assoc _ _ _
    · rw [count_congr (htakes.other name (Ne.symm hname)), h.count_eq,
        if_neg (by simpa using hname), Nat.add_zero]
  kept := by
    intro name lease hlease
    obtain ⟨k, hk⟩ := h.kept name lease hlease
    by_cases hname : name = o.decl.name
    · -- the lease was open, so its object is the one that was given
      subst hname
      have hsame : lease.object = o := htakes.same ⟨lease.object, k⟩ hk
      rw [hsame]
      exact ⟨_, htakes.self⟩
    · exact ⟨k, (htakes.other name hname).trans hk⟩
  leased := by
    intro other hmem
    rcases List.mem_cons.mp hmem with rfl | hmem
    · exact ⟨_, htakes.self⟩
    · obtain ⟨k, hk⟩ := h.leased other hmem
      by_cases hname : other.decl.name = o.decl.name
      · have hsame : other = o := htakes.same _ (hname ▸ hk)
        subst hsame
        exact ⟨_, htakes.self⟩
      · exact ⟨k, (htakes.other _ hname).trans hk⟩
  order := h.order.trans horder

/-- The lease of an object on top counts one more than the others of its name. -/
theorem Above.exists_lease (h : t.Above (o :: held) u) :
    ∃ k, u.get? o.decl.name = some ⟨o, k + 1⟩ ∧
      k = t.count o.decl.name + held.countP fun other => other.decl.name = o.decl.name := by
  obtain ⟨k, hk⟩ := h.leased o List.mem_cons_self
  have hcount := h.count_eq o.decl.name
  rw [count_eq_of_get? hk, List.countP_cons, if_pos (decide_eq_true rfl)] at hcount
  change k = _ + 1 at hcount
  subst hcount
  exact ⟨_, hk, rfl⟩

/-- The names of the table below stay in front when an object on top is given back. -/
theorem Above.order_release (h : t.Above (o :: held) u) :
    t.leases.keys <+: (u.release o).2.leases.keys := by
  obtain ⟨k, hk, hcount⟩ := h.exists_lease
  rw [keys_release hk]
  split
  · exact h.order
  · rename_i hlast
    -- the last lease goes, so the table below has none of this name
    have hnot : ∀ name ∈ t.leases.keys, name ≠ o.decl.name := by
      rintro _ hmem rfl
      obtain ⟨lease, hlease⟩ := OrderedMap.mem_keys_iff.mp hmem
      have hpos : 0 < lease.count := h.base.positive _ lease hlease
      rw [count_eq_of_get? hlease] at hcount
      omega
    obtain ⟨added, hadded⟩ := h.order
    rw [← hadded, List.filter_append,
      List.filter_eq_self.mpr fun name hmem => by simpa using hnot name hmem]
    exact List.prefix_append _ _

/-- **An object on top that is given back is gone, and the rest stays.** -/
theorem Above.drop (h : t.Above (o :: held) u) : t.Above held (u.release o).2 := by
  obtain ⟨k, hk, hcount⟩ := h.exists_lease
  have hdrops : u.Drops o (u.release o).2 := release_drops (release_of_get? hk)
  have hself : (u.release o).2.get? o.decl.name = if k > 0 then some ⟨o, k⟩ else none := by
    obtain ⟨lease, hlease, -, hafter⟩ := hdrops.self
    rw [hk] at hlease
    cases hlease
    simpa using hafter
  -- whoever else has a lease of the name keeps it
  have hremains : 0 < k → (u.release o).2.get? o.decl.name = some ⟨o, k⟩ :=
    fun hpos => hself.trans (if_pos hpos)
  refine ⟨h.base, ⟨hdrops.named h.tidy.named, hdrops.positive h.tidy.positive⟩, ?_, ?_, ?_,
    h.order_release⟩
  · intro name
    by_cases hname : o.decl.name = name
    · subst hname
      have hone := hdrops.count_succ h.tidy.positive
      rw [count_eq_of_get? hk] at hone
      change _ = k + 1 at hone
      omega
    · have := h.count_eq name
      rw [List.countP_cons, if_neg (by simpa using hname), Nat.add_zero] at this
      rw [count_congr (hdrops.other name (Ne.symm hname)), this]
  · intro name lease hlease
    obtain ⟨k', hk'⟩ := h.kept name lease hlease
    by_cases hname : name = o.decl.name
    · subst hname
      have hsame : lease.object = o := by
        rw [hk] at hk'
        exact (Lease.mk.inj (Option.some.inj hk')).1.symm
      have hpos : 0 < lease.count := h.base.positive _ lease hlease
      rw [count_eq_of_get? hlease] at hcount
      rw [hsame]
      exact ⟨k, hremains (by omega)⟩
    · exact ⟨k', (hdrops.other name hname).trans hk'⟩
  · intro other hmem
    obtain ⟨k', hk'⟩ := h.leased other (List.mem_cons_of_mem _ hmem)
    by_cases hname : other.decl.name = o.decl.name
    · have hsame : other = o := by
        rw [hname, hk] at hk'
        exact (Lease.mk.inj (Option.some.inj hk')).1.symm
      have hpos : 0 < held.countP fun other => other.decl.name = o.decl.name :=
        List.countP_pos_iff.mpr ⟨other, hmem, decide_eq_true hname⟩
      rw [hsame]
      exact ⟨k, hremains (by omega)⟩
    · exact ⟨k', (hdrops.other _ hname).trans hk'⟩

/-- A table without leases on top has no others. -/
theorem Above.get?_eq (h : t.Above [] u) (name : String) : u.get? name = t.get? name := by
  have hcount := h.count_eq name
  rw [List.countP_nil, Nat.add_zero] at hcount
  cases hbelow : t.get? name with
  | none =>
      rw [count_eq_zero_of_get? hbelow] at hcount
      cases habove : u.get? name with
      | none => rfl
      | some lease =>
          have hpos := h.tidy.positive name lease habove
          rw [count_eq_of_get? habove] at hcount
          omega
  | some lease =>
      obtain ⟨k, hk⟩ := h.kept name lease hbelow
      rw [count_eq_of_get? hk, count_eq_of_get? hbelow] at hcount
      change k = lease.count at hcount
      rw [hk, hcount]

/-- **With nothing on top, the table is the one below**, its names, objects, counts and order. -/
theorem Above.eq_base (h : t.Above [] u) : u = t := by
  have hmem : ∀ name ∈ u.leases.keys, name ∈ t.leases.keys := by
    intro name hname
    obtain ⟨lease, hlease⟩ := OrderedMap.mem_keys_iff.mp hname
    exact OrderedMap.mem_keys_iff.mpr ⟨lease, (h.get?_eq name).symm.trans hlease⟩
  -- every name is one of the table below, so nothing stands behind its names
  have hkeys : t.leases.keys = u.leases.keys := by
    obtain ⟨added, hadded⟩ := h.order
    cases added with
    | nil => rw [← hadded, List.append_nil]
    | cons name added =>
        have hnodup : u.leases.keys.Nodup := u.leases.nodup
        rw [← hadded] at hnodup hmem
        have hbelow := hmem name (List.mem_append_right _ List.mem_cons_self)
        exact absurd rfl ((List.nodup_append.mp hnodup).2.2 name hbelow name List.mem_cons_self)
  cases t
  cases u
  exact congrArg LeaseTable.mk (OrderedMap.ext_get? hkeys.symm h.get?_eq)

end JvmDeps.LeaseTable
