import JvmDeps.Data.OrderedMap

set_option autoImplicit false

/-! # Keys and values of ordered maps

A map in order of insertion is known by its keys, in their order, and by the value of each
(`OrderedMap.ext_get?`). An insertion keeps the keys or puts one more at their end, and erasing a
key leaves the others where they are. A list of entries whose keys differ is kept as it is
(`OrderedMap.entries_ofList`).
-/

namespace JvmDeps.OrderedMap

variable {κ α : Type} [DecidableEq κ]

/-! ## Keys -/

theorem find?_eq_none_iff {k : κ} {es : List (κ × α)} :
    find? k es = none ↔ k ∉ es.map Prod.fst := by
  induction es with
  | nil => simp [find?]
  | cons e es ih =>
      rw [find?, List.map_cons, List.mem_cons, not_or]
      by_cases he : e.1 = k
      · simp [he]
      · rw [if_neg he, ih]
        exact ⟨fun h => ⟨Ne.symm he, h⟩, fun h => h.2⟩

/-- A key has no value exactly if it is none of the keys. -/
theorem get?_eq_none_iff {m : OrderedMap κ α} {k : κ} : m.get? k = none ↔ k ∉ m.keys :=
  find?_eq_none_iff

theorem mem_keys_iff {m : OrderedMap κ α} {k : κ} : k ∈ m.keys ↔ ∃ v, m.get? k = some v := by
  rw [← Option.ne_none_iff_exists', Ne, get?_eq_none_iff, Decidable.not_not]

theorem put_of_not_mem {k : κ} {v : α} {es : List (κ × α)} (h : k ∉ es.map Prod.fst) :
    put k v es = es ++ [(k, v)] := by
  induction es with
  | nil => rfl
  | cons e es ih =>
      rw [List.map_cons, List.mem_cons, not_or] at h
      rw [put, if_neg (Ne.symm h.1), ih h.2, List.cons_append]

theorem keys_put_of_mem {k : κ} {v : α} {es : List (κ × α)} (h : k ∈ es.map Prod.fst) :
    (put k v es).map Prod.fst = es.map Prod.fst := by
  induction es with
  | nil => cases h
  | cons e es ih =>
      rw [put]
      split
      · rename_i he
        rw [List.map_cons, List.map_cons, he]
      · rename_i he
        rw [List.map_cons, List.mem_cons] at h
        rw [List.map_cons, List.map_cons, ih (h.resolve_left (Ne.symm he))]

/-- A new value for a key leaves the keys as they are. -/
theorem keys_insert_of_mem {m : OrderedMap κ α} {k : κ} (v : α) (h : k ∈ m.keys) :
    (m.insert k v).keys = m.keys :=
  keys_put_of_mem h

/-- A new key goes to the end. -/
theorem keys_insert_of_not_mem {m : OrderedMap κ α} {k : κ} (v : α) (h : k ∉ m.keys) :
    (m.insert k v).keys = m.keys ++ [k] := by
  show (put k v m.entries).map Prod.fst = _
  rw [put_of_not_mem h, List.map_append]
  rfl

theorem keys_erase (m : OrderedMap κ α) (k : κ) :
    (m.erase k).keys = m.keys.filter fun x => !decide (x = k) := by
  show (m.entries.filter fun e => !decide (e.1 = k)).map Prod.fst = _
  rw [keys, List.filter_map]
  rfl

/-! ## Entries -/

theorem find?_of_mem {k : κ} {v : α} {es : List (κ × α)} (hnodup : (es.map Prod.fst).Nodup)
    (h : (k, v) ∈ es) : find? k es = some v := by
  induction es with
  | nil => cases h
  | cons e es ih =>
      rw [List.map_cons, List.nodup_cons] at hnodup
      rcases List.mem_cons.mp h with rfl | hmem
      · rw [find?, if_pos rfl]
      · have hne : e.1 ≠ k := fun he => hnodup.1 (he ▸ List.mem_map.mpr ⟨_, hmem, rfl⟩)
        rw [find?, if_neg hne, ih hnodup.2 hmem]

theorem mem_of_find? {k : κ} {v : α} {es : List (κ × α)} (h : find? k es = some v) :
    (k, v) ∈ es := by
  induction es with
  | nil => cases h
  | cons e es ih =>
      rw [find?] at h
      split at h
      · rename_i he
        cases h
        rw [← he]
        exact List.mem_cons_self
      · exact List.mem_cons_of_mem _ (ih h)

/-- A key has the value of its entry. -/
theorem get?_eq_some_iff {m : OrderedMap κ α} {k : κ} {v : α} :
    m.get? k = some v ↔ (k, v) ∈ m.entries :=
  ⟨mem_of_find?, find?_of_mem m.nodup⟩

theorem eq_of_find? {es fs : List (κ × α)} (hnodup : (es.map Prod.fst).Nodup)
    (hkeys : es.map Prod.fst = fs.map Prod.fst) (hfind : ∀ k, find? k es = find? k fs) :
    es = fs := by
  induction es generalizing fs with
  | nil => exact (List.map_eq_nil_iff.mp hkeys.symm).symm
  | cons e es ih =>
      cases fs with
      | nil => cases hkeys
      | cons f fs =>
          rw [List.map_cons, List.map_cons, List.cons.injEq] at hkeys
          rw [List.map_cons, List.nodup_cons] at hnodup
          obtain ⟨hkey, hkeys⟩ := hkeys
          have hhead : e = f := by
            have hvalue := hfind e.1
            rw [find?, if_pos rfl, find?, if_pos hkey.symm] at hvalue
            exact Prod.ext hkey (Option.some.inj hvalue)
          subst hhead
          have htail : ∀ k, find? k es = find? k fs := by
            intro k
            by_cases hk : e.1 = k
            · -- the key of the first entry has no other
              subst hk
              rw [find?_eq_none_iff.mpr hnodup.1, find?_eq_none_iff.mpr (hkeys ▸ hnodup.1)]
            · have := hfind k
              rwa [find?, if_neg hk, find?, if_neg hk] at this
          rw [ih hnodup.2 hkeys htail]

/-- **Maps with the same keys, in the same order, and the same values are the same.** -/
theorem ext_get? {m n : OrderedMap κ α} (hkeys : m.keys = n.keys)
    (hget : ∀ k, m.get? k = n.get? k) : m = n :=
  entries_injective (eq_of_find? m.nodup hkeys hget)

theorem entries_foldl_insert {m : OrderedMap κ α} {l : List (κ × α)}
    (h : ((m.entries ++ l).map Prod.fst).Nodup) :
    (l.foldl (fun m e => m.insert e.1 e.2) m).entries = m.entries ++ l := by
  induction l generalizing m with
  | nil => simp
  | cons e l ih =>
      -- the key is new, so its entry goes to the end
      have hnot : e.1 ∉ m.entries.map Prod.fst := by
        intro hmem
        rw [List.map_append, List.map_cons] at h
        exact (List.nodup_append.mp h).2.2 e.1 hmem e.1 List.mem_cons_self rfl
      have hentries : (m.insert e.1 e.2).entries = m.entries ++ [e] := put_of_not_mem hnot
      rw [List.foldl_cons, ih (by rw [hentries]; simpa using h), hentries]
      simp

/-- A list of entries whose keys differ is kept as it is. -/
theorem entries_ofList {l : List (κ × α)} (h : (l.map Prod.fst).Nodup) :
    (OrderedMap.ofList l).entries = l :=
  entries_foldl_insert h

/-- A row of different keys, each with its value, is kept as it is. -/
theorem entries_ofList_map {keys : List κ} (h : keys.Nodup) (f : κ → α) :
    (OrderedMap.ofList (keys.map fun k => (k, f k))).entries = keys.map fun k => (k, f k) := by
  refine entries_ofList ?_
  rw [List.map_map]
  exact (List.map_id keys).symm ▸ h

theorem mem_of_mem_put {k : κ} {v : α} {es : List (κ × α)} {e : κ × α} (h : e ∈ put k v es) :
    e = (k, v) ∨ e ∈ es := by
  induction es with
  | nil => exact Or.inl (List.mem_singleton.mp h)
  | cons e' es ih =>
      rw [put] at h
      split at h
      · rcases List.mem_cons.mp h with heq | hmem
        · exact Or.inl heq
        · exact Or.inr (List.mem_cons_of_mem _ hmem)
      · rcases List.mem_cons.mp h with heq | hmem
        · exact Or.inr (List.mem_cons.mpr (Or.inl heq))
        · exact (ih hmem).imp_right (List.mem_cons_of_mem _)

theorem mem_of_mem_foldl_insert {m : OrderedMap κ α} {l : List (κ × α)} {e : κ × α}
    (h : e ∈ (l.foldl (fun m e => m.insert e.1 e.2) m).entries) : e ∈ m.entries ∨ e ∈ l := by
  induction l generalizing m with
  | nil => exact Or.inl h
  | cons e' l ih =>
      rcases ih h with hmem | hmem
      · rcases mem_of_mem_put hmem with heq | hmem
        · exact Or.inr (List.mem_cons.mpr (Or.inl heq))
        · exact Or.inl hmem
      · exact Or.inr (List.mem_cons_of_mem _ hmem)

/-- The entries of a map come from the list it was made of. -/
theorem mem_of_mem_ofList {l : List (κ × α)} {e : κ × α} (h : e ∈ (OrderedMap.ofList l).entries) :
    e ∈ l :=
  (mem_of_mem_foldl_insert h).resolve_left (by simp [empty])

omit [DecidableEq κ] in
/-- The values that are kept are those that `f` accepts. -/
theorem mem_filterMapValues {β : Type} {f : α → Option β} {m : OrderedMap κ α} {k : κ} {b : β} :
    (k, b) ∈ (m.filterMapValues f).entries ↔ ∃ a, (k, a) ∈ m.entries ∧ f a = some b := by
  show (k, b) ∈ m.entries.filterMap _ ↔ _
  rw [List.mem_filterMap]
  constructor
  · rintro ⟨⟨k', a⟩, hmem, heq⟩
    obtain ⟨b', hb, heq⟩ := Option.map_eq_some_iff.mp heq
    cases heq
    exact ⟨a, hmem, hb⟩
  · rintro ⟨a, hmem, hb⟩
    exact ⟨(k, a), hmem, Option.map_eq_some_iff.mpr ⟨b, hb, rfl⟩⟩

end JvmDeps.OrderedMap

/-- Keys that were asked for can be entered in order, each once. -/
theorem JvmDeps.nodup_eraseDups {κ : Type} [BEq κ] [LawfulBEq κ] (keys : List κ) :
    keys.eraseDups.Nodup := by
  induction hn : keys.length using Nat.strongRecOn generalizing keys with
  | ind n ih =>
      cases keys with
      | nil => simp
      | cons key keys =>
          rw [List.eraseDups_cons, List.nodup_cons, List.mem_eraseDups]
          refine ⟨by simp, ih _ ?_ _ rfl⟩
          have := List.length_filter_le (fun x => !x == key) keys
          rw [← hn, List.length_cons]
          omega
