import JvmDeps.Proofs.Dependency.Extraction

set_option autoImplicit false

/-! # United tables

Tables of one class are united category by category: the categories of the left table come first,
then those that only the right one has, and a category that both have gets the names of both
(`DependencyTable.exists_union`).

Extraction respects this. No category depends on what else is asked for, so a request that consists
of two parts succeeds exactly if both parts do, and its table is the union of theirs
(`ClassDecl.extract_append`).
-/

namespace JvmDeps

/-! ## Rows of keys -/

section Rows

variable {κ : Type} [BEq κ] [LawfulBEq κ]

/-- It is the same whether repetitions are dropped before or after others are taken away. -/
theorem eraseDups_filter (p : κ → Bool) (keys : List κ) :
    (keys.filter p).eraseDups = keys.eraseDups.filter p := by
  -- without its first key and the repetitions of it, a row is shorter
  induction hn : keys.length using Nat.strongRecOn generalizing keys with
  | ind n ih =>
      cases keys with
      | nil => rfl
      | cons key keys =>
          have hlt : (keys.filter fun k => !k == key).length < n := by
            have := List.length_filter_le (fun k => !k == key) keys
            rw [← hn, List.length_cons]
            omega
          have hrest := ih _ hlt (keys.filter fun k => !k == key) rfl
          rw [List.filter_filter] at hrest
          rw [List.eraseDups_cons, List.filter_cons, List.filter_cons, ← hrest]
          by_cases hkey : p key = true
          · rw [if_pos hkey, if_pos hkey, List.eraseDups_cons, List.filter_filter]
            simp only [Bool.and_comm]
          · rw [if_neg hkey, if_neg hkey]
            refine congrArg List.eraseDups (List.filter_congr fun k _ => ?_)
            by_cases hk : k = key
            · subst hk
              simp [hkey]
            · simp [hk]

/-- The keys of two rows, each once: those of the first row, and then those that only the second one
has. -/
theorem eraseDups_append_eraseDups (first second : List κ) :
    (first ++ second).eraseDups =
      first.eraseDups ++ second.eraseDups.removeAll first.eraseDups := by
  rw [List.eraseDups_append, List.removeAll, eraseDups_filter]
  refine congrArg (first.eraseDups ++ ·) (List.filter_congr fun k _ => ?_)
  simp

end Rows

/-! ## Tables -/

namespace DependencyTable

variable {m : OrderedMap Category NameSet} {es : List (Category × NameSet)}

theorem keys_addNames (m : OrderedMap Category NameSet) (e : Category × NameSet) :
    (addNames m e).keys = m.keys ++ [e.1].removeAll m.keys := by
  by_cases he : e.1 ∈ m.keys
  · rw [addNames, OrderedMap.keys_insert_of_mem _ he]
    simp [List.removeAll, he]
  · rw [addNames, OrderedMap.keys_insert_of_not_mem _ he]
    simp [List.removeAll, he]

/-- The keys stay where they are, and new ones follow in their order. -/
theorem keys_foldl_addNames (h : (es.map Prod.fst).Nodup) :
    (es.foldl addNames m).keys = m.keys ++ (es.map Prod.fst).removeAll m.keys := by
  induction es generalizing m with
  | nil => simp
  | cons e es ih =>
      rw [List.map_cons, List.nodup_cons] at h
      rw [List.foldl_cons, ih h.2, keys_addNames, List.append_assoc]
      refine congrArg (m.keys ++ ·) ?_
      show [e.1].removeAll m.keys ++ _ = ([e.1] ++ es.map Prod.fst).removeAll m.keys
      rw [List.removeAll, List.removeAll, List.removeAll, List.filter_append]
      refine congrArg (_ ++ ·) (List.filter_congr fun k hk => ?_)
      -- the key that was just added does not come again
      have hne : k ≠ e.1 := fun hke => h.1 (hke ▸ hk)
      simp [hne]

theorem union_empty_left (names : NameSet) : ∅ ∪ names = names :=
  SortedSet.ext fun x => by simp

/-- A key has the names that it had, and those that were added to it. -/
theorem get?_addNames (m : OrderedMap Category NameSet) (e : Category × NameSet) (k : Category) :
    (addNames m e).get? k =
      (m.get? k).merge (· ∪ ·) (if k = e.1 then some e.2 else none) := by
  rw [addNames, OrderedMap.get?_insert]
  by_cases hk : k = e.1
  · subst hk
    cases hget : m.get? e.1 <;> simp [union_empty_left]
  · cases hget : m.get? k <;> simp [hk]

theorem get?_foldl_addNames (h : (es.map Prod.fst).Nodup) (k : Category) :
    (es.foldl addNames m).get? k = (m.get? k).merge (· ∪ ·) (OrderedMap.find? k es) := by
  induction es generalizing m with
  | nil => simp [OrderedMap.find?]
  | cons e es ih =>
      rw [List.map_cons, List.nodup_cons] at h
      rw [List.foldl_cons, ih h.2, get?_addNames, OrderedMap.find?]
      by_cases hk : k = e.1
      · subst hk
        rw [OrderedMap.find?_eq_none_iff.mpr h.1]
        simp
      · simp [hk, Ne.symm hk]

variable {s t : DependencyTable}

/-- What is united has the names of both sides. -/
theorem mem_of_merge {a b : Option NameSet} {names : NameSet}
    (h : a.merge (· ∪ ·) b = some names) {x : String} (hx : x ∈ names) :
    (∃ left, a = some left ∧ x ∈ left) ∨ ∃ right, b = some right ∧ x ∈ right := by
  cases a with
  | none =>
      rw [Option.merge_none_left] at h
      exact Or.inr ⟨names, h, hx⟩
  | some left =>
      cases b with
      | none => exact Or.inl ⟨names, h, hx⟩
      | some right =>
          obtain rfl : left ∪ right = names := Option.some.inj h
          rcases SortedSet.mem_union.mp hx with hleft | hright
          · exact Or.inl ⟨left, rfl, hleft⟩
          · exact Or.inr ⟨right, rfl, hright⟩

/-- **Tables of one class can be united.** The categories of the left table come first, then those
that only the right one has, and every category has the names of both. -/
theorem exists_union (hclass : s.className = t.className) :
    ∃ u, s.union t = .ok u ∧ u.className = s.className ∧
      u.categories = s.categories ++ t.categories.removeAll s.categories ∧
      ∀ k, u.get? k = (s.get? k).merge (· ∪ ·) (t.get? k) := by
  have hget := get?_foldl_addNames (m := s.byCategory) t.byCategory.nodup
  have hvalid : ∀ e ∈ (t.byCategory.entries.foldl addNames s.byCategory).entries,
      ∀ x ∈ e.2, Name.defect? x = none := by
    rintro ⟨k, names⟩ he x hx
    have hnames := OrderedMap.get?_eq_some_iff.mpr he
    rw [hget] at hnames
    rcases mem_of_merge hnames hx with ⟨left, hleft, hx⟩ | ⟨right, hright, hx⟩
    · exact s.valid _ (OrderedMap.get?_eq_some_iff.mp hleft) x hx
    · exact t.valid _ (OrderedMap.mem_of_find? hright) x hx
  obtain ⟨u, hu, hentries⟩ := exists_make s.named hvalid
  refine ⟨u, by rw [union, if_pos hclass, hu], (eq_of_make hu).1, ?_, fun k => ?_⟩
  · rw [categories, hentries]
    exact keys_foldl_addNames t.byCategory.nodup
  · rw [get?, hentries]
    exact hget k

end DependencyTable

/-! ## Requests of two parts -/

namespace ClassDecl

variable {c : ClassDecl} {includeSelf : Bool} {first second : List Category}
  {s t u : DependencyTable}

/-- What a table of some categories has for a category that can be computed. -/
theorem get?_of_computed {selected : List Category} (h : t.Of c includeSelf selected)
    {k : Category} {names : NameSet} (hnames : c.dependenciesIn includeSelf k = .ok names) :
    t.get? k = if k ∈ selected then some names else none := by
  by_cases hk : k ∈ selected
  · have hget : t.get k = names := Except.ok.inj ((h.computed k hk).symm.trans hnames)
    rw [if_pos hk, DependencyTable.get?_eq_some_get (h.categories.symm ▸ hk), hget]
  · rw [if_neg hk]
    exact OrderedMap.get?_eq_none_iff.mpr fun hmem => hk (h.categories ▸ hmem)

theorem union_self (names : NameSet) : names ∪ names = names :=
  SortedSet.ext fun x => by simp

/-- **Tables of the parts of a request unite to a table of the whole.** -/
theorem of_append_of_union (hs : s.Of c includeSelf first.eraseDups)
    (ht : t.Of c includeSelf second.eraseDups) (hu : s.union t = .ok u) :
    u.Of c includeSelf (first ++ second).eraseDups := by
  have hclass : s.className = t.className := hs.className.trans ht.className.symm
  obtain ⟨u', hu', hname, hcategories, hget⟩ := DependencyTable.exists_union hclass
  obtain rfl : u' = u := Except.ok.inj (hu'.symm.trans hu)
  refine ⟨hname.trans hs.className, ?_, fun k hk => ?_⟩
  · rw [hcategories, hs.categories, ht.categories, eraseDups_append_eraseDups]
  · rw [List.mem_eraseDups, List.mem_append] at hk
    obtain ⟨names, hnames⟩ : ∃ names, c.dependenciesIn includeSelf k = .ok names := by
      rcases hk with hk | hk
      · exact ⟨_, hs.computed k (List.mem_eraseDups.mpr hk)⟩
      · exact ⟨_, ht.computed k (List.mem_eraseDups.mpr hk)⟩
    -- a side that has the category has the same names for it
    have hu' : u'.get? k = some names := by
      rw [hget, get?_of_computed hs hnames, get?_of_computed ht hnames]
      by_cases hfirst : k ∈ first <;> by_cases hsecond : k ∈ second <;>
        simp_all [union_self]
    rw [DependencyTable.get, hu', hnames]
    rfl

/-- **Extraction takes requests to unions.** A request that consists of two parts succeeds exactly
if both parts do. Its table is then the union of theirs, with the categories in the order in which
they were first asked for: those of the first part, and then the new ones of the second. -/
theorem extract_append (c : ClassDecl) (includeSelf : Bool) (first second : List Category) :
    let extract := fun request : List Category =>
      c.extract includeSelf (some (request.map .category))
    ((∃ u, extract (first ++ second) = .ok u) ↔
        (∃ s, extract first = .ok s) ∧ ∃ t, extract second = .ok t) ∧
      ∀ s t, extract first = .ok s → extract second = .ok t →
        ∃ u, extract (first ++ second) = .ok u ∧ s.union t = .ok u ∧
          u.categories = first.eraseDups ++ (second.removeAll first).eraseDups := by
  intro extract
  constructor
  · refine (exists_extract_iff (some (first ++ second))).trans ?_
    refine Iff.trans ?_
      (and_congr (exists_extract_iff (some first)) (exists_extract_iff (some second))).symm
    simp only [Option.getD_some, List.mem_append, or_imp, forall_and]
    exact and_and_left
  · intro s t hs ht
    have hs := (extract_eq_ok_iff (some first)).mp hs
    have ht := (extract_eq_ok_iff (some second)).mp ht
    obtain ⟨u, hu, -⟩ := DependencyTable.exists_union (hs.className.trans ht.className.symm)
    have hwhole := of_append_of_union hs ht hu
    refine ⟨u, (extract_eq_ok_iff (some (first ++ second))).mpr hwhole, hu, ?_⟩
    rw [hwhole.categories]
    exact List.eraseDups_append

end ClassDecl

end JvmDeps
