import JvmDeps.Proofs.Dependency.Union
import Mathlib.Data.Set.Card

set_option autoImplicit false

/-! # The semilattice of tables

Tables agree (`DependencyTable.agrees`) if they are of the same class and have the same names for
the same categories, in whatever order these were computed. Up to agreement, the tables of one class
are a semilattice: uniting them is associative, commutative and idempotent, and a table without
categories changes nothing (`DependencyTable.union_semilattice`).

A table is seen through `DependencyTable.get?`, which tells a category without names from one that
was not computed. In this view a union joins the two sides of each category on their own, so every
law of tables is a law of sets (`DependencyTable.exists_union`).
-/

namespace JvmDeps

/-! ## Sets -/

namespace SortedSet

section Lawful

variable {α : Type} [Ord α] [Std.LawfulEqOrd α] [Std.TransOrd α]

instance : Std.Commutative fun s t : SortedSet α => s ∪ t where
  comm s t := ext fun x => by simp only [mem_union, or_comm]

instance : Std.Associative fun s t : SortedSet α => s ∪ t where
  assoc s t u := ext fun x => by simp only [mem_union, or_assoc]

instance : Std.IdempotentOp fun s t : SortedSet α => s ∪ t where
  idempotent s := ext fun x => by simp only [mem_union, or_self]

end Lawful

/-- No member comes twice, so the size is the number of different members. -/
theorem size_eq_ncard {α : Type} [Ord α] [Std.TransOrd α] (s : SortedSet α) :
    s.size = {x | x ∈ s}.ncard := by
  classical
  -- of two equal members one would be smaller than itself
  have hnodup : s.toList.Nodup := by
    refine s.sorted.imp fun {a b} hlt heq => ?_
    rw [heq, (Std.ReflCmp.compare_self : compare b b = .eq)] at hlt
    cases hlt
  have hset : {x | x ∈ s} = (s.toList.toFinset : Set α) := by
    ext x
    simp [mem_def]
  rw [hset, Set.ncard_coe_finset, List.toFinset_card_of_nodup hnodup, size]

end SortedSet

namespace DependencyTable

variable {s t u a b c e : DependencyTable}

/-! ## Agreement -/

/-- Tables agree if they are of the same class and have the same names for each category. -/
theorem agrees_iff : s.agrees t = true ↔ s.className = t.className ∧ ∀ k, s.get? k = t.get? k := by
  rw [agrees, Bool.and_eq_true, beq_iff_eq, List.all_eq_true]
  refine and_congr_right fun _ => ⟨fun h k => ?_, fun h k _ => ?_⟩
  · exact eq_of_beq (h k k.mem_all)
  · exact beq_iff_eq.mpr (h k)

/-- Both come to a table, and the two tables agree. -/
def SameTable (x y : Except Fault DependencyTable) : Prop :=
  ∃ s t, x = .ok s ∧ y = .ok t ∧ s.agrees t = true

/-! ## Names -/

theorem mem_merged_iff_get? {x : String} :
    x ∈ t.merged ↔ ∃ k names, t.get? k = some names ∧ x ∈ names := by
  rw [mem_merged]
  constructor
  · rintro ⟨⟨k, names⟩, he, hx⟩
    exact ⟨k, names, OrderedMap.get?_eq_some_iff.mpr he, hx⟩
  · rintro ⟨k, names, hget, hx⟩
    exact ⟨(k, names), OrderedMap.get?_eq_some_iff.mp hget, hx⟩

/-- A name is in a table exactly if it is one of the merged names. -/
theorem contains_iff {x : String} : t.contains x = true ↔ x ∈ t.merged := by
  rw [contains, List.any_eq_true, mem_merged, OrderedMap.values]
  simp only [List.mem_map, exists_exists_and_eq_and, List.contains_iff_mem, SortedSet.mem_def]

/-- The size of a table is the number of its different names. -/
theorem size_eq_ncard_merged (t : DependencyTable) : t.size = {x | x ∈ t.merged}.ncard :=
  t.merged.size_eq_ncard

/-! ## Unions -/

/-- What a table is that was united from two tables: it is of their class, and each category has the
names of both sides. -/
structure United (s t u : DependencyTable) : Prop where
  union_eq : s.union t = .ok u
  className : u.className = s.className
  get? : ∀ k, u.get? k = (s.get? k).merge (· ∪ ·) (t.get? k)

theorem exists_united (h : t.className = s.className) : ∃ u, s.United t u := by
  obtain ⟨u, hunion, hclass, -, hget⟩ := exists_union h.symm
  exact ⟨u, hunion, hclass, hget⟩

/-- A category was computed if it was computed on either side. -/
theorem United.mem_categories (h : s.United t u) (k : Category) :
    k ∈ u.categories ↔ k ∈ s.categories ∨ k ∈ t.categories := by
  simp only [categories, OrderedMap.mem_keys_iff]
  show (∃ v, u.get? k = some v) ↔ (∃ v, s.get? k = some v) ∨ ∃ v, t.get? k = some v
  rw [h.get?]
  cases s.get? k <;> cases t.get? k <;> simp

/-- A category without names on the left has the names of the right, and is there in any case. -/
theorem United.get?_of_left_empty (h : s.United t u) {k : Category} (hempty : s.get? k = some ∅) :
    u.get? k = some (t.get k) := by
  rw [h.get?, hempty, get]
  cases t.get? k <;> simp [union_empty_left]

theorem United.get?_of_right_empty (h : s.United t u) {k : Category} (hempty : t.get? k = some ∅) :
    u.get? k = some (s.get k) := by
  rw [h.get?, hempty, get]
  cases s.get? k with
  | none => rfl
  | some names => exact congrArg some (SortedSet.ext fun x => by simp)

/-- What is united has exactly the names of both sides. -/
theorem exists_mem_merge_iff {left right : Option NameSet} {x : String} :
    (∃ names, left.merge (· ∪ ·) right = some names ∧ x ∈ names) ↔
      (∃ names, left = some names ∧ x ∈ names) ∨ ∃ names, right = some names ∧ x ∈ names := by
  constructor
  · rintro ⟨names, hnames, hx⟩
    exact mem_of_merge hnames hx
  · cases left with
    | none => simp
    | some l =>
        cases right with
        | none => simp
        | some r => simp [SortedSet.mem_union]

/-- **The names of a union are those of both tables.** -/
theorem United.merged (h : s.United t u) : u.merged = s.merged ∪ t.merged := by
  refine SortedSet.ext fun x => ?_
  simp only [SortedSet.mem_union, mem_merged_iff_get?, h.get?, exists_mem_merge_iff, exists_or]

/-! ## Laws -/

/-- A union agrees with what has, for each category, the names of both sides. -/
theorem United.agrees_of_get? (h : s.United t u) (hclass : s.className = a.className)
    (hget : ∀ k, (s.get? k).merge (· ∪ ·) (t.get? k) = a.get? k) : u.agrees a = true :=
  agrees_iff.mpr ⟨h.className.trans hclass, fun k => (h.get? k).trans (hget k)⟩

theorem union_assoc (hb : b.className = a.className) (hc : c.className = a.className) :
    SameTable (a.union b >>= (·.union c)) (b.union c >>= a.union) := by
  obtain ⟨ab, hab⟩ := exists_united hb
  obtain ⟨bc, hbc⟩ := exists_united (hc.trans hb.symm)
  obtain ⟨left, hleft⟩ := exists_united (hc.trans hab.className.symm)
  obtain ⟨right, hright⟩ := exists_united (hbc.className.trans hb)
  refine ⟨left, right, ?_, ?_, hleft.agrees_of_get? ?_ fun k => ?_⟩
  · rw [hab.union_eq]
    exact hleft.union_eq
  · rw [hbc.union_eq]
    exact hright.union_eq
  · rw [hab.className, hright.className]
  · -- for each category the law is that of three sets, each of which may be missing
    rw [hab.get?, hright.get?, hbc.get?]
    exact (Option.associative_merge fun s t : NameSet => s ∪ t).assoc _ _ _

theorem union_comm (hb : b.className = a.className) : SameTable (a.union b) (b.union a) := by
  obtain ⟨ab, hab⟩ := exists_united hb
  obtain ⟨ba, hba⟩ := exists_united hb.symm
  refine ⟨ab, ba, hab.union_eq, hba.union_eq, hab.agrees_of_get? ?_ fun k => ?_⟩
  · rw [hba.className, hb]
  · rw [hba.get?]
    exact (Option.commutative_merge fun s t : NameSet => s ∪ t).comm _ _

theorem union_idem (a : DependencyTable) : SameTable (a.union a) (.ok a) := by
  obtain ⟨u, hu⟩ := exists_united (rfl : a.className = a.className)
  refine ⟨u, a, hu.union_eq, rfl, hu.agrees_of_get? rfl fun k => ?_⟩
  exact (Option.idempotentOp_merge fun s t : NameSet => s ∪ t).idempotent _

/-- A table without categories changes nothing, on whichever side it stands. -/
theorem union_of_no_categories (he : e.className = a.className) (hnone : e.byCategory = ∅) :
    SameTable (a.union e) (.ok a) ∧ SameTable (e.union a) (.ok a) := by
  have hget : ∀ k, e.get? k = none := by
    intro k
    rw [get?, hnone]
    exact OrderedMap.get?_empty k
  constructor
  · obtain ⟨u, hu⟩ := exists_united he
    refine ⟨u, a, hu.union_eq, rfl, hu.agrees_of_get? rfl fun k => ?_⟩
    rw [hget, Option.merge_none_right]
  · obtain ⟨u, hu⟩ := exists_united he.symm
    refine ⟨u, a, hu.union_eq, rfl, hu.agrees_of_get? he fun k => ?_⟩
    rw [hget, Option.merge_none_left]

/-- **The tables of one class are a semilattice.** Two of them can always be united, to a table with
valid names again. Up to agreement, uniting is associative, commutative and idempotent, and a table
without categories changes nothing.

A union has the names and the categories of both tables, and a category that has no names on one
side is there nevertheless. Of every table the size is the number of its different names, and the
names that it contains are those that are merged. Tables of different classes cannot be united. -/
theorem union_semilattice (hb : b.className = a.className) (hc : c.className = a.className) :
    (∃ u, a.union b = .ok u ∧ u.className = a.className ∧
      (∀ k names, u.get? k = some names → ∀ x ∈ names, Name.defect? x = none) ∧
      u.merged = a.merged ∪ b.merged ∧
      (∀ k, k ∈ u.categories ↔ k ∈ a.categories ∨ k ∈ b.categories) ∧
      (∀ k, a.get? k = some ∅ → u.get? k = some (b.get k)) ∧
      ∀ k, b.get? k = some ∅ → u.get? k = some (a.get k)) ∧
    SameTable (a.union b >>= (·.union c)) (b.union c >>= a.union) ∧
    SameTable (a.union b) (b.union a) ∧
    SameTable (a.union a) (.ok a) ∧
    (∃ e, make a.className ∅ = .ok e ∧ SameTable (a.union e) (.ok a) ∧
      SameTable (e.union a) (.ok a)) ∧
    ∀ t : DependencyTable, t.size = {x | x ∈ t.merged}.ncard ∧
      (∀ x, t.contains x = true ↔ x ∈ t.merged) ∧
      ∀ other : DependencyTable, other.className ≠ t.className →
        ∃ m, t.union other = .error (.misuse m) ∧ m.kindName = "ValueError" := by
  refine ⟨?_, union_assoc hb hc, union_comm hb, union_idem a, ?_, fun t => ⟨?_, ?_, ?_⟩⟩
  · obtain ⟨u, hu⟩ := exists_united hb
    refine ⟨u, hu.union_eq, hu.className, ?_, hu.merged, hu.mem_categories,
      fun k => hu.get?_of_left_empty, fun k => hu.get?_of_right_empty⟩
    intro k names hnames
    exact u.valid _ (OrderedMap.get?_eq_some_iff.mp hnames)
  · obtain ⟨e, he, hnone⟩ := exists_make (m := ∅) a.named (List.forall_mem_nil _)
    exact ⟨e, he, union_of_no_categories (eq_of_make he).1 hnone⟩
  · exact t.size_eq_ncard_merged
  · exact fun x => contains_iff
  · intro other hother
    exact ⟨.unionOfOther t.className other.className, if_neg hother.symm, rfl⟩

/-- A class with an annotation; it has no interfaces. -/
def annotatedTable : DependencyTable where
  className := "a.B"
  byCategory := .ofList [(.annotationType, .ofList ["x.A"]), (.interface, ∅)]
  named := by decide
  valid := by decide +kernel

/-- The class with a field, and with one more annotation. -/
def fieldedTable : DependencyTable where
  className := "a.B"
  byCategory := .ofList [(.fieldType, .ofList ["x.F"]), (.annotationType, .ofList ["x.C", "x.A"])]
  named := by decide
  valid := by decide +kernel

/-- Both tables have annotations, and the category that has no names is in one of them only. -/
theorem union_semilattice_overlapping :
    fieldedTable.className = annotatedTable.className ∧
      SameTable (annotatedTable.union fieldedTable) (fieldedTable.union annotatedTable) ∧
      ∃ u, annotatedTable.union fieldedTable = .ok u ∧
        u.merged = .ofList ["x.A", "x.C", "x.F"] ∧ u.get? .interface = some ∅ := by
  obtain ⟨⟨u, hunion, -, -, hmerged, -, hempty, -⟩, -, hcomm, -⟩ :=
    union_semilattice (a := annotatedTable) (b := fieldedTable) (c := fieldedTable) rfl rfl
  refine ⟨rfl, hcomm, u, hunion, hmerged.trans (by decide +kernel), ?_⟩
  exact (hempty .interface (by decide +kernel)).trans (by decide +kernel)

end DependencyTable

end JvmDeps
