set_option autoImplicit false

/-! # Sorted sets

A finite set kept as the increasing list of its members. Two sets with the same members are equal
(`SortedSet.ext`), so equations between sets are equations between values. The members are
inserted one by one; `mem_insert`, `mem_union` and `mem_erase` say what each operation does.
-/

namespace JvmDeps

/-- A finite set as the increasing list of its members. -/
structure SortedSet (α : Type) [Ord α] where
  /-- The members, in increasing order. -/
  toList : List α
  /-- Each member comes before all those after it. -/
  sorted : toList.Pairwise fun a b => compare a b = .lt

namespace SortedSet

variable {α : Type} [Ord α]

instance : Membership α (SortedSet α) where
  mem s a := a ∈ s.toList

theorem mem_def {a : α} {s : SortedSet α} : a ∈ s ↔ a ∈ s.toList := Iff.rfl

theorem toList_injective {s t : SortedSet α} (h : s.toList = t.toList) : s = t := by
  cases s
  cases t
  cases h
  rfl

instance [DecidableEq α] : DecidableEq (SortedSet α) := fun s t =>
  decidable_of_iff (s.toList = t.toList) ⟨toList_injective, fun h => h ▸ rfl⟩

instance [DecidableEq α] (a : α) (s : SortedSet α) : Decidable (a ∈ s) :=
  inferInstanceAs (Decidable (a ∈ s.toList))

/-- The set without members. -/
def empty : SortedSet α := ⟨[], List.Pairwise.nil⟩

instance : EmptyCollection (SortedSet α) := ⟨empty⟩

/-- The set of one member. -/
def singleton (a : α) : SortedSet α := ⟨[a], by simp⟩

/-- The number of members. -/
def size (s : SortedSet α) : Nat := s.toList.length

/-- The members that satisfy `p`. -/
def filter (p : α → Bool) (s : SortedSet α) : SortedSet α :=
  ⟨s.toList.filter p, s.sorted.filter p⟩

/-- The set without `a`. -/
def erase [DecidableEq α] (s : SortedSet α) (a : α) : SortedSet α :=
  s.filter fun b => !decide (b = a)

/-- Puts `a` at its place in an increasing list, unless it is there already. -/
def insertSorted (a : α) : List α → List α
  | [] => [a]
  | b :: bs =>
    match compare a b with
    | .lt => a :: b :: bs
    | .eq => b :: bs
    | .gt => b :: insertSorted a bs

section Lawful

variable [Std.LawfulEqOrd α]

theorem mem_insertSorted {a x : α} {l : List α} : x ∈ insertSorted a l ↔ x = a ∨ x ∈ l := by
  induction l with
  | nil => simp [insertSorted]
  | cons b bs ih =>
    rw [insertSorted]
    split
    · simp
    · rename_i h
      have := Std.LawfulEqCmp.eq_of_compare h
      subst this
      simp
    · simp only [List.mem_cons, ih]
      exact or_left_comm

variable [Std.TransOrd α]

theorem pairwise_insertSorted {a : α} {l : List α}
    (h : l.Pairwise fun a b => compare a b = .lt) :
    (insertSorted a l).Pairwise fun a b => compare a b = .lt := by
  induction l with
  | nil => simp [insertSorted]
  | cons b bs ih =>
    rw [List.pairwise_cons] at h
    rw [insertSorted]
    split
    · rename_i hab
      refine List.pairwise_cons.2 ⟨fun x hx => ?_, List.pairwise_cons.2 h⟩
      rcases List.mem_cons.1 hx with rfl | hx
      · exact hab
      · exact Std.TransCmp.lt_trans hab (h.1 x hx)
    · exact List.pairwise_cons.2 h
    · rename_i hab
      refine List.pairwise_cons.2 ⟨fun x hx => ?_, ih h.2⟩
      rcases mem_insertSorted.1 hx with rfl | hx
      · exact Std.OrientedCmp.gt_iff_lt.1 hab
      · exact h.1 x hx

/-- The set with `a`. -/
def insert (s : SortedSet α) (a : α) : SortedSet α :=
  ⟨insertSorted a s.toList, pairwise_insertSorted s.sorted⟩

/-- The set with all members of a list. -/
def insertMany (s : SortedSet α) (l : List α) : SortedSet α :=
  l.foldl insert s

/-- The members of a list. -/
def ofList (l : List α) : SortedSet α :=
  insertMany empty l

/-- The members of either set. -/
def union (s t : SortedSet α) : SortedSet α :=
  s.insertMany t.toList

instance : Union (SortedSet α) := ⟨union⟩

theorem mem_insert {s : SortedSet α} {a x : α} : x ∈ s.insert a ↔ x = a ∨ x ∈ s :=
  mem_insertSorted

theorem mem_insertMany {s : SortedSet α} {l : List α} {x : α} :
    x ∈ s.insertMany l ↔ x ∈ s ∨ x ∈ l := by
  induction l generalizing s with
  | nil => simp [insertMany]
  | cons a l ih =>
    change x ∈ (s.insert a).insertMany l ↔ _
    rw [ih, mem_insert, List.mem_cons, or_comm (a := x = a), or_assoc]

@[simp] theorem mem_ofList {l : List α} {x : α} : x ∈ ofList l ↔ x ∈ l := by
  rw [ofList, mem_insertMany]
  simp [mem_def, empty]

@[simp] theorem mem_union {s t : SortedSet α} {x : α} : x ∈ s ∪ t ↔ x ∈ s ∨ x ∈ t :=
  mem_insertMany

end Lawful

@[simp] theorem not_mem_empty (a : α) : ¬ a ∈ (∅ : SortedSet α) := List.not_mem_nil

@[simp] theorem mem_singleton {a x : α} : x ∈ singleton a ↔ x = a := List.mem_singleton

theorem mem_erase [DecidableEq α] {s : SortedSet α} {a x : α} :
    x ∈ s.erase a ↔ x ∈ s ∧ x ≠ a := by
  simp [mem_def, erase, filter]

/-- Two increasing lists with the same members are equal. -/
theorem eq_of_pairwise_of_mem_iff [Std.TransOrd α] {l m : List α}
    (hl : l.Pairwise fun a b => compare a b = .lt) (hm : m.Pairwise fun a b => compare a b = .lt)
    (h : ∀ a, a ∈ l ↔ a ∈ m) : l = m := by
  have irrefl (a : α) : compare a a ≠ .lt := by
    rw [(Std.ReflCmp.compare_self : compare a a = .eq)]
    decide
  induction l generalizing m with
  | nil =>
    cases m with
    | nil => rfl
    | cons b bs => exact absurd ((h b).2 List.mem_cons_self) List.not_mem_nil
  | cons a as ih =>
    cases m with
    | nil => exact absurd ((h a).1 List.mem_cons_self) List.not_mem_nil
    | cons b bs =>
      rw [List.pairwise_cons] at hl hm
      have hab : a = b := by
        rcases List.mem_cons.1 ((h a).1 List.mem_cons_self) with heq | hmem
        · exact heq
        · rcases List.mem_cons.1 ((h b).2 List.mem_cons_self) with heq | hmem'
          · exact heq.symm
          · exact absurd (Std.TransCmp.lt_trans (hm.1 a hmem) (hl.1 b hmem')) (irrefl b)
      subst hab
      refine congrArg (a :: ·) (ih hl.2 hm.2 fun x => ⟨fun hx => ?_, fun hx => ?_⟩)
      · rcases List.mem_cons.1 ((h x).1 (List.mem_cons_of_mem _ hx)) with rfl | hx'
        · exact absurd (hl.1 x hx) (irrefl x)
        · exact hx'
      · rcases List.mem_cons.1 ((h x).2 (List.mem_cons_of_mem _ hx)) with rfl | hx'
        · exact absurd (hm.1 x hx) (irrefl x)
        · exact hx'

/-- Sets with the same members are equal. -/
theorem ext [Std.TransOrd α] {s t : SortedSet α} (h : ∀ a, a ∈ s ↔ a ∈ t) : s = t :=
  toList_injective (eq_of_pairwise_of_mem_iff s.sorted t.sorted h)

end SortedSet

/-- A set of names, in the order of their code points. -/
abbrev NameSet := SortedSet String

end JvmDeps
