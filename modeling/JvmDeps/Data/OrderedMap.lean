set_option autoImplicit false

/-! # Maps in order of insertion

A finite map kept as the list of its entries, in the order in which their keys were first inserted.
A later value for a key takes the place of the earlier one (`insert`), so the position of a key is
that of its first insertion and its value that of its last.
-/

namespace JvmDeps

/-- A finite map whose entries are kept in the order in which their keys were first inserted. -/
structure OrderedMap (κ α : Type) where
  /-- The entries, in the order of first insertion. -/
  entries : List (κ × α)
  /-- A key has one entry. -/
  nodup : (entries.map Prod.fst).Nodup

namespace OrderedMap

variable {κ α β : Type}

theorem entries_injective {m n : OrderedMap κ α} (h : m.entries = n.entries) : m = n := by
  cases m
  cases n
  cases h
  rfl

instance [DecidableEq κ] [DecidableEq α] : DecidableEq (OrderedMap κ α) := fun m n =>
  decidable_of_iff (m.entries = n.entries) ⟨entries_injective, fun h => h ▸ rfl⟩

/-- The map without entries. -/
def empty : OrderedMap κ α := ⟨[], List.nodup_nil⟩

instance : EmptyCollection (OrderedMap κ α) := ⟨empty⟩

/-- The keys, in the order of first insertion. -/
def keys (m : OrderedMap κ α) : List κ := m.entries.map Prod.fst

/-- The values, in the order of their keys. -/
def values (m : OrderedMap κ α) : List α := m.entries.map Prod.snd

/-- The number of entries. -/
def size (m : OrderedMap κ α) : Nat := m.entries.length

/-- Keeps the entries whose value `f` accepts, with what it makes of it. -/
def filterMapValues (f : α → Option β) (m : OrderedMap κ α) : OrderedMap κ β :=
  ⟨m.entries.filterMap fun e => (f e.2).map (e.1, ·), by
    refine List.Nodup.sublist ?_ m.nodup
    induction m.entries with
    | nil => exact List.Sublist.refl _
    | cons e es ih =>
      rw [List.filterMap_cons]
      cases f e.2 with
      | none => exact ih.cons _
      | some b => exact ih.cons_cons _⟩

variable [DecidableEq κ]

/-- The value of the first entry of `k` in a list of entries. -/
def find? (k : κ) : List (κ × α) → Option α
  | [] => none
  | e :: es => if e.1 = k then some e.2 else find? k es

/-- The value of a key. -/
def get? (m : OrderedMap κ α) (k : κ) : Option α := find? k m.entries

/-- `k` has an entry. -/
def contains (m : OrderedMap κ α) (k : κ) : Bool := m.keys.contains k

/-- Gives `k` the value `v` in a list of entries: in its place if it has one, else at the end. -/
def put (k : κ) (v : α) : List (κ × α) → List (κ × α)
  | [] => [(k, v)]
  | e :: es => if e.1 = k then (k, v) :: es else e :: put k v es

theorem mem_keys_put {k x : κ} {v : α} {es : List (κ × α)} :
    x ∈ (put k v es).map Prod.fst ↔ x = k ∨ x ∈ es.map Prod.fst := by
  induction es with
  | nil => simp [put]
  | cons e es ih =>
    rw [put]
    split
    · rename_i h
      subst h
      simp
    · simp only [List.map_cons, List.mem_cons, ih]
      exact or_left_comm

theorem nodup_keys_put {k : κ} {v : α} {es : List (κ × α)} (h : (es.map Prod.fst).Nodup) :
    ((put k v es).map Prod.fst).Nodup := by
  induction es with
  | nil => simp [put]
  | cons e es ih =>
    rw [List.map_cons, List.nodup_cons] at h
    rw [put]
    split
    · rename_i he
      subst he
      exact List.nodup_cons.2 h
    · rename_i he
      refine List.nodup_cons.2 ⟨fun hmem => ?_, ih h.2⟩
      rcases mem_keys_put.1 hmem with heq | hmem
      · exact he heq
      · exact h.1 hmem

/-- Gives `k` the value `v`: in its place if it has one, else at the end. -/
def insert (m : OrderedMap κ α) (k : κ) (v : α) : OrderedMap κ α :=
  ⟨put k v m.entries, nodup_keys_put m.nodup⟩

/-- The map without the entry of `k`. -/
def erase (m : OrderedMap κ α) (k : κ) : OrderedMap κ α :=
  ⟨m.entries.filter fun e => !decide (e.1 = k), m.nodup.sublist (List.filter_sublist.map _)⟩

/-- The map of a list of entries: first position, last value. -/
def ofList (l : List (κ × α)) : OrderedMap κ α :=
  l.foldl (fun m e => m.insert e.1 e.2) empty

/-- What `k` is worth after an insertion. -/
theorem get?_insert (m : OrderedMap κ α) (k x : κ) (v : α) :
    (m.insert k v).get? x = if x = k then some v else m.get? x := by
  change find? x (put k v m.entries) = if x = k then some v else find? x m.entries
  induction m.entries with
  | nil => simp [put, find?, eq_comm]
  | cons e es ih =>
    rw [put]
    by_cases he : e.1 = k
    · by_cases h : x = k
      · simp [he, find?, h]
      · simp [he, find?, h, Ne.symm h]
    · by_cases hx : e.1 = x
      · subst hx
        simp [find?, he]
      · simp [he, hx, find?, ih]

/-- The map without entries gives nothing. -/
theorem get?_empty (x : κ) : (empty : OrderedMap κ α).get? x = none := rfl

/-- What `x` is worth after an entry was taken out. -/
theorem get?_erase (m : OrderedMap κ α) (k x : κ) :
    (m.erase k).get? x = if x = k then none else m.get? x := by
  change find? x (m.entries.filter fun e => !decide (e.1 = k)) =
    if x = k then none else find? x m.entries
  induction m.entries with
  | nil => simp [find?]
  | cons e es ih =>
    by_cases he : e.1 = k
    · rw [List.filter_cons_of_neg (by simp [he]), ih]
      by_cases h : x = k
      · simp [h]
      · simp [h, find?, he, Ne.symm h]
    · rw [List.filter_cons_of_pos (by simp [he])]
      by_cases hx : e.1 = x
      · have hxk : x ≠ k := fun h => he (hx.trans h)
        simp [find?, hx, hxk]
      · simp [find?, hx, ih]

end OrderedMap

end JvmDeps
