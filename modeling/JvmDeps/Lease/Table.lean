import JvmDeps.Data.OrderedMap
import JvmDeps.Data.SortedSet
import JvmDeps.ClassDecl

set_option autoImplicit false

/-! # Leases

A class that was handed out is leased until it is given back as often as it was taken. While a
lease is open, everyone who asks for the class gets the same object. Objects are told apart by
their identity: the same bytes read twice give two objects.

Taking a class happens in up to three steps. First `LeaseTable.bump` adds a lease to one that is
open. If there is none, the class is loaded, with no hold on the table. Then `LeaseTable.commit`
either adds a lease to one that was opened in the meantime, and the loaded object is dropped, or
opens one. `LeaseTable.release` gives an object back.
-/

namespace JvmDeps

/-- A class that was loaded, with the number that tells it from every other loaded class. -/
structure Loaded where
  id : Nat
  decl : ClassDecl
deriving DecidableEq, Repr

/-- An open lease: the object that was handed out, and how many times. -/
structure Lease where
  object : Loaded
  count : Nat
deriving DecidableEq, Repr

/-- The open leases, by internal name. -/
structure LeaseTable where
  leases : OrderedMap String Lease

namespace LeaseTable

/-- No lease is open. -/
def empty : LeaseTable := ⟨∅⟩

/-- The open lease of a name. -/
def get? (t : LeaseTable) (name : String) : Option Lease := t.leases.get? name

/-- A lease of the name is open. -/
def isLeased (t : LeaseTable) (name : String) : Bool := (t.get? name).isSome

/-- The names with an open lease. -/
def names (t : LeaseTable) : NameSet := .ofList t.leases.keys

/-- The number of names with an open lease. -/
def size (t : LeaseTable) : Nat := t.leases.size

/-- Adds a lease to an open one and gives its object. -/
def bump (t : LeaseTable) (name : String) : Option (Loaded × LeaseTable) :=
  match t.get? name with
  | none => none
  | some lease => some (lease.object, ⟨t.leases.insert name ⟨lease.object, lease.count + 1⟩⟩)

/-- Adds a lease to an open one and gives its object, or opens one for `loaded`. -/
def commit (t : LeaseTable) (name : String) (loaded : Loaded) : Loaded × LeaseTable :=
  match t.bump name with
  | some taken => taken
  | none => (loaded, ⟨t.leases.insert name ⟨loaded, 1⟩⟩)

/-- Gives an object back, and says whether a lease of it was open. The lease is looked for under
the name that the class declares. -/
def release (t : LeaseTable) (object : Loaded) : Bool × LeaseTable :=
  match t.get? object.decl.name with
  | none => (false, t)
  | some lease =>
    if lease.object.id ≠ object.id then (false, t)
    else if lease.count > 1 then
      (true, ⟨t.leases.insert object.decl.name ⟨lease.object, lease.count - 1⟩⟩)
    else (true, ⟨t.leases.erase object.decl.name⟩)

/-! ## What the operations do to the lease of a name -/

/-- Adding a lease gives the leased object and counts one more for its name. -/
theorem get?_of_bump {t u : LeaseTable} {name : String} {object : Loaded}
    (h : t.bump name = some (object, u)) (other : String) :
    ∃ lease, t.get? name = some lease ∧ lease.object = object ∧
      u.get? other = if other = name then some ⟨object, lease.count + 1⟩ else t.get? other := by
  unfold bump at h
  split at h
  · simp at h
  · rename_i lease heq
    simp only [Option.some.injEq, Prod.mk.injEq] at h
    obtain ⟨rfl, rfl⟩ := h
    exact ⟨lease, heq, rfl, OrderedMap.get?_insert _ _ _ _⟩

/-- A refused release leaves the table as it is. -/
theorem release_eq_of_false {t : LeaseTable} {object : Loaded}
    (h : (t.release object).1 = false) : (t.release object).2 = t := by
  unfold release at h ⊢
  split
  · rfl
  · rename_i lease heq
    simp only [heq] at h
    split
    · rfl
    · rename_i hid
      rw [if_neg hid] at h
      split at h <;> simp at h

/-- A release touches no name but that of the class. -/
theorem get?_release_of_ne {t : LeaseTable} {object : Loaded} {other : String}
    (h : other ≠ object.decl.name) : (t.release object).2.get? other = t.get? other := by
  unfold release
  split
  · rfl
  · split
    · rfl
    · split
      · exact (OrderedMap.get?_insert _ _ _ _).trans (if_neg h)
      · exact (OrderedMap.get?_erase _ _ _).trans (if_neg h)

end LeaseTable

end JvmDeps
