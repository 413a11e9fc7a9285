import JvmDeps.Data.OrderedMap
import JvmDeps.Data.SortedSet
import JvmDeps.Dependency.Table

set_option autoImplicit false

/-! # Batches

What the extraction of several classes came to, in the order of the request. A batch draws an edge
from every class that succeeded to each of its dependencies.
-/

namespace JvmDeps

/-- A class depends on another. -/
structure Edge where
  source : String
  target : String
deriving DecidableEq, Repr

namespace Edge

/-- Edges are ordered by source, then by target. -/
instance : Ord Edge where
  compare := compareLex (compareOn source) (compareOn target)

instance : Std.TransOrd Edge :=
  inferInstanceAs (Std.TransCmp (compareLex (compareOn source) (compareOn target)))

instance : Std.LawfulEqOrd Edge where
  compare_self {e} := by
    change compareLex (compareOn source) (compareOn target) e e = .eq
    simp [compareLex, compareOn, Std.ReflCmp.compare_self]
  eq_of_compare {e f} h := by
    change compareLex (compareOn source) (compareOn target) e f = .eq at h
    rw [compareLex, Ordering.then_eq_eq] at h
    cases e
    cases f
    exact congr (congrArg Edge.mk (Std.LawfulEqCmp.eq_of_compare h.1))
      (Std.LawfulEqCmp.eq_of_compare h.2)

end Edge

/-- What each class came to, in the order of the request. -/
structure Batch where
  outcomes : OrderedMap String (Except Fault DependencyTable)

namespace Batch

/-- The classes that succeeded, with their tables. -/
def succeeded (b : Batch) : OrderedMap String DependencyTable :=
  b.outcomes.filterMapValues Except.toOption

/-- The classes that failed, with their faults. -/
def failed (b : Batch) : OrderedMap String Fault :=
  b.outcomes.filterMapValues fun
    | .ok _ => none
    | .error e => some e

/-- No class failed. -/
def passed (b : Batch) : Bool := b.failed.entries.isEmpty

/-- From every class that succeeded to each of its dependencies. -/
def edges (b : Batch) : SortedSet Edge :=
  .ofList <| b.succeeded.values.flatMap fun t => t.merged.toList.map (Edge.mk t.className)

end Batch

end JvmDeps
