import JvmDeps.Fault
import JvmDeps.Lease.Table

set_option autoImplicit false

/-! # Runs of lease operations

A script takes and gives back classes one step at a time. While a step loads a class, other steps
may run: this is how two loads of one class can overtake each other.
-/

namespace JvmDeps.Lease

/-- A step of a script. -/
inductive Step where
  /-- Takes the class of a name. If it has to be loaded, the steps of `during` run meanwhile; then
  the load fails, or gives `loaded`. -/
  | acquire (name : String) (loaded : Loaded) (during : List Step) (fails : Option Fault)
  | release (object : Loaded)
  | isLeased (name : String)
deriving Inhabited

mutual

/-- What a step comes to. -/
inductive Answer where
  /-- The object that was taken and, if it had to be loaded, the replies of the steps that ran
  meanwhile. -/
  | acquired (object : Loaded) (during : Option (List Reply))
  | flag (b : Bool)

/-- The reply to a step: what it came to, and the leases that are open after it. -/
inductive Reply where
  | reply (result : Except Fault Answer) (table : LeaseTable)

end

mutual

/-- Runs a step. -/
def Step.run (t : LeaseTable) : Step → Reply × LeaseTable
  | .acquire name loaded during fails =>
    match t.bump name with
    | some (object, t) => (.reply (.ok (.acquired object none)) t, t)
    | none =>
      match runAll t during with
      | (replies, t) =>
        match fails with
        | some fault => (.reply (.error fault) t, t)
        | none =>
          match t.commit name loaded with
          | (object, t) => (.reply (.ok (.acquired object (some replies))) t, t)
  | .release object =>
    match t.release object with
    | (released, t) => (.reply (.ok (.flag released)) t, t)
  | .isLeased name => (.reply (.ok (.flag (t.isLeased name))) t, t)

/-- Runs steps one after the other. -/
def runAll (t : LeaseTable) : List Step → List Reply × LeaseTable
  | [] => ([], t)
  | step :: steps =>
    match step.run t with
    | (reply, t) =>
      match runAll t steps with
      | (replies, t) => (reply :: replies, t)

end

end JvmDeps.Lease
