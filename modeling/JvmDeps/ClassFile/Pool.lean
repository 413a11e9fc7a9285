import JvmDeps.ClassFile.Constant

set_option autoImplicit false

/-! # Constant pools

The constants of a class file stand in numbered slots. Slot 0 holds none, a wide constant takes two
slots of which the second holds none, and every other constant takes one. A `Pool` is this row of
slots; `Pool.text` and `Pool.className` look a text and the name of a class up in it.
-/

namespace JvmDeps.ClassFile

/-- The slots of a constant pool. -/
structure Pool where
  slots : Array (Option Constant)

namespace Pool

/-- The slots of a row of constants. -/
def ofConstants (constants : List Constant) : Pool :=
  ⟨(none :: constants.flatMap Constant.slots).toArray⟩

/-- The constant of a slot. -/
def get? (pool : Pool) (index : UInt16) : Option Constant :=
  pool.slots[index.toNat]?.join

/-- The text at an index. -/
def text (pool : Pool) (index : UInt16) : Except Cause String :=
  match pool.get? index with
  | some (.text _ value) => .ok value
  | some c => .error (.wrongKind index.toNat c.word Constant.textWord)
  | none => .error (.unusable index.toNat)

/-- The name of the class at an index. -/
def className (pool : Pool) (index : UInt16) : Except Cause String :=
  match pool.get? index with
  | some (.classRef nameIndex) => pool.text nameIndex
  | some c => .error (.wrongKind index.toNat c.word Constant.classWord)
  | none => .error (.unusable index.toNat)

/-- The results of `f` on a list, in order, up to the first failure. -/
def collect {α β : Type} (f : α → Except Cause β) : List α → Except Cause (List β)
  | [] => .ok []
  | a :: l => do
    let b ← f a
    let bs ← collect f l
    return b :: bs

/-- The index of the name of a constant, if it is a class. -/
def nameIndex? : Constant → Option UInt16
  | .classRef nameIndex => some nameIndex
  | _ => none

/-- The names of all classes among the constants, each once, in the order of the slots. -/
def classNames (pool : Pool) (constants : List Constant) : Except Cause (List String) :=
  (collect pool.text (constants.filterMap nameIndex?)).map List.eraseDups

end Pool

/-- Reads the constants of `left` slots, the first of which is slot `index`; if `skip` is set, it is
the second slot of a wide constant. The constants so far are in `acc`, in reverse order. -/
def readConstantsOnto : (left : Nat) → (index : Nat) → (skip : Bool) → List Constant →
    Parser Cause (List Constant)
  | 0, _, _, acc, s => .ok (acc.reverse, s)
  | left + 1, index, true, acc, s => readConstantsOnto left (index + 1) false acc s
  | left + 1, index, false, acc, s =>
    match Constant.read index s with
    | .error e => .error e
    | .ok (c, s) => readConstantsOnto left (index + 1) c.isWide (c :: acc) s

/-- Reads the constants of a pool whose slots, slot 0 included, number `count`. -/
def readConstants (count : UInt16) : Parser Cause (List Constant) :=
  readConstantsOnto (count.toNat - 1) 1 false []

end JvmDeps.ClassFile
