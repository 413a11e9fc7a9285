set_option autoImplicit false

/-! # Reading bytes

A `Parser` takes what it wants from the front of a list of bytes and leaves the rest. It stops
because too few bytes are left, because it refuses what it has read, with a cause of type `ε`, or,
if it recurs, because it has come to the depth that its host allows. Numbers are written with the
most significant byte first; `bytes2` and `bytes4` write what `u2` and `u4` read.
-/

namespace JvmDeps

/-- A sequence of bytes. -/
abbrev Bytes := List UInt8

/-- Why a parser stops. -/
inductive Stop (ε : Type) where
  /-- It needed some number of bytes and fewer were left. -/
  | short (need left : Nat)
  | refused (cause : ε)
  /-- It would have to recur deeper than it can. -/
  | tooDeep
deriving DecidableEq, Repr

/-- Takes a value from the front of a sequence of bytes and leaves the rest. -/
def Parser (ε α : Type) : Type := Bytes → Except (Stop ε) (α × Bytes)

namespace Parser

variable {ε α β : Type}

instance : Monad (Parser ε) where
  pure a := fun s => .ok (a, s)
  bind p f := fun s =>
    match p s with
    | .error e => .error e
    | .ok (a, s) => f a s

/-- Refuses what has been read. -/
def refuse (cause : ε) : Parser ε α := fun _ => .error (.refused cause)

/-- Goes on with a result, or refuses with its cause. -/
def ofExcept (x : Except ε α) : Parser ε α := fun s =>
  match x with
  | .error cause => .error (.refused cause)
  | .ok a => .ok (a, s)

/-- The next byte. -/
def u1 : Parser ε UInt8
  | [] => .error (.short 1 0)
  | a :: s => .ok (a, s)

/-- The next two bytes as a number. -/
def u2 : Parser ε UInt16
  | a :: b :: s => .ok (UInt16.ofNat (a.toNat * 256 + b.toNat), s)
  | s => .error (.short 2 s.length)

/-- The next four bytes as a number. -/
def u4 : Parser ε UInt32
  | a :: b :: c :: d :: s =>
    .ok (UInt32.ofNat (((a.toNat * 256 + b.toNat) * 256 + c.toNat) * 256 + d.toNat), s)
  | s => .error (.short 4 s.length)

/-- The next `n` bytes. -/
def take (n : Nat) : Parser ε Bytes := fun s =>
  let front := s.take n
  if front.length = n then .ok (front, s.drop n) else .error (.short n s.length)

/-- `n` values in front of those in `acc`, which is in reverse order. -/
def timesOnto (p : Parser ε α) : Nat → List α → Parser ε (List α)
  | 0, acc, s => .ok (acc.reverse, s)
  | n + 1, acc, s =>
    match p s with
    | .error e => .error e
    | .ok (a, s) => timesOnto p n (a :: acc) s

/-- `n` values, one after the other. -/
def times (n : Nat) (p : Parser ε α) : Parser ε (List α) := timesOnto p n []

/-- A two-byte count and that many values. -/
def counted (p : Parser ε α) : Parser ε (List α) := do
  let n ← u2
  times n.toNat p

theorem map_apply (f : α → β) (p : Parser ε α) (s : Bytes) :
    (f <$> p) s = match p s with
      | .error e => .error e
      | .ok (a, s) => .ok (f a, s) := rfl

theorem timesOnto_eq (p : Parser ε α) (n : Nat) (acc : List α) :
    timesOnto p n acc = (fun l => acc.reverse ++ l) <$> times n p := by
  induction n generalizing acc with
  | zero =>
    funext s
    rw [map_apply]
    simp [times, timesOnto]
  | succ n ih =>
    funext s
    rw [map_apply]
    simp only [times, timesOnto]
    cases p s with
    | error e => rfl
    | ok r =>
      simp only [ih, map_apply]
      cases times n p r.2 with
      | error e => rfl
      | ok q => simp

/-- Reading one value more is reading one value in front. -/
theorem times_succ (p : Parser ε α) (n : Nat) :
    times (n + 1) p = (do let a ← p; let l ← times n p; pure (a :: l)) := by
  funext s
  change timesOnto p (n + 1) [] s = _
  simp only [timesOnto, bind, pure]
  cases p s with
  | error e => rfl
  | ok r =>
    simp only [timesOnto_eq, map_apply]
    cases times n p r.2 <;> rfl

end Parser

/-- The two bytes of a number. -/
def bytes2 (n : UInt16) : Bytes :=
  [UInt8.ofNat (n.toNat / 256), UInt8.ofNat (n.toNat % 256)]

/-- The four bytes of a number. -/
def bytes4 (n : UInt32) : Bytes :=
  [UInt8.ofNat (n.toNat / 256 / 256 / 256), UInt8.ofNat (n.toNat / 256 / 256 % 256),
    UInt8.ofNat (n.toNat / 256 % 256), UInt8.ofNat (n.toNat % 256)]

namespace Parser

variable {ε : Type}

/-- A written two-byte number is read back. -/
theorem u2_bytes2 (n : UInt16) (rest : Bytes) :
    (u2 (bytes2 n ++ rest) : Except (Stop ε) (UInt16 × Bytes)) = .ok (n, rest) := by
  have h := n.toNat_lt
  simp only [bytes2, List.cons_append, List.nil_append, u2, Except.ok.injEq, Prod.mk.injEq,
    and_true]
  apply UInt16.toNat_inj.1
  simp only [UInt8.toNat_ofNat', UInt16.toNat_ofNat']
  omega

/-- A written four-byte number is read back. -/
theorem u4_bytes4 (n : UInt32) (rest : Bytes) :
    (u4 (bytes4 n ++ rest) : Except (Stop ε) (UInt32 × Bytes)) = .ok (n, rest) := by
  have h := n.toNat_lt
  simp only [bytes4, List.cons_append, List.nil_append, u4, Except.ok.injEq, Prod.mk.injEq,
    and_true]
  apply UInt32.toNat_inj.1
  simp only [UInt8.toNat_ofNat', UInt32.toNat_ofNat']
  omega

end Parser

end JvmDeps
