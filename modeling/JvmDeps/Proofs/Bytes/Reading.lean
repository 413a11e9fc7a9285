import JvmDeps.ClassFile.Layout

set_option autoImplicit false

/-! # What a parser reads

`p.Reads s a` says that the parser `p` takes exactly the bytes `s` from the front of any input that
starts with them, and gives `a`. A parser that is put together from others is run on a written
record part by part: `Reads.bind_apply` passes over the bytes of the part in front.

The main statements are those for repeated parts: `times` reads the rows of a list one after the
other, and `counted` reads a table with its length in front (`reads_counted`).

`p.Stops s e` says that `p` does not get through the bytes `s`, whatever follows them: it stops with
`e`. A table stops if one of its rows does (`stops_counted`).
-/

namespace JvmDeps.Parser

variable {ε α β : Type}

/-- The parser takes exactly these bytes, whatever comes after them, and gives this value. -/
def Reads (p : Parser ε α) (s : Bytes) (a : α) : Prop :=
  ∀ rest, p (s ++ rest) = .ok (a, rest)

/-! ## Sequences -/

theorem bind_apply_of_ok {p : Parser ε α} {f : α → Parser ε β} {s rest : Bytes} {a : α}
    (h : p s = .ok (a, rest)) : (p >>= f) s = f a rest := by
  simp only [bind, h]

/-- The part in front is read off, and the others go on behind it. -/
theorem Reads.bind_apply {p : Parser ε α} {f : α → Parser ε β} {s : Bytes} {a : α}
    (h : p.Reads s a) (rest : Bytes) : (p >>= f) (s ++ rest) = f a rest :=
  bind_apply_of_ok (h rest)

theorem pure_apply (a : α) (s : Bytes) : (pure a : Parser ε α) s = .ok (a, s) := rfl

theorem bind_pure_eq (p : Parser ε α) : (p >>= pure) = p := by
  funext s
  simp only [bind]
  cases p s <;> rfl

/-- A look-up that succeeds takes nothing. -/
theorem bind_ofExcept_apply {x : Except ε α} {f : α → Parser ε β} {a : α} (h : x = .ok a)
    (s : Bytes) : (ofExcept x >>= f) s = f a s := by
  apply bind_apply_of_ok
  rw [h]
  rfl

/-! ## Numbers and chunks -/

theorem reads_u1 (b : UInt8) : (u1 : Parser ε UInt8).Reads [b] b := fun _ => rfl

theorem reads_u2 (n : UInt16) : (u2 : Parser ε UInt16).Reads (bytes2 n) n := u2_bytes2 n

theorem reads_u4 (n : UInt32) : (u4 : Parser ε UInt32).Reads (bytes4 n) n := u4_bytes4 n

theorem reads_take {n : Nat} {s : Bytes} (h : s.length = n) :
    (take n : Parser ε Bytes).Reads s s := by
  intro rest
  subst h
  simp [take]

/-! ## Repetition -/

theorem reads_times {p : Parser ε α} {row : α → Bytes} {rows : List α}
    (h : ∀ a ∈ rows, p.Reads (row a) a) : (times rows.length p).Reads (rows.flatMap row) rows := by
  induction rows with
  | nil =>
      intro rest
      rfl
  | cons a rows ih =>
      intro rest
      obtain ⟨ha, hrows⟩ := List.forall_mem_cons.mp h
      rw [List.length_cons, times_succ, List.flatMap_cons, List.append_assoc, ha.bind_apply,
        (ih hrows).bind_apply, pure_apply]

/-- **A table is read row by row.** -/
theorem reads_counted {p : Parser ε α} {row : α → Bytes} {rows : List α}
    (hfit : rows.length < 65536) (h : ∀ a ∈ rows, p.Reads (row a) a) :
    (counted p).Reads (ClassFile.tableBytes row rows) rows := by
  intro rest
  rw [counted, ClassFile.tableBytes, List.append_assoc, (reads_u2 _).bind_apply,
    UInt16.toNat_ofNat_of_lt' hfit]
  exact reads_times h rest

/-! ## Parsers that stop -/

/-- The parser stops within these bytes, whatever comes after them. -/
def Stops (p : Parser ε α) (s : Bytes) (e : Stop ε) : Prop :=
  ∀ rest, p (s ++ rest) = .error e

theorem bind_apply_of_error {p : Parser ε α} {f : α → Parser ε β} {s : Bytes} {e : Stop ε}
    (h : p s = .error e) : (p >>= f) s = .error e := by
  simp only [bind, h]

theorem Stops.bind {p : Parser ε α} {s : Bytes} {e : Stop ε} (h : p.Stops s e)
    (f : α → Parser ε β) : (p >>= f).Stops s e :=
  fun rest => bind_apply_of_error (h rest)

/-- Behind a part that is read, the next one stops the whole. -/
theorem Reads.bind_stops {p : Parser ε α} {f : α → Parser ε β} {s t : Bytes} {a : α} {e : Stop ε}
    (h : p.Reads s a) (hf : (f a).Stops t e) : (p >>= f).Stops (s ++ t) e := by
  intro rest
  rw [List.append_assoc, h.bind_apply, hf rest]

theorem Stops.append {p : Parser ε α} {s : Bytes} {e : Stop ε} (h : p.Stops s e) (t : Bytes) :
    p.Stops (s ++ t) e := by
  intro rest
  rw [List.append_assoc, h]

theorem stops_times {p : Parser ε α} {row : α → Bytes} {rows : List α} {e : Stop ε}
    {good : α → Prop} (hread : ∀ a ∈ rows, good a → p.Reads (row a) a)
    (hstop : ∀ a ∈ rows, ¬ good a → p.Stops (row a) e) (hbad : ¬ ∀ a ∈ rows, good a) :
    (times rows.length p).Stops (rows.flatMap row) e := by
  induction rows with
  | nil => simp at hbad
  | cons a rows ih =>
      obtain ⟨haread, hread⟩ := List.forall_mem_cons.mp hread
      obtain ⟨hastop, hstop⟩ := List.forall_mem_cons.mp hstop
      rw [List.forall_mem_cons] at hbad
      rw [List.length_cons, times_succ, List.flatMap_cons]
      by_cases ha : good a
      · exact (haread ha).bind_stops ((ih hread hstop fun h => hbad ⟨ha, h⟩).bind _)
      · exact ((hastop ha).bind _).append _

/-- **A table stops with a row**: with the first that is not good, if good rows are read and others
stop. -/
theorem stops_counted {p : Parser ε α} {row : α → Bytes} {rows : List α} {e : Stop ε}
    {good : α → Prop} (hfit : rows.length < 65536)
    (hread : ∀ a ∈ rows, good a → p.Reads (row a) a)
    (hstop : ∀ a ∈ rows, ¬ good a → p.Stops (row a) e) (hbad : ¬ ∀ a ∈ rows, good a) :
    (counted p).Stops (ClassFile.tableBytes row rows) e := by
  apply (reads_u2 _).bind_stops
  rw [UInt16.toNat_ofNat_of_lt' hfit]
  exact stops_times hread hstop hbad

end JvmDeps.Parser
