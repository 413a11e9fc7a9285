import JvmDeps.Proofs.ClassFile.ErrorClosure

set_option autoImplicit false

/-! # Passing over a value of an annotation

A value is read by a recursion whose loops run as often as the bytes say. `ElementValue.level` is
one level of it, with the recursion left open. What a level does on some bytes rests only on what
the recursion does on proper suffixes of them (`level_eq_readAll`), so that it comes to an end
whatever the counts say: `ElementValue.readAll` is the only parser that satisfies it
(`eq_readAll_of_level_eq`).

A host lets the recursion go down some levels only. Up to them it does the same
(`readWithin_eq_readAll_or`), and beyond them it comes to nothing.

The main statement, `ElementValue.read_passes_one_value`, adds what is used up: exactly the bytes of
one value, and those of every value that can be written and is within the depth. A reader with a
cursor does the same wherever in the bytes the cursor stands. A value that is deeper is not passed
over (`ElementValue.skipWithin_deep`).
-/

namespace JvmDeps.Parser

variable {ε α β : Type}

/-! ## Parsers that agree from some point on -/

/-- What the parser leaves is the end of what it was given. -/
def Forward (p : Parser ε α) : Prop :=
  ∀ ⦃s a rest⦄, p s = .ok (a, rest) → rest <:+ s

/-- The parsers do the same on some bytes and on every end of them. -/
def AgreeFrom (s : Bytes) (p q : Parser ε α) : Prop :=
  ∀ t, t <:+ s → p t = q t

theorem agreeFrom_refl (s : Bytes) (p : Parser ε α) : AgreeFrom s p p := fun _ _ => rfl

theorem ReadsOnly.forward {p : Parser ε α} {row : α → Bytes} {P : α → Prop}
    (h : p.ReadsOnly row P) : p.Forward := by
  intro s a rest hs
  rw [(h hs).1]
  exact List.suffix_append (row a) rest

theorem forward_u2 : (u2 : Parser ε UInt16).Forward := by
  intro s n rest hs
  rw [eq_of_u2 hs]
  exact List.suffix_append (bytes2 n) rest

/-- Sequences agree from where their first parts do, as long as these go forward. -/
theorem AgreeFrom.bind {s : Bytes} {p q : Parser ε α} {f g : α → Parser ε β} (hp : p.Forward)
    (h : AgreeFrom s p q) (hfg : ∀ a, AgreeFrom s (f a) (g a)) :
    AgreeFrom s (p >>= f) (q >>= g) := by
  intro t ht
  simp only [Bind.bind, ← h t ht]
  cases hread : p t with
  | error stop => rfl
  | ok read =>
      obtain ⟨a, rest⟩ := read
      exact hfg a rest ((hp hread).trans ht)

theorem AgreeFrom.times {s : Bytes} {p q : Parser ε α} (hp : p.Forward) (h : AgreeFrom s p q)
    (n : Nat) : AgreeFrom s (times n p) (times n q) := by
  induction n with
  | zero => exact fun _ _ => rfl
  | succ n ih =>
      rw [times_succ, times_succ]
      refine h.bind hp fun a t ht => ?_
      -- the rows behind the first are read alike
      simp only [Bind.bind, ih t ht]

/-- Tables agree from where their rows do. -/
theorem AgreeFrom.counted {s : Bytes} {p q : Parser ε α} (hp : p.Forward) (h : AgreeFrom s p q) :
    AgreeFrom s (counted p) (counted q) :=
  (agreeFrom_refl s u2).bind forward_u2 fun n => h.times hp n.toNat

/-! ## Parsers that agree as long as the depth suffices -/

/-- Wherever the first parser does not come to the end of its depth, the second does the same. -/
def Extends (p q : Parser ε α) : Prop :=
  ∀ s, p s ≠ .error .tooDeep → q s = p s

theorem extends_refl (p : Parser ε α) : Extends p p := fun _ _ => rfl

theorem Extends.bind {p q : Parser ε α} {f g : α → Parser ε β} (h : Extends p q)
    (hfg : ∀ a, Extends (f a) (g a)) : Extends (p >>= f) (q >>= g) := by
  intro s hs
  have hfirst : p s ≠ .error .tooDeep := fun herror => hs (bind_apply_of_error herror)
  have hsame := h s hfirst
  cases hp : p s with
  | error stop => rw [bind_apply_of_error hp, bind_apply_of_error (hsame.trans hp)]
  | ok read =>
      obtain ⟨a, rest⟩ := read
      rw [bind_apply_of_ok hp] at hs ⊢
      rw [bind_apply_of_ok (hsame.trans hp)]
      exact hfg a rest hs

theorem Extends.times {p q : Parser ε α} (h : Extends p q) (n : Nat) :
    Extends (times n p) (times n q) := by
  induction n with
  | zero => exact extends_refl _
  | succ n ih =>
      rw [times_succ, times_succ]
      exact h.bind fun a => ih.bind fun l => extends_refl _

theorem Extends.counted {p q : Parser ε α} (h : Extends p q) :
    Extends (counted p) (counted q) :=
  (extends_refl u2).bind fun n => h.times n.toNat

end JvmDeps.Parser

namespace JvmDeps.ClassFile

open JvmDeps.Parser

namespace ElementValue

/-! ## The recursion -/

/-- The values in a value start behind its tag: a level does the same with parsers that agree
there. -/
theorem level_cons_congr {p q : Parser Cause ElementValue} {tag : UInt8} {s : Bytes}
    (hp : p.Forward) (h : AgreeFrom s p q) : level p (tag :: s) = level q (tag :: s) := by
  have hpair : (readPair p).Forward := by
    intro t a rest hread
    simp only [readPair, bind_apply_eq_ok_iff, pure_apply_eq_ok_iff] at hread
    obtain ⟨nameIndex, mid, hindex, v, last, hv, rfl, rfl⟩ := hread
    exact (hp hv).trans (forward_u2 hindex)
  have hpairs : AgreeFrom s (readPair p) (readPair q) := by
    refine (agreeFrom_refl s u2).bind forward_u2 fun nameIndex => ?_
    exact h.bind hp fun v => agreeFrom_refl s _
  have hnested := hpairs.counted hpair
  have harray := h.counted hp
  show (u1 >>= _) ([tag] ++ s) = (u1 >>= _) ([tag] ++ s)
  rw [(reads_u1 tag).bind_apply, (reads_u1 tag).bind_apply]
  -- only two kinds of values hold others
  split
  · rfl
  split
  · rfl
  split
  · rfl
  split
  · refine ((agreeFrom_refl s u2).bind forward_u2 fun typeIndex t ht => ?_) s (List.suffix_refl s)
    simp only [Bind.bind, hnested t ht]
  split
  · simp only [Bind.bind, harray s (List.suffix_refl s)]
  · rfl

/-- A level does the same with parsers that do, as long as the depth suffices. -/
theorem level_extends {p q : Parser Cause ElementValue} (h : Extends p q) :
    Extends (level p) (level q) := by
  refine (extends_refl u1).bind fun tag => ?_
  split
  · exact extends_refl _
  split
  · exact extends_refl _
  split
  · exact extends_refl _
  split
  · have hpair : Extends (readPair p) (readPair q) :=
      (extends_refl u2).bind fun nameIndex => h.bind fun v => extends_refl _
    exact (extends_refl u2).bind fun typeIndex => hpair.counted.bind fun pairs => extends_refl _
  split
  · exact h.counted.bind fun values => extends_refl _
  · exact extends_refl _

/-- A greater depth changes nothing where a smaller one suffices. -/
theorem readWithin_extends {depth depth' : Nat} (h : depth ≤ depth') :
    Extends (readWithin depth) (readWithin depth') := by
  induction depth generalizing depth' with
  | zero => exact fun s hs => absurd rfl hs
  | succ depth ih =>
      obtain ⟨depth', rfl⟩ : ∃ d, depth' = d + 1 := ⟨depth' - 1, by omega⟩
      exact level_extends (ih (Nat.le_of_succ_le_succ h))

/-- Reads a value of any depth: no value is nested deeper than there are bytes. -/
def readAll : Parser Cause ElementValue := fun s => readWithin (s.length + 1) s

theorem readWithin_ne_tooDeep {depth : Nat} {s : Bytes} (h : s.length < depth) :
    readWithin depth s ≠ .error .tooDeep := by
  intro hdeep
  have hlength := (readWithin_eq_tooDeep_iff.mp hdeep).length_le
  omega

/-- A depth of more than the number of bytes is never felt. -/
theorem readWithin_eq_readAll {depth : Nat} {s : Bytes} (h : s.length < depth) :
    readWithin depth s = readAll s :=
  readWithin_extends h s (readWithin_ne_tooDeep (Nat.lt_succ_self _))

/-- **Within a depth, the recursion does what it does without one**, or comes to the end of the
depth. -/
theorem readWithin_eq_readAll_or (depth : Nat) (s : Bytes) :
    readWithin depth s = readAll s ∨ readWithin depth s = .error .tooDeep := by
  refine or_iff_not_imp_right.mpr fun hsuffices => ?_
  have hmore := readWithin_extends (Nat.le_add_right depth (s.length + 1)) s hsuffices
  rw [← hmore]
  exact readWithin_eq_readAll (by omega)

/-- **Reading a value recurs only on proper suffixes.** A level gives what the recursion gives if
the values in it are read as the recursion does on every proper suffix of the bytes, and however
they would be read elsewhere. -/
theorem level_eq_readAll {value : Parser Cause ElementValue} {s : Bytes}
    (h : ∀ t, t <:+ s → t ≠ s → value t = readAll t) : level value s = readAll s := by
  cases s with
  | nil => rw [level_nil]; rfl
  | cons tag s =>
      have hagree : AgreeFrom s (readWithin (s.length + 1)) value := by
        intro t ht
        have hlength := ht.length_le
        have hproper : t ≠ tag :: s := by
          rintro rfl
          rw [List.length_cons] at hlength
          omega
        rw [h t (ht.trans (List.suffix_cons tag s)) hproper]
        exact readWithin_eq_readAll (Nat.lt_succ_of_le hlength)
      exact (level_cons_congr (readsOnly_readWithin _).forward hagree).symm

/-- The unbounded reader satisfies the recursion, and nothing else does. -/
theorem eq_readAll_of_level_eq {value : Parser Cause ElementValue} (h : level value = value) :
    value = readAll := by
  funext s
  induction hsize : s.length using Nat.strongRecOn generalizing s with
  | ind size ih =>
      rw [← congrFun h s]
      apply level_eq_readAll
      intro t ht hproper
      have hless : t.length < s.length :=
        Nat.lt_of_le_of_ne ht.length_le fun heq => hproper (ht.eq_of_length heq)
      exact ih t.length (hsize ▸ hless) t rfl

/-! ## What is used up -/

/-- A value is read off exactly where the bytes start with one that is within the depth. -/
theorem readWithin_eq_ok_iff {depth : Nat} {s rest : Bytes} {v : ElementValue} :
    readWithin depth s = .ok (v, rest) ↔
      v.WellFormed ∧ v.levels ≤ depth ∧ s = v.bytes ++ rest := by
  constructor
  · intro h
    obtain ⟨hs, hwf, hlevels⟩ := readsOnly_readWithin depth h
    exact ⟨hwf, hlevels, hs⟩
  · rintro ⟨hwf, hlevels, rfl⟩
    exact reads_readWithin hwf hlevels rest

end ElementValue

/-- The cursor behind the bytes `front`, with `rest` still to be read. -/
def Cursor.between (source : String) (front rest : Bytes) : Cursor :=
  ⟨front ++ rest, source, front.length⟩

theorem Cursor.rest_between (source : String) (front rest : Bytes) :
    (Cursor.between source front rest).rest = rest := by
  rw [Cursor.rest, Cursor.between, List.drop_left' rfl]

/-- A cursor that has moved forward stands behind what it has passed over. -/
theorem Cursor.Before.eq_between {source : String} {front used rest : Bytes} {d : Cursor}
    (h : (Cursor.between source front (used ++ rest)).Before d) (hrest : d.rest = rest) :
    d = .between source (front ++ used) rest := by
  have hdata : d.data = front ++ used ++ rest := by
    rw [h.data, List.append_assoc]
    rfl
  have hposition : d.position = (front ++ used).length := by
    have hlength := congrArg List.length hrest
    have hinside := h.inside
    rw [Cursor.rest, List.length_drop, hdata, List.length_append] at hlength
    rw [hdata, List.length_append] at hinside
    omega
  have hsource : d.source = source := h.source
  obtain ⟨data, label, position⟩ := d
  subst hdata hposition hsource
  rfl

theorem Cursor.within_between (source : String) (front rest : Bytes) :
    (Cursor.between source front rest).Within source := by
  refine ⟨rfl, ?_⟩
  show front.length ≤ (front ++ rest).length
  rw [List.length_append]
  exact Nat.le_add_right _ _

/-- A step that follows a parser moves a cursor over the bytes that the parser reads. -/
theorem Follows.of_reads {α β : Type} {source : String} {R : α → β → Prop} {q : Reading α}
    {p : Parser Cause β} {used : Bytes} {b : β} (h : Follows source R q p) (hp : p.Reads used b)
    (front rest : Bytes) :
    ∃ a, q (.between source front (used ++ rest)) =
      .ok (a, .between source (front ++ used) rest) ∧ R a b := by
  have hread : p (Cursor.between source front (used ++ rest)).rest = .ok (b, rest) := by
    rw [Cursor.rest_between]
    exact hp rest
  obtain ⟨a, d, hq, hbefore, hrest, hR⟩ := h.ok (Cursor.within_between source front _) hread
  rw [hbefore.eq_between hrest] at hq
  exact ⟨a, hq, hR⟩

/-- A value that is deeper than the depth is not passed over. -/
theorem Tables.skipWithin_of_opens {depth : Nat} {s : Bytes} (h : ElementValue.Opens depth s)
    (source : String) (front : Bytes) :
    skipWithin depth (.between source front s) = .error .tooDeep := by
  have hread : ElementValue.readWithin depth (Cursor.between source front s).rest =
      .error .tooDeep := by
    rw [Cursor.rest_between]
    exact ElementValue.readWithin_eq_tooDeep_iff.mpr h
  exact (follows_skipWithin depth).error (Cursor.within_between _ _ _) hread

/-- **Reading passes over exactly one value, within the depth.** On every sequence of bytes the
recursion goes on with proper suffixes only, so it ends, and only one parser satisfies it. A reader
that can go down `depth` levels does the same, or comes to the end of its depth: this happens
exactly on those bytes that open more values inside one another. It succeeds exactly on the bytes of
one value of at most so many levels, followed by anything, and leaves what follows.

A reader that moves a cursor, at any position in any bytes, stands behind the value afterwards if
the bytes there start with one that is within the depth, comes to the end of its depth if they open
more than that, and otherwise refuses the bytes under their label. -/
theorem ElementValue.read_passes_one_value (depth : Nat) (s : Bytes) :
    (∀ value : Parser Cause ElementValue,
      (∀ t, t <:+ s → t ≠ s → value t = readAll t) → level value s = readAll s) ∧
    (∀ value : Parser Cause ElementValue, level value = value ↔ value = readAll) ∧
    (readWithin depth s = readAll s ∨ readWithin depth s = .error .tooDeep) ∧
    (readWithin depth s = .error .tooDeep ↔ Opens depth s) ∧
    (∀ v rest, readWithin depth s = .ok (v, rest) ↔
      v.WellFormed ∧ v.levels ≤ depth ∧ s = v.bytes ++ rest) ∧
    ∀ source front,
      (∀ (v : ElementValue) (rest : Bytes), v.WellFormed → s = v.bytes ++ rest →
        (v.levels ≤ depth → Tables.skipWithin depth (.between source front s) =
          .ok ((), .between source (front ++ v.bytes) rest)) ∧
        (¬ v.levels ≤ depth →
          Tables.skipWithin depth (.between source front s) = .error .tooDeep)) ∧
      ((∃ (v : ElementValue) (rest : Bytes),
          v.WellFormed ∧ v.levels ≤ depth ∧ s = v.bytes ++ rest) ∨
        (∃ reason,
          Tables.skipWithin depth (.between source front s) = .error (.refused source reason)) ∨
        (Opens depth s ∧
          Tables.skipWithin depth (.between source front s) = .error .tooDeep)) := by
  refine ⟨fun value h => level_eq_readAll h, fun value => ⟨eq_readAll_of_level_eq, ?_⟩,
    readWithin_eq_readAll_or depth s, readWithin_eq_tooDeep_iff, fun v rest => readWithin_eq_ok_iff,
    fun source front => ⟨?_, ?_⟩⟩
  · rintro rfl
    funext s
    exact level_eq_readAll fun _ _ _ => rfl
  · rintro v rest hwf rfl
    constructor
    · intro hlevels
      obtain ⟨⟨⟩, hskip, -⟩ := (Tables.follows_skipWithin depth).of_reads
        (reads_readWithin hwf hlevels) front rest
      exact hskip
    · intro hdeep
      have hopens := readWithin_eq_tooDeep_iff.mp (stops_readWithin hwf hdeep rest)
      exact Tables.skipWithin_of_opens hopens source front
  · -- what stops the parser refuses the bytes, unless the depth is exceeded
    cases hread : readWithin depth s with
    | ok result =>
        obtain ⟨v, rest⟩ := result
        exact Or.inl ⟨v, rest, readWithin_eq_ok_iff.mp hread⟩
    | error stop =>
        have hstop := hread
        rw [← Cursor.rest_between source front s] at hread
        have hskip := (Tables.follows_skipWithin depth).error (Cursor.within_between _ _ _) hread
        cases stop with
        | short need left => exact Or.inr (Or.inl ⟨_, hskip⟩)
        | refused cause => exact Or.inr (Or.inl ⟨_, hskip⟩)
        | tooDeep => exact Or.inr (Or.inr ⟨readWithin_eq_tooDeep_iff.mp hstop, hskip⟩)

/-- **A value can be too deep to be passed over**: a thousand levels are not enough for a number in
a thousand arrays. -/
theorem ElementValue.skipWithin_deep : deepValue.WellFormed ∧
    Tables.skipWithin 1000 (.between "deep" [] deepValue.bytes) = .error .tooDeep := by
  have hdeep : ¬ deepValue.levels ≤ 1000 := by
    rw [deepValue_levels]
    decide
  have hopens := readWithin_eq_tooDeep_iff.mp (stops_readWithin deepValue_wellFormed hdeep [])
  rw [List.append_nil] at hopens
  exact ⟨deepValue_wellFormed, Tables.skipWithin_of_opens hopens "deep" []⟩

end JvmDeps.ClassFile
