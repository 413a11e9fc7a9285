import JvmDeps.ClassFile.Declaration
import JvmDeps.Proofs.Bytes.Accepting

set_option autoImplicit false

/-! # Reading with a cursor

A second way to read bytes, in which whatever can go wrong does so openly. A `Cursor` is a position
in bytes that have a label. A step (`Reading`) moves it and gives a value, or is interrupted
(`Interrupt`): it refuses the bytes under their label, or one of the operations it rests on fails,
such as a look-up in a table or the unpacking of a chunk.

`Follows` compares a step with a parser. A step that follows a parser gives what the parser gives,
moves the cursor to where the parser stops, and is interrupted only where the parser stops, with the
same refusal, told with the label and the offset. The relation passes to sequences (`Follows.bind`)
and to tables (`Follows.counted`).
-/

namespace JvmDeps.ClassFile

/-- What interrupts a reader. Only the first is a verdict on the bytes. -/
inductive Interrupt where
  /-- The bytes are refused, under their label. -/
  | refused (source reason : String)
  /-- A table has no entry under a key. -/
  | missingKey
  /-- A chunk has no byte at a position, or has not the size of the number it is unpacked to. -/
  | outOfRange
  /-- A byte is none of the known tags. -/
  | unknownTag
  /-- Bytes encode no text. -/
  | undecodable
  /-- A record fails its own checks. -/
  | badRecord (d : ClassDecl.Defect)
  /-- Values are nested deeper than was allowed for. -/
  | tooDeep
deriving DecidableEq, Repr

/-- A position in bytes that have a label. -/
structure Cursor where
  data : Bytes
  source : String
  position : Nat

/-- A step that moves the cursor and gives a value, unless it is interrupted. -/
abbrev Reading : Type → Type := StateT Cursor (Except Interrupt)

namespace Cursor

/-- The number of bytes behind the position. -/
def remaining (c : Cursor) : Nat := c.data.length - c.position

/-- The bytes behind the position. -/
def rest (c : Cursor) : Bytes := c.data.drop c.position

theorem length_rest (c : Cursor) : c.rest.length = c.remaining := by
  rw [rest, List.length_drop, remaining]

end Cursor

/-! ## Steps -/

namespace Reading

variable {α : Type}

/-- Refuses the bytes. -/
def refuse (reason : String) : Reading α := fun c => .error (.refused c.source reason)

/-- Goes on with a result. Of its interrupts, those that are handled become refusals. -/
def handling (handled : Interrupt → Option String) (x : Except Interrupt α) : Reading α := fun c =>
  match x with
  | .ok a => .ok (a, c)
  | .error i => .error ((handled i).elim i (.refused c.source))

/-- The next `size` bytes. -/
def take (size : Nat) : Reading Bytes := fun c =>
  if c.remaining < size then
    .error (.refused c.source (Refusal.truncated size c.position c.remaining).text)
  else .ok (c.rest.take size, { c with position := c.position + size })

/-- The byte of a chunk at a position. -/
def item (chunk : Bytes) (i : Nat) : Except Interrupt UInt8 :=
  chunk[i]?.elim (.error .outOfRange) .ok

/-- The number of a chunk of two bytes. -/
def unpack2 : Bytes → Except Interrupt UInt16
  | [a, b] => .ok (.ofNat (a.toNat * 256 + b.toNat))
  | _ => .error .outOfRange

/-- The number of a chunk of four bytes. -/
def unpack4 : Bytes → Except Interrupt UInt32
  | [a, b, c, d] =>
    .ok (.ofNat (((a.toNat * 256 + b.toNat) * 256 + c.toNat) * 256 + d.toNat))
  | _ => .error .outOfRange

/-- The next byte. -/
def u1 : Reading UInt8 := do
  let chunk ← take 1
  item chunk 0

/-- The next two bytes as a number. -/
def u2 : Reading UInt16 := do
  let chunk ← take 2
  unpack2 chunk

/-- The next four bytes as a number. -/
def u4 : Reading UInt32 := do
  let chunk ← take 4
  unpack4 chunk

/-- The same step a number of times. -/
def repeated (q : Reading α) : Nat → Reading (List α)
  | 0 => pure []
  | n + 1 => do
    let a ← q
    let l ← repeated q n
    return a :: l

/-- A two-byte count, and the step that many times. -/
def counted (q : Reading α) : Reading (List α) := do
  let n ← u2
  repeated q n.toNat

end Reading

/-! ## Steps that follow a parser -/

/-- The cursor has moved forward in the same bytes. -/
structure Cursor.Before (c d : Cursor) : Prop where
  data : d.data = c.data
  source : d.source = c.source
  forward : c.position ≤ d.position
  inside : d.position ≤ d.data.length

/-- The cursor stands in bytes with this label. -/
structure Cursor.Within (source : String) (c : Cursor) : Prop where
  label : c.source = source
  inside : c.position ≤ c.data.length

/-- The interrupt of a refusal of bytes with a label. -/
def Refusal.under (source : String) : Refusal → Interrupt
  | .tooDeep => .tooDeep
  | r => .refused source r.text

/-- The step does what the parser does: it gives a value that is in relation to the parser's and
moves the cursor accordingly, or it is interrupted where the parser stops, and for the reason for
which the parser does. -/
structure Follows {α β : Type} (source : String) (R : α → β → Prop) (q : Reading α)
    (p : Parser Cause β) : Prop where
  ok : ∀ {c : Cursor} {b : β} {rest : Bytes}, c.Within source → p c.rest = .ok (b, rest) →
    ∃ a d, q c = .ok (a, d) ∧ c.Before d ∧ d.rest = rest ∧ R a b
  error : ∀ {c : Cursor} {stop : Stop Cause}, c.Within source → p c.rest = .error stop →
    q c = .error ((Refusal.ofStop c.data.length stop).under source)

variable {α β α' β' : Type} {source : String} {R : α → β → Prop}
  {S : α' → β' → Prop} {q : Reading α} {p : Parser Cause β}

theorem Cursor.Before.refl {c : Cursor} (h : c.position ≤ c.data.length) : c.Before c :=
  ⟨rfl, rfl, Nat.le_refl _, h⟩

theorem Cursor.Before.trans {c d e : Cursor} (h : c.Before d) (h' : d.Before e) : c.Before e :=
  ⟨h'.data.trans h.data, h'.source.trans h.source, h.forward.trans h'.forward, h'.inside⟩

theorem Cursor.Within.after {c d : Cursor} (h : c.Within source) (hbefore : c.Before d) :
    d.Within source :=
  ⟨hbefore.source.trans h.label, hbefore.inside⟩

/-! ### Sequences -/

theorem bind_of_ok {f : α → Reading α'} {c d : Cursor} {a : α} (h : q c = .ok (a, d)) :
    (q >>= f) c = f a d := by
  simp only [bind, StateT.bind, h, Except.bind]

theorem bind_of_error {f : α → Reading α'} {c : Cursor} {i : Interrupt} (h : q c = .error i) :
    (q >>= f) c = .error i := by
  simp only [bind, StateT.bind, h, Except.bind]

/-- A step that takes nothing and goes on with a result. -/
theorem lift_apply (x : Except Interrupt α) (c : Cursor) :
    (liftM x : Reading α) c = x.map (·, c) := by
  cases x <;> rfl

theorem follows_pure {a : α} {b : β} (h : R a b) :
    Follows source R (pure a) (pure b) where
  ok := by
    intro c b' rest hc hp
    obtain ⟨rfl, rfl⟩ := Parser.pure_apply_eq_ok_iff.mp hp
    exact ⟨a, c, rfl, .refl hc.inside, rfl, h⟩
  error := by
    intro c stop _ hp
    cases hp

/-- **Steps that follow parsers make a sequence that follows their sequence.** -/
theorem Follows.bind {f : α → Reading α'} {g : β → Parser Cause β'} (h : Follows source R q p)
    (hf : ∀ a b, R a b → Follows source S (f a) (g b)) :
    Follows source S (q >>= f) (p >>= g) where
  ok := by
    intro c b' rest hc hp
    obtain ⟨b, mid, hb, hg⟩ := Parser.bind_apply_eq_ok_iff.mp hp
    obtain ⟨a, d, hq, hbefore, rfl, hR⟩ := h.ok hc hb
    obtain ⟨a', e, hfa, hbefore', hrest, hS⟩ := (hf a b hR).ok (hc.after hbefore) hg
    exact ⟨a', e, (bind_of_ok hq).trans hfa, hbefore.trans hbefore', hrest, hS⟩
  error := by
    intro c stop hc hp
    cases hb : p c.rest with
    | error stop' =>
        rw [Parser.bind_apply_of_error hb] at hp
        rw [bind_of_error (h.error hc hb), Except.error.inj hp]
    | ok r =>
        obtain ⟨b, mid⟩ := r
        obtain ⟨a, d, hq, hbefore, rfl, hR⟩ := h.ok hc hb
        rw [Parser.bind_apply_of_ok hb] at hp
        rw [bind_of_ok hq, (hf a b hR).error (hc.after hbefore) hp, hbefore.data]

/-! ### Refusals and look-ups -/

theorem follows_refuse (cause : Cause) :
    Follows source R (Reading.refuse cause.text) (Parser.refuse cause) where
  ok := by
    intro c b rest _ hp
    cases hp
  error := by
    intro c stop hc hp
    cases hp
    rw [Reading.refuse, hc.label]
    rfl

/-- A result that is refused where another is. -/
theorem follows_lift {x : Except Interrupt α} {y : Except Cause α}
    (h : x = y.mapError fun cause => .refused source cause.text) :
    Follows source (fun a b => a = b ∧ y = .ok b) (liftM x) (Parser.ofExcept y) where
  ok := by
    intro c b rest hc hp
    obtain ⟨rfl, rfl⟩ := Parser.ofExcept_apply_eq_ok_iff.mp hp
    refine ⟨b, c, ?_, .refl hc.inside, rfl, rfl, rfl⟩
    rw [lift_apply, h]
    rfl
  error := by
    intro c stop _ hp
    cases y with
    | ok b => cases hp
    | error cause =>
        cases hp
        rw [lift_apply, h]
        rfl

/-! ### Numbers and chunks -/

theorem follows_take (size : Nat) :
    Follows source (fun a b => a = b ∧ b.length = size) (Reading.take size)
      (Parser.take size) where
  ok := by
    intro c b rest hc hp
    obtain ⟨hrest, hlength⟩ := Parser.eq_of_take hp
    have henough : ¬ c.remaining < size := by
      rw [← c.length_rest, hrest, List.length_append]
      omega
    refine ⟨b, { c with position := c.position + size }, ?_, ⟨rfl, rfl, Nat.le_add_right _ _, ?_⟩,
      ?_, rfl, hlength⟩
    · rw [Reading.take, if_neg henough, hrest, List.take_left' hlength]
    · have hinside := hc.inside
      unfold Cursor.remaining at henough
      show c.position + size ≤ c.data.length
      omega
    · show c.data.drop (c.position + size) = rest
      rw [← List.drop_drop]
      show c.rest.drop size = rest
      rw [hrest, List.drop_left' hlength]
  error := by
    intro c stop hc hp
    simp only [Parser.take] at hp
    split at hp
    · cases hp
    · rename_i hshort
      cases hp
      have hless : c.remaining < size := by
        rw [List.length_take, c.length_rest] at hshort
        omega
      have hoffset : c.data.length - c.remaining = c.position := by
        have hinside := hc.inside
        unfold Cursor.remaining
        omega
      rw [Reading.take, if_pos hless, hc.label, c.length_rest, Refusal.ofStop, hoffset]
      rfl

/-- A step that takes a chunk and unpacks it follows a parser that does so at once. -/
theorem follows_unpack {size : Nat} {unpack : Bytes → Except Interrupt α} {p : Parser Cause α}
    (hok : ∀ chunk, chunk.length = size →
      ∃ a, unpack chunk = .ok a ∧ ∀ rest, p (chunk ++ rest) = .ok (a, rest))
    (hshort : ∀ s, s.length < size → p s = .error (.short size s.length)) :
    Follows source Eq (do let chunk ← Reading.take size; unpack chunk) p := by
  -- the parser is the one that takes a chunk first
  have hp : p = (Parser.take size >>= fun chunk s => p (chunk ++ s)) := by
    funext s
    by_cases hless : s.length < size
    · have htake : (Parser.take size s : Except (Stop Cause) _) =
          .error (.short size s.length) := by
        rw [Parser.take, if_neg (by rw [List.length_take]; omega)]
      rw [hshort s hless]
      simp only [bind, htake]
    · have htake : (Parser.take size s : Except (Stop Cause) _) =
          .ok (s.take size, s.drop size) := by
        rw [Parser.take, if_pos (by rw [List.length_take]; omega)]
      calc p s = p (s.take size ++ s.drop size) := by rw [List.take_append_drop]
        _ = _ := (Parser.bind_apply_of_ok (f := fun chunk t => p (chunk ++ t)) htake).symm
  rw [hp]
  refine (follows_take size).bind fun chunk chunk' h => ?_
  obtain ⟨rfl, hlength⟩ := h
  obtain ⟨a, hunpack, hread⟩ := hok chunk hlength
  refine ⟨?_, ?_⟩
  · intro c b rest hc hp
    rw [hread] at hp
    cases hp
    exact ⟨a, c, by rw [hunpack]; rfl, .refl hc.inside, rfl, rfl⟩
  · intro c stop _ hp
    rw [hread] at hp
    cases hp

theorem follows_u1 : Follows source Eq Reading.u1 Parser.u1 := by
  apply follows_unpack
  · intro chunk hlength
    obtain ⟨b, rfl⟩ := List.length_eq_one_iff.mp hlength
    exact ⟨b, rfl, fun _ => rfl⟩
  · intro s hs
    obtain rfl : s = [] := List.length_eq_zero_iff.mp (by omega)
    rfl

theorem follows_u2 : Follows source Eq Reading.u2 Parser.u2 := by
  apply follows_unpack
  · intro chunk hlength
    obtain ⟨a, b, rfl⟩ := List.length_eq_two.mp hlength
    exact ⟨_, rfl, fun _ => rfl⟩
  · intro s hs
    match s with
    | [] => rfl
    | [_] => rfl
    | _ :: _ :: s =>
        simp only [List.length_cons] at hs
        omega

theorem follows_u4 : Follows source Eq Reading.u4 Parser.u4 := by
  apply follows_unpack
  · intro chunk hlength
    match chunk with
    | [a, b, c, d] => exact ⟨_, rfl, fun _ => rfl⟩
  · intro s hs
    match s with
    | [] => rfl
    | [_] => rfl
    | [_, _] => rfl
    | [_, _, _] => rfl
    | _ :: _ :: _ :: _ :: s =>
        simp only [List.length_cons] at hs
        omega

/-! ### Tables -/

theorem Follows.repeated (h : Follows source R q p) (n : Nat) :
    Follows source (List.Forall₂ R) (Reading.repeated q n) (Parser.times n p) := by
  induction n with
  | zero => exact follows_pure .nil
  | succ n ih =>
      rw [Parser.times_succ]
      exact h.bind fun a b hab => ih.bind fun as bs habs => follows_pure (.cons hab habs)

/-- **A table is followed row by row.** -/
theorem Follows.counted (h : Follows source R q p) :
    Follows source (List.Forall₂ R) (Reading.counted q) (Parser.counted p) := by
  refine follows_u2.bind fun n n' hn => ?_
  rw [hn]
  exact h.repeated n'.toNat

/-! ### Whole bytes -/

/-- A step that is run from the start of some bytes. -/
theorem Follows.from_start {α β : Type} {R : α → β → Prop} {q : Reading α} {p : Parser Cause β}
    (h : Follows source R q p) (bytes : Bytes) :
    (∃ a b c rest, q ⟨bytes, source, 0⟩ = .ok (a, c) ∧ runFrom p bytes = .ok (b, rest) ∧
        c.remaining = rest.length ∧ c.source = source ∧ R a b) ∨
      ∃ r, q ⟨bytes, source, 0⟩ = .error (r.under source) ∧ runFrom p bytes = .error r := by
  have hc : Cursor.Within source ⟨bytes, source, 0⟩ := ⟨rfl, Nat.zero_le _⟩
  cases hp : p bytes with
  | ok read =>
      obtain ⟨b, rest⟩ := read
      obtain ⟨a, c, hq, hbefore, hrest, hR⟩ := h.ok hc hp
      refine Or.inl ⟨a, b, c, rest, hq, by rw [runFrom, hp]; rfl, ?_, hbefore.source, hR⟩
      rw [← c.length_rest, hrest]
  | error stop =>
      refine Or.inr ⟨.ofStop bytes.length stop, h.error hc hp, ?_⟩
      rw [runFrom, hp]
      rfl

end JvmDeps.ClassFile
