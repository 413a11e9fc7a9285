import JvmDeps.Proofs.Bytes.TextUnits

set_option autoImplicit false

/-! # UTF-8 that lets surrogates pass

Strict UTF-8 reads characters of one to four bytes (`strict?`), by the table of the byte sequences
that are well formed: no overlong form, no surrogate, nothing beyond the last code point. Where it
fails, a surrogate in the three bytes that a character would take is let through (`surrogate?`).
`lenient?` reads bytes to their end this way.

What is read next is exactly one unit other than `C0 80` (`exists_unit_of_next?`,
`next?_bytes_append`), so `lenient?_eq_some_iff`: lenient UTF-8 reads exactly the rows of these
units.
-/

namespace JvmDeps.ModifiedUtf8

/-! ## Characters and surrogates -/

/-- The byte is in a range, both ends included. -/
def InRange (low high : Nat) (b : UInt8) : Prop := low ≤ b.toNat ∧ b.toNat ≤ high

instance (low high : Nat) (b : UInt8) : Decidable (InRange low high b) :=
  inferInstanceAs (Decidable (_ ∧ _))

/-- A character of one byte at the front of UTF-8, by its code point, and the bytes behind it. -/
def single? : Bytes → Option (Nat × Bytes)
  | a :: s => if InRange 0 0x7f a then some (a.toNat, s) else none
  | _ => none

/-- A character of two bytes at the front of UTF-8. -/
def double? : Bytes → Option (Nat × Bytes)
  | a :: b :: s =>
    if InRange 0xc2 0xdf a ∧ InRange 0x80 0xbf b then
      some (a.toNat % 32 * 64 + b.toNat % 64, s)
    else none
  | _ => none

/-- Two bytes with which a character of three bytes can start in UTF-8. -/
def StartsTriple (a b : UInt8) : Prop :=
  a.toNat = 0xe0 ∧ InRange 0xa0 0xbf b ∨ InRange 0xe1 0xec a ∧ InRange 0x80 0xbf b ∨
    a.toNat = 0xed ∧ InRange 0x80 0x9f b ∨ InRange 0xee 0xef a ∧ InRange 0x80 0xbf b

instance (a b : UInt8) : Decidable (StartsTriple a b) := inferInstanceAs (Decidable (_ ∨ _))

/-- The number that the bits of three bytes make up. -/
def tripleValue (a b c : UInt8) : Nat := (a.toNat % 16 * 64 + b.toNat % 64) * 64 + c.toNat % 64

/-- A character of three bytes at the front of UTF-8. -/
def triple? : Bytes → Option (Nat × Bytes)
  | a :: b :: c :: s =>
    if StartsTriple a b ∧ InRange 0x80 0xbf c then some (tripleValue a b c, s) else none
  | _ => none

/-- Two bytes with which a character of four bytes can start in UTF-8. -/
def StartsQuadruple (a b : UInt8) : Prop :=
  a.toNat = 0xf0 ∧ InRange 0x90 0xbf b ∨ InRange 0xf1 0xf3 a ∧ InRange 0x80 0xbf b ∨
    a.toNat = 0xf4 ∧ InRange 0x80 0x8f b

instance (a b : UInt8) : Decidable (StartsQuadruple a b) := inferInstanceAs (Decidable (_ ∨ _))

/-- A character of four bytes at the front of UTF-8. -/
def quadruple? : Bytes → Option (Nat × Bytes)
  | a :: b :: c :: d :: s =>
    if StartsQuadruple a b ∧ InRange 0x80 0xbf c ∧ InRange 0x80 0xbf d then
      some (((a.toNat % 8 * 64 + b.toNat % 64) * 64 + c.toNat % 64) * 64 + d.toNat % 64, s)
    else none
  | _ => none

/-- The character at the front of UTF-8. -/
def strict? (s : Bytes) : Option (Nat × Bytes) :=
  (single? s).or ((double? s).or ((triple? s).or (quadruple? s)))

/-- A surrogate at the front, in the three bytes that a character would take. -/
def surrogate? : Bytes → Option (Nat × Bytes)
  | a :: b :: c :: s =>
    if a.toNat = 0xed ∧ InRange 0xa0 0xbf b ∧ InRange 0x80 0xbf c then some (tripleValue a b c, s)
    else none
  | _ => none

/-- The character at the front, or else the surrogate there. -/
def next? (s : Bytes) : Option (Nat × Bytes) := (strict? s).or (surrogate? s)

/-! ## What is read next -/

theorem toNat_ofNat_of_lt {n : Nat} (h : n < 256) : (UInt8.ofNat n).toNat = n := by
  rw [UInt8.toNat_ofNat']
  omega

theorem single?_eq_some_iff {s rest : Bytes} {n : Nat} :
    single? s = some (n, rest) ↔ ∃ fits, s = (TextUnit.one n fits).bytes ++ rest := by
  constructor
  · intro h
    match s with
    | [] => cases h
    | a :: s =>
        simp only [single?, Option.ite_none_right_eq_some, Option.some.injEq, Prod.mk.injEq] at h
        obtain ⟨hrange, rfl, rfl⟩ := h
        simp only [InRange] at hrange
        refine ⟨by omega, ?_⟩
        rw [TextUnit.bytes, UInt8.ofNat_toNat]
        rfl
  · rintro ⟨fits, rfl⟩
    have ha := toNat_ofNat_of_lt (show n < 256 by omega)
    simp only [TextUnit.bytes, List.cons_append, List.nil_append, single?, InRange, ha]
    rw [if_pos (by omega)]

theorem double?_eq_some_iff {s rest : Bytes} {n : Nat} :
    double? s = some (n, rest) ↔ ∃ fits, s = (TextUnit.two n fits).bytes ++ rest := by
  constructor
  · intro h
    match s with
    | [] => cases h
    | [_] => cases h
    | a :: b :: s =>
        simp only [double?, Option.ite_none_right_eq_some, Option.some.injEq, Prod.mk.injEq] at h
        obtain ⟨hrange, rfl, rfl⟩ := h
        simp only [InRange] at hrange
        refine ⟨by omega, ?_⟩
        simp only [TextUnit.bytes, List.cons_append, List.nil_append, List.cons.injEq, and_true]
        exact ⟨(ofNat_eq_of_toNat (by omega)).symm, (ofNat_eq_of_toNat (by omega)).symm⟩
  · rintro ⟨fits, rfl⟩
    have ha := toNat_ofNat_of_lt (show 0xc0 + n / 64 < 256 by omega)
    have hb := toNat_ofNat_of_lt (show 0x80 + n % 64 < 256 by omega)
    simp only [TextUnit.bytes, List.cons_append, List.nil_append, double?, InRange, ha, hb]
    rw [if_pos (by omega), Option.some.injEq, Prod.mk.injEq]
    exact ⟨by omega, rfl⟩

theorem quadruple?_eq_some_iff {s rest : Bytes} {n : Nat} :
    quadruple? s = some (n, rest) ↔ ∃ fits, s = (TextUnit.four n fits).bytes ++ rest := by
  constructor
  · intro h
    match s with
    | [] => cases h
    | [_] => cases h
    | [_, _] => cases h
    | [_, _, _] => cases h
    | a :: b :: c :: d :: s =>
        simp only [quadruple?, Option.ite_none_right_eq_some, Option.some.injEq,
          Prod.mk.injEq] at h
        obtain ⟨hrange, rfl, rfl⟩ := h
        simp only [StartsQuadruple, InRange] at hrange
        refine ⟨by omega, ?_⟩
        simp only [TextUnit.bytes, List.cons_append, List.nil_append, List.cons.injEq, and_true]
        exact ⟨(ofNat_eq_of_toNat (by omega)).symm, (ofNat_eq_of_toNat (by omega)).symm,
          (ofNat_eq_of_toNat (by omega)).symm, (ofNat_eq_of_toNat (by omega)).symm⟩
  · rintro ⟨fits, rfl⟩
    have ha := toNat_ofNat_of_lt (show 0xf0 + n / 262144 < 256 by omega)
    have hb := toNat_ofNat_of_lt (show 0x80 + n / 4096 % 64 < 256 by omega)
    have hc := toNat_ofNat_of_lt (show 0x80 + n / 64 % 64 < 256 by omega)
    have hd := toNat_ofNat_of_lt (show 0x80 + n % 64 < 256 by omega)
    simp only [TextUnit.bytes, List.cons_append, List.nil_append, quadruple?, StartsQuadruple,
      InRange, ha, hb, hc, hd]
    rw [if_pos (by omega), Option.some.injEq, Prod.mk.injEq]
    exact ⟨by omega, rfl⟩

/-- Three bytes that start and go on like a character or a surrogate are a unit. -/
theorem exists_three_of_starts {a b c : UInt8}
    (hstart : StartsTriple a b ∨ a.toNat = 0xed ∧ InRange 0xa0 0xbf b) (hc : InRange 0x80 0xbf c) :
    ∃ fits, [a, b, c] = (TextUnit.three (tripleValue a b c) fits).bytes := by
  simp only [StartsTriple, InRange] at hstart hc
  have hvalue : tripleValue a b c = (a.toNat % 16 * 64 + b.toNat % 64) * 64 + c.toNat % 64 := rfl
  refine ⟨by omega, ?_⟩
  simp only [TextUnit.bytes, threeBytes, List.cons.injEq, and_true]
  exact ⟨(ofNat_eq_of_toNat (by omega)).symm, (ofNat_eq_of_toNat (by omega)).symm,
    (ofNat_eq_of_toNat (by omega)).symm⟩

theorem exists_three_of_triple? {s rest : Bytes} {n : Nat} (h : triple? s = some (n, rest)) :
    ∃ fits, s = (TextUnit.three n fits).bytes ++ rest := by
  match s with
  | [] => cases h
  | [_] => cases h
  | [_, _] => cases h
  | a :: b :: c :: s =>
      simp only [triple?, Option.ite_none_right_eq_some, Option.some.injEq, Prod.mk.injEq] at h
      obtain ⟨⟨hstart, hc⟩, rfl, rfl⟩ := h
      obtain ⟨fits, hbytes⟩ := exists_three_of_starts (Or.inl hstart) hc
      exact ⟨fits, by rw [← hbytes]; rfl⟩

theorem exists_three_of_surrogate? {s rest : Bytes} {n : Nat}
    (h : surrogate? s = some (n, rest)) :
    ∃ fits, s = (TextUnit.three n fits).bytes ++ rest := by
  match s with
  | [] => cases h
  | [_] => cases h
  | [_, _] => cases h
  | a :: b :: c :: s =>
      simp only [surrogate?, Option.ite_none_right_eq_some, Option.some.injEq, Prod.mk.injEq] at h
      obtain ⟨⟨ha, hb, hc⟩, rfl, rfl⟩ := h
      obtain ⟨fits, hbytes⟩ := exists_three_of_starts (Or.inr ⟨ha, hb⟩) hc
      exact ⟨fits, by rw [← hbytes]; rfl⟩

/-- What is read next is a unit other than `C0 80`. -/
theorem exists_unit_of_next? {s rest : Bytes} {n : Nat} (h : next? s = some (n, rest)) :
    ∃ u : TextUnit, u ≠ .zeroPair ∧ u.value = n ∧ s = u.bytes ++ rest := by
  simp only [next?, strict?, Option.or_eq_some_iff] at h
  rcases h with (hone | ⟨-, htwo | ⟨-, hthree | ⟨-, hfour⟩⟩⟩) | ⟨-, hsurrogate⟩
  · obtain ⟨fits, hs⟩ := single?_eq_some_iff.mp hone
    exact ⟨.one n fits, nofun, rfl, hs⟩
  · obtain ⟨fits, hs⟩ := double?_eq_some_iff.mp htwo
    exact ⟨.two n fits, nofun, rfl, hs⟩
  · obtain ⟨fits, hs⟩ := exists_three_of_triple? hthree
    exact ⟨.three n fits, nofun, rfl, hs⟩
  · obtain ⟨fits, hs⟩ := quadruple?_eq_some_iff.mp hfour
    exact ⟨.four n fits, nofun, rfl, hs⟩
  · obtain ⟨fits, hs⟩ := exists_three_of_surrogate? hsurrogate
    exact ⟨.three n fits, nofun, rfl, hs⟩

theorem single?_of_ge {a : UInt8} (s : Bytes) (h : 0x80 ≤ a.toNat) : single? (a :: s) = none := by
  rw [single?, if_neg]
  rw [InRange]
  omega

theorem double?_of_ge {a : UInt8} (s : Bytes) (h : 0xe0 ≤ a.toNat) : double? (a :: s) = none := by
  match s with
  | [] => rfl
  | b :: s =>
      rw [double?, if_neg]
      rw [InRange]
      omega

theorem triple?_of_ge {a : UInt8} (s : Bytes) (h : 0xf0 ≤ a.toNat) : triple? (a :: s) = none := by
  match s with
  | [] => rfl
  | [_] => rfl
  | b :: c :: s =>
      rw [triple?, if_neg]
      simp only [StartsTriple, InRange]
      omega

theorem quadruple?_of_lt {a : UInt8} (s : Bytes) (h : a.toNat < 0xf0) :
    quadruple? (a :: s) = none := by
  match s with
  | [] => rfl
  | [_] => rfl
  | [_, _] => rfl
  | b :: c :: d :: s =>
      rw [quadruple?, if_neg]
      simp only [StartsQuadruple, InRange]
      omega

/-- A three-byte unit is read as a character, or else as a surrogate. -/
theorem next?_three {n : Nat} (fits : 0x800 ≤ n ∧ n < 0x10000) (rest : Bytes) :
    next? ((TextUnit.three n fits).bytes ++ rest) = some (n, rest) := by
  have ha := toNat_ofNat_of_lt (show 0xe0 + n / 4096 < 256 by omega)
  have hb := toNat_ofNat_of_lt (show 0x80 + n / 64 % 64 < 256 by omega)
  have hc := toNat_ofNat_of_lt (show 0x80 + n % 64 < 256 by omega)
  have hvalue : tripleValue (UInt8.ofNat (0xe0 + n / 4096)) (UInt8.ofNat (0x80 + n / 64 % 64))
      (UInt8.ofNat (0x80 + n % 64)) = n := by
    rw [tripleValue, ha, hb, hc]
    omega
  simp only [TextUnit.bytes, threeBytes, List.cons_append, List.nil_append, next?, strict?]
  rw [single?_of_ge _ (by omega), double?_of_ge _ (by omega), quadruple?_of_lt _ (by omega)]
  simp only [triple?, surrogate?, StartsTriple, InRange, ha, hb, hc, hvalue, Option.none_or,
    Option.or_none]
  by_cases hsurrogate : 0xd800 ≤ n ∧ n < 0xe000
  · rw [if_neg (by omega), if_pos (by omega), Option.none_or]
  · rw [if_pos (by omega), Option.some_or]

/-- A unit other than `C0 80` is read next off the front. -/
theorem next?_bytes_append {u : TextUnit} (h : u ≠ .zeroPair) (rest : Bytes) :
    next? (u.bytes ++ rest) = some (u.value, rest) := by
  cases u with
  | one n fits =>
      have hread := single?_eq_some_iff.mpr ⟨fits, (rfl : _ = _ ++ rest)⟩
      rw [next?, strict?, hread, Option.some_or, Option.some_or]
      rfl
  | zeroPair => exact absurd rfl h
  | two n fits =>
      have hfirst := toNat_ofNat_of_lt (show 0xc0 + n / 64 < 256 by omega)
      have hread := double?_eq_some_iff.mpr ⟨fits, (rfl : _ = _ ++ rest)⟩
      have hone : single? ((TextUnit.two n fits).bytes ++ rest) = none :=
        single?_of_ge _ (by omega)
      rw [next?, strict?, hone, hread, Option.none_or, Option.some_or, Option.some_or]
      rfl
  | three n fits => exact next?_three fits rest
  | four n fits =>
      have hfirst := toNat_ofNat_of_lt (show 0xf0 + n / 262144 < 256 by omega)
      have hread := quadruple?_eq_some_iff.mpr ⟨fits, (rfl : _ = _ ++ rest)⟩
      have hone : single? ((TextUnit.four n fits).bytes ++ rest) = none :=
        single?_of_ge _ (by omega)
      have htwo : double? ((TextUnit.four n fits).bytes ++ rest) = none :=
        double?_of_ge _ (by omega)
      have hthree : triple? ((TextUnit.four n fits).bytes ++ rest) = none :=
        triple?_of_ge _ (by omega)
      rw [next?, strict?, hone, htwo, hthree, hread, Option.none_or, Option.none_or,
        Option.none_or, Option.some_or]
      rfl

/-! ## All code points -/

theorem length_lt_of_next? {s rest : Bytes} {n : Nat} (h : next? s = some (n, rest)) :
    rest.length < s.length := by
  obtain ⟨u, -, -, rfl⟩ := exists_unit_of_next? h
  have hpos : 0 < u.bytes.length := by
    cases u <;> simp [TextUnit.bytes, threeBytes]
  rw [List.length_append]
  omega

/-- The code points of UTF-8 that lets surrogates pass. -/
def lenient? (s : Bytes) : Option (List Nat) :=
  match s with
  | [] => some []
  | a :: t =>
    match _h : next? (a :: t) with
    | none => none
    | some (n, rest) => (lenient? rest).map (n :: ·)
termination_by s.length
decreasing_by exact length_lt_of_next? _h

theorem lenient?_of_next? {s rest : Bytes} {n : Nat} (h : next? s = some (n, rest)) :
    lenient? s = (lenient? rest).map (n :: ·) := by
  match s with
  | [] => cases h
  | a :: t =>
      rw [lenient?]
      split
      · rename_i hnone
        rw [h] at hnone
        cases hnone
      · rename_i hsome
        rw [h] at hsome
        cases hsome
        rfl

/-- **Lenient UTF-8 reads exactly the units other than `C0 80`.** -/
theorem lenient?_eq_some_iff {s : Bytes} {ns : List Nat} :
    lenient? s = some ns ↔
      ∃ us, (∀ u ∈ us, u ≠ .zeroPair) ∧ unitBytes us = s ∧ us.map TextUnit.value = ns := by
  constructor
  · intro h
    fun_induction lenient? s generalizing ns with
    | case1 => exact ⟨[], List.forall_mem_nil _, rfl, Option.some.inj h⟩
    | case2 => cases h
    | case3 a t n rest hnext ih =>
        obtain ⟨ms, hms, rfl⟩ := Option.map_eq_some_iff.mp h
        obtain ⟨u, hu, rfl, hs⟩ := exists_unit_of_next? hnext
        obtain ⟨us, hus, rfl, rfl⟩ := ih hms
        exact ⟨u :: us, List.forall_mem_cons.mpr ⟨hu, hus⟩, hs.symm, rfl⟩
  · rintro ⟨us, hplain, rfl, rfl⟩
    induction us with
    | nil => rw [unitBytes, List.flatMap_nil, lenient?, List.map_nil]
    | cons u us ih =>
        obtain ⟨hu, hus⟩ := List.forall_mem_cons.mp hplain
        rw [unitBytes, List.flatMap_cons, lenient?_of_next? (next?_bytes_append hu _)]
        exact Option.map_eq_some_iff.mpr ⟨_, ih hus, rfl⟩

end JvmDeps.ModifiedUtf8
