import JvmDeps.Proofs.Bytes.ModifiedUtf8
import Mathlib.Data.Nat.Init

set_option autoImplicit false

/-! # The units of an encoded text

What can be decoded is told without the decoder. A `TextUnit` is a number in one of the forms in
which it can be written: one byte, the pair `C0 80` for zero, or the shortest form of two, three or
four bytes. The numbers of three-byte units include the surrogates. In a row of units surrogates
are `Paired` if every high one has a low one right behind it and every low one a high one right in
front of it, and `codePoints` are the numbers of the row with each pair made one.

`units_eq_some_iff` says that bytes are cut into units exactly if they are a written row of units.
`Paired.exists_combine` and `paired_of_combine` say that of these rows the paired ones are joined to
characters. So the bytes that are decoded are the written forms of paired rows
(`Paired.exists_decode?`, `exists_paired_of_decode?`), which `decode?_eq_some_iff` says together.
-/

namespace JvmDeps.ModifiedUtf8

/-! ## Units -/

/-- A number in one of the forms in which it can be written. -/
inductive TextUnit where
  | one (n : Nat) (fits : n < 0x80)
  /-- Zero, written `C0 80`. -/
  | zeroPair
  | two (n : Nat) (fits : 0x80 ≤ n ∧ n < 0x800)
  | three (n : Nat) (fits : 0x800 ≤ n ∧ n < 0x10000)
  | four (n : Nat) (fits : 0x10000 ≤ n ∧ n < 0x110000)
deriving DecidableEq, Repr

namespace TextUnit

/-- The number of a unit. -/
def value : TextUnit → Nat
  | one n _ => n
  | zeroPair => 0
  | two n _ => n
  | three n _ => n
  | four n _ => n

/-- The written form of a unit. -/
def bytes : TextUnit → Bytes
  | one n _ => [UInt8.ofNat n]
  | zeroPair => [0xc0, 0x80]
  | two n _ => [UInt8.ofNat (0xc0 + n / 64), UInt8.ofNat (0x80 + n % 64)]
  | three n _ => threeBytes n
  | four n _ =>
    [UInt8.ofNat (0xf0 + n / 262144), UInt8.ofNat (0x80 + n / 4096 % 64),
      UInt8.ofNat (0x80 + n / 64 % 64), UInt8.ofNat (0x80 + n % 64)]

/-- The unit is the first surrogate of a pair. -/
def IsHigh (u : TextUnit) : Prop := 0xd800 ≤ u.value ∧ u.value < 0xdc00

/-- The unit is the second surrogate of a pair. -/
def IsLow (u : TextUnit) : Prop := 0xdc00 ≤ u.value ∧ u.value < 0xe000

instance (u : TextUnit) : Decidable u.IsHigh := inferInstanceAs (Decidable (_ ∧ _))

instance (u : TextUnit) : Decidable u.IsLow := inferInstanceAs (Decidable (_ ∧ _))

theorem value_lt (u : TextUnit) : u.value < 0x110000 := by
  cases u with
  | one n fits => show n < 0x110000; omega
  | zeroPair => decide
  | two n fits => show n < 0x110000; omega
  | three n fits => show n < 0x110000; omega
  | four n fits => exact fits.2

end TextUnit

/-- The written form of a row of units. -/
def unitBytes (us : List TextUnit) : Bytes := us.flatMap TextUnit.bytes

/-- Every high surrogate has a low one right behind it, and every low one a high one right in front
of it. -/
structure Paired (us : List TextUnit) : Prop where
  followed : ∀ i u, us[i]? = some u → u.IsHigh → ∃ v, us[i + 1]? = some v ∧ v.IsLow
  preceded : ∀ i v, us[i]? = some v → v.IsLow → ∃ j u, i = j + 1 ∧ us[j]? = some u ∧ u.IsHigh

/-- The numbers of a row of units, with each pair of surrogates made one. -/
def codePoints : List TextUnit → List Nat
  | [] => []
  | [u] => [u.value]
  | u :: v :: us =>
    if u.IsHigh ∧ v.IsLow then
      (0x10000 + (u.value - 0xd800) * 0x400 + (v.value - 0xdc00)) :: codePoints us
    else u.value :: codePoints (v :: us)

/-! ## Cutting bytes into units -/

theorem continuation?_eq_some_iff {b : UInt8} {n : Nat} :
    continuation? b = some n ↔ n < 64 ∧ b.toNat = 0x80 + n := by
  simp only [continuation?, Option.ite_none_right_eq_some, Bool.and_eq_true, decide_eq_true_eq,
    Option.some.injEq]
  omega

theorem ofNat_eq_of_toNat {b : UInt8} {n : Nat} (h : n = b.toNat) : UInt8.ofNat n = b := by
  rw [h, UInt8.ofNat_toNat]

/-- What is read as a two-byte unit is one in its written form. -/
theorem exists_unit_of_twoByte? {a b : UInt8} {n : Nat} (h : twoByte? a b = some n) :
    ∃ u : TextUnit, u.bytes = [a, b] ∧ u.value = n := by
  simp only [twoByte?, Option.bind_eq_bind, Option.bind_eq_some_iff, continuation?_eq_some_iff] at h
  obtain ⟨low, ⟨hlow, hb⟩, h⟩ := h
  split at h
  · rename_i hzero
    simp only [Bool.and_eq_true, decide_eq_true_eq] at hzero
    have ha : a = 0xc0 := UInt8.toNat_inj.mp hzero.1
    have hb' : b = 0x80 := UInt8.toNat_inj.mp (by rw [hb, hzero.2]; rfl)
    refine ⟨.zeroPair, ?_, Option.some.inj h⟩
    rw [ha, hb']
    rfl
  · split at h
    · rename_i hrange
      simp only [Bool.and_eq_true, decide_eq_true_eq] at hrange
      refine ⟨.two ((a.toNat - 0xc0) * 64 + low) (by omega), ?_, Option.some.inj h⟩
      simp only [TextUnit.bytes, List.cons.injEq, and_true]
      exact ⟨ofNat_eq_of_toNat (by omega), ofNat_eq_of_toNat (by omega)⟩
    · cases h

/-- What is read as a three-byte unit is one in its written form. -/
theorem exists_unit_of_threeByte? {a b c : UInt8} {n : Nat} (h : threeByte? a b c = some n) :
    ∃ u : TextUnit, u.bytes = [a, b, c] ∧ u.value = n := by
  simp only [threeByte?, Option.bind_eq_bind, Option.bind_eq_some_iff, continuation?_eq_some_iff,
    Option.ite_none_right_eq_some, Bool.and_eq_true, decide_eq_true_eq, Option.some.injEq] at h
  obtain ⟨middle, ⟨hmiddle, hb⟩, low, ⟨hlow, hc⟩, ⟨ha, hn⟩, rfl⟩ := h
  refine ⟨.three (((a.toNat - 0xe0) * 64 + middle) * 64 + low) (by omega), ?_, rfl⟩
  simp only [TextUnit.bytes, threeBytes, List.cons.injEq, and_true]
  exact ⟨ofNat_eq_of_toNat (by omega), ofNat_eq_of_toNat (by omega), ofNat_eq_of_toNat (by omega)⟩

/-- What is read as a four-byte unit is one in its written form. -/
theorem exists_unit_of_fourByte? {a b c d : UInt8} {n : Nat} (h : fourByte? a b c d = some n) :
    ∃ u : TextUnit, u.bytes = [a, b, c, d] ∧ u.value = n := by
  simp only [fourByte?, Option.bind_eq_bind, Option.bind_eq_some_iff, continuation?_eq_some_iff,
    Option.ite_none_right_eq_some, Bool.and_eq_true, decide_eq_true_eq, Option.some.injEq] at h
  obtain ⟨high, ⟨hhigh, hb⟩, middle, ⟨hmiddle, hc⟩, low, ⟨hlow, hd⟩, ⟨⟨ha, hn⟩, hn'⟩, rfl⟩ := h
  refine ⟨.four ((((a.toNat - 0xf0) * 64 + high) * 64 + middle) * 64 + low) ⟨hn, hn'⟩, ?_, rfl⟩
  simp only [TextUnit.bytes, List.cons.injEq, and_true]
  exact ⟨ofNat_eq_of_toNat (by omega), ofNat_eq_of_toNat (by omega), ofNat_eq_of_toNat (by omega),
    ofNat_eq_of_toNat (by omega)⟩

/-- A unit of four bytes. -/
theorem units_four {a b c d : UInt8} {n : Nat} (s : Bytes) (h : ¬ a.toNat < 0x80)
    (htwo : twoByte? a b = none) (hthree : threeByte? a b c = none)
    (hfour : fourByte? a b c d = some n) :
    units (a :: b :: c :: d :: s) = (units s).map (n :: ·) := by
  rw [units.eq_def]
  simp only [if_neg h, htwo, hthree, hfour]

theorem units_fourBytes {n : Nat} (s : Bytes) (hlow : 0x10000 ≤ n) (hhigh : n < 0x110000) :
    units (UInt8.ofNat (0xf0 + n / 262144) :: UInt8.ofNat (0x80 + n / 4096 % 64) ::
        UInt8.ofNat (0x80 + n / 64 % 64) :: UInt8.ofNat (0x80 + n % 64) :: s)
      = (units s).map (n :: ·) := by
  have hfirst : (UInt8.ofNat (0xf0 + n / 262144)).toNat = 0xf0 + n / 262144 := by
    rw [UInt8.toNat_ofNat']
    omega
  have hsecond := continuation?_ofNat (show n / 4096 % 64 < 64 by omega)
  have hthird := continuation?_ofNat (show n / 64 % 64 < 64 by omega)
  have hlast := continuation?_ofNat (show n % 64 < 64 by omega)
  have hvalue : (((0xf0 + n / 262144 - 0xf0) * 64 + n / 4096 % 64) * 64 + n / 64 % 64) * 64
      + n % 64 = n := by omega
  apply units_four
  · omega
  · -- the first byte is beyond those that start two or three bytes
    simp only [twoByte?, hsecond, hfirst, Option.bind_eq_bind, Option.bind_some, Bool.and_eq_true,
      decide_eq_true_eq]
    rw [if_neg (by omega), if_neg (by omega)]
  · simp only [threeByte?, hsecond, hthird, hfirst, Option.bind_eq_bind, Option.bind_some,
      Bool.and_eq_true, decide_eq_true_eq]
    rw [if_neg (by omega)]
  · simp only [fourByte?, hsecond, hthird, hlast, hfirst, hvalue, Option.bind_eq_bind,
      Option.bind_some, Bool.and_eq_true, decide_eq_true_eq]
    rw [if_pos (by omega)]

/-- A written unit is read back off the front. -/
theorem units_bytes_append (u : TextUnit) (s : Bytes) :
    units (u.bytes ++ s) = (units s).map (u.value :: ·) := by
  cases u with
  | one n fits =>
      have hbyte : (UInt8.ofNat n).toNat = n := by
        rw [UInt8.toNat_ofNat']
        omega
      have hunits := units_one s (show (UInt8.ofNat n).toNat < 0x80 by omega)
      rw [hbyte] at hunits
      exact hunits
  | zeroPair => exact units_two s (by decide) (by decide)
  | two n fits => exact units_twoBytes s fits.1 fits.2
  | three n fits => exact units_threeBytes s fits.1 fits.2
  | four n fits => exact units_fourBytes s fits.1 fits.2

theorem exists_unit_of_one {a : UInt8} (h : a.toNat < 0x80) :
    ∃ u : TextUnit, u.bytes = [a] ∧ u.value = a.toNat := by
  refine ⟨.one a.toNat h, ?_, rfl⟩
  rw [TextUnit.bytes, UInt8.ofNat_toNat]

/-- A unit in front of bytes that are cut into units. -/
theorem exists_units_cons {front s : Bytes} {n : Nat} {ns : List Nat}
    (hunit : ∃ u : TextUnit, u.bytes = front ∧ u.value = n)
    (ih : ∀ {ms}, units s = some ms → ∃ us, unitBytes us = s ∧ us.map TextUnit.value = ms)
    (h : (units s).map (n :: ·) = some ns) :
    ∃ us, unitBytes us = front ++ s ∧ us.map TextUnit.value = ns := by
  obtain ⟨u, rfl, rfl⟩ := hunit
  obtain ⟨ms, hms, rfl⟩ := Option.map_eq_some_iff.mp h
  obtain ⟨us, rfl, rfl⟩ := ih hms
  exact ⟨u :: us, List.flatMap_cons, List.map_cons⟩

/-- **Bytes are cut into units exactly if they are a written row of units.** -/
theorem units_eq_some_iff {s : Bytes} {ns : List Nat} :
    units s = some ns ↔ ∃ us, unitBytes us = s ∧ us.map TextUnit.value = ns := by
  constructor
  · intro h
    -- one case for each way in which the first unit is read, or is not
    fun_induction units s generalizing ns with
    | case1 => exact ⟨[], rfl, by simpa using h⟩
    | case2 a s hone ih => exact exists_units_cons (exists_unit_of_one hone) ih h
    | case3 => cases h
    | case4 a b s hone n htwo ih => exact exists_units_cons (exists_unit_of_twoByte? htwo) ih h
    | case5 => cases h
    | case6 a b c s hone htwo n hthree ih =>
        exact exists_units_cons (exists_unit_of_threeByte? hthree) ih h
    | case7 => cases h
    | case8 a b c d s hone htwo hthree n hfour ih =>
        exact exists_units_cons (exists_unit_of_fourByte? hfour) ih h
    | case9 => cases h
  · rintro ⟨us, rfl, rfl⟩
    induction us with
    | nil => rfl
    | cons u us ih =>
        rw [unitBytes, List.flatMap_cons, units_bytes_append]
        exact Option.map_eq_some_iff.mpr ⟨_, ih, rfl⟩

/-! ## Joining pairs -/

theorem isHigh_eq_true_iff {u : TextUnit} : isHigh u.value = true ↔ u.IsHigh := by
  simp only [isHigh, Bool.and_eq_true, decide_eq_true_eq, TextUnit.IsHigh]

theorem isLow_eq_true_iff {u : TextUnit} : isLow u.value = true ↔ u.IsLow := by
  simp only [isLow, Bool.and_eq_true, decide_eq_true_eq, TextUnit.IsLow]

theorem TextUnit.IsHigh.not_isLow {u : TextUnit} (h : u.IsHigh) : ¬ u.IsLow := by
  rintro ⟨hlow, -⟩
  have := h.2
  omega

theorem paired_nil : Paired [] := ⟨by simp, by simp⟩

/-- A unit that is no surrogate may stand anywhere. -/
theorem paired_cons_iff {u : TextUnit} {us : List TextUnit} (hhigh : ¬ u.IsHigh)
    (hlow : ¬ u.IsLow) : Paired (u :: us) ↔ Paired us := by
  constructor
  · intro h
    refine ⟨fun i v hv hhigh' => ?_, fun i v hv hlow' => ?_⟩
    · exact h.followed (i + 1) v hv hhigh'
    · obtain ⟨j, w, hj, hw, hhigh'⟩ := h.preceded (i + 1) v hv hlow'
      obtain rfl : i = j := by omega
      -- it is not the unit in front that precedes a low surrogate
      cases i with
      | zero =>
          obtain rfl : u = w := Option.some.inj hw
          exact absurd hhigh' hhigh
      | succ i => exact ⟨i, w, rfl, hw, hhigh'⟩
  · intro h
    refine ⟨fun i v hv hhigh' => ?_, fun i v hv hlow' => ?_⟩
    · cases i with
      | zero =>
          obtain rfl : u = v := Option.some.inj hv
          exact absurd hhigh' hhigh
      | succ i => exact h.followed i v hv hhigh'
    · cases i with
      | zero =>
          obtain rfl : u = v := Option.some.inj hv
          exact absurd hlow' hlow
      | succ i =>
          obtain ⟨j, w, rfl, hw, hhigh'⟩ := h.preceded i v hv hlow'
          exact ⟨j + 1, w, rfl, hw, hhigh'⟩

/-- A pair of surrogates may stand anywhere. -/
theorem paired_pair_iff {u v : TextUnit} {us : List TextUnit} (hhigh : u.IsHigh) (hlow : v.IsLow) :
    Paired (u :: v :: us) ↔ Paired us := by
  have hhigh' : ¬ v.IsHigh := fun h => h.not_isLow hlow
  constructor
  · intro h
    refine ⟨fun i w hw hw' => h.followed (i + 2) w hw hw', fun i w hw hw' => ?_⟩
    obtain ⟨j, x, hj, hx, hx'⟩ := h.preceded (i + 2) w hw hw'
    obtain rfl : j = i + 1 := by omega
    cases i with
    | zero =>
        obtain rfl : v = x := Option.some.inj hx
        exact absurd hx' hhigh'
    | succ i => exact ⟨i, x, rfl, hx, hx'⟩
  · intro h
    refine ⟨fun i w hw hw' => ?_, fun i w hw hw' => ?_⟩
    · match i with
      | 0 => exact ⟨v, rfl, hlow⟩
      | 1 =>
          obtain rfl : v = w := Option.some.inj hw
          exact absurd hw' hhigh'
      | i + 2 => exact h.followed i w hw hw'
    · match i with
      | 0 =>
          obtain rfl : u = w := Option.some.inj hw
          exact absurd hw' hhigh.not_isLow
      | 1 => exact ⟨0, u, rfl, rfl, hhigh⟩
      | i + 2 =>
          obtain ⟨j, x, rfl, hx, hx'⟩ := h.preceded i w hw hw'
          exact ⟨j + 2, x, rfl, hx, hx'⟩

theorem not_isLow_of_paired {u : TextUnit} {us : List TextUnit} (h : Paired (u :: us)) :
    ¬ u.IsLow := by
  intro hlow
  obtain ⟨j, w, hj, -⟩ := h.preceded 0 u rfl hlow
  omega

theorem exists_isLow_of_paired {u : TextUnit} {us : List TextUnit} (h : Paired (u :: us))
    (hhigh : u.IsHigh) : ∃ v rest, us = v :: rest ∧ v.IsLow := by
  obtain ⟨v, hv, hlow⟩ := h.followed 0 u rfl hhigh
  have hhead : us.head? = some v := by
    rw [List.head?_eq_getElem?]
    exact hv
  obtain ⟨rest, rfl⟩ := List.head?_eq_some_iff.mp hhead
  exact ⟨v, rest, rfl, hlow⟩

/-- A paired row is made of pairs, and of units that are no surrogates. -/
theorem Paired.induction {motive : (us : List TextUnit) → Paired us → Prop}
    (nil : motive [] paired_nil)
    (plain : ∀ u us (hhigh : ¬ u.IsHigh) (hlow : ¬ u.IsLow) (h : Paired us), motive us h →
      motive (u :: us) ((paired_cons_iff hhigh hlow).mpr h))
    (pair : ∀ u v us (hhigh : u.IsHigh) (hlow : v.IsLow) (h : Paired us), motive us h →
      motive (u :: v :: us) ((paired_pair_iff hhigh hlow).mpr h))
    {us : List TextUnit} (h : Paired us) : motive us h := by
  -- a pair takes two units at once, so the induction has to reach back by two
  induction hn : us.length using Nat.strong_induction_on generalizing us with
  | _ n ih =>
      cases us with
      | nil => exact nil
      | cons u us =>
          rw [List.length_cons] at hn
          have hlow := not_isLow_of_paired h
          by_cases hhigh : u.IsHigh
          · obtain ⟨v, rest, rfl, hvlow⟩ := exists_isLow_of_paired h hhigh
            rw [List.length_cons] at hn
            have hrest : Paired rest := (paired_pair_iff hhigh hvlow).mp h
            exact pair u v rest hhigh hvlow hrest (ih _ (by omega) hrest rfl)
          · have hrest : Paired us := (paired_cons_iff hhigh hlow).mp h
            exact plain u us hhigh hlow hrest (ih _ (by omega) hrest rfl)

theorem combine_plain {n : Nat} (rest : List Nat) (hhigh : ¬ isHigh n = true)
    (hlow : ¬ isLow n = true) :
    combine (n :: rest) = (combine rest).map (Char.ofNat n :: ·) := by
  rw [combine.eq_def]
  simp [hhigh, hlow]

theorem combine_pair {n m : Nat} (rest : List Nat) (hhigh : isHigh n = true)
    (hlow : isLow m = true) :
    combine (n :: m :: rest) = (combine rest).map (Char.ofNat (joinPair n m) :: ·) := by
  rw [combine.eq_def]
  simp [hhigh, hlow]

theorem toNat_ofNat_of_valid {n : Nat} (h : n.isValidChar) : (Char.ofNat n).toNat = n := by
  rw [Char.ofNat, dif_pos h]
  rfl

/-- The number of a unit is the code point of a character, unless it is a surrogate. -/
theorem TextUnit.isValidChar_value {u : TextUnit} (hhigh : ¬ u.IsHigh) (hlow : ¬ u.IsLow) :
    u.value.isValidChar := by
  have hlt := u.value_lt
  rw [IsHigh] at hhigh
  rw [IsLow] at hlow
  rcases Nat.lt_or_ge u.value 0xd800 with hsmall | hlarge
  · exact Or.inl hsmall
  · exact Or.inr ⟨by omega, hlt⟩

/-- A pair of surrogates makes the code point of a character. -/
theorem isValidChar_joinPair {u v : TextUnit} (hhigh : u.IsHigh) (hlow : v.IsLow) :
    (joinPair u.value v.value).isValidChar := by
  obtain ⟨hu, hu'⟩ := hhigh
  obtain ⟨hv, hv'⟩ := hlow
  have hjoin : joinPair u.value v.value
      = 0x10000 + (u.value - 0xd800) * 0x400 + (v.value - 0xdc00) := rfl
  exact Or.inr ⟨by omega, by omega⟩

theorem codePoints_cons {u : TextUnit} (us : List TextUnit) (h : ¬ u.IsHigh) :
    codePoints (u :: us) = u.value :: codePoints us := by
  cases us with
  | nil => rfl
  | cons v us => rw [codePoints, if_neg fun hpair => h hpair.1]

/-- A paired row is joined, to the characters of its code points. -/
theorem Paired.exists_combine {us : List TextUnit} (h : Paired us) :
    ∃ cs, combine (us.map TextUnit.value) = some cs ∧ cs.map Char.toNat = codePoints us := by
  induction h using Paired.induction with
  | nil => exact ⟨[], rfl, rfl⟩
  | plain u us hhigh hlow _ ih =>
      obtain ⟨cs, hcs, hpoints⟩ := ih
      refine ⟨Char.ofNat u.value :: cs, ?_, ?_⟩
      · rw [List.map_cons, combine_plain _ (mt isHigh_eq_true_iff.mp hhigh)
          (mt isLow_eq_true_iff.mp hlow), hcs, Option.map_some]
      · rw [List.map_cons, toNat_ofNat_of_valid (u.isValidChar_value hhigh hlow), hpoints,
          codePoints_cons us hhigh]
  | pair u v us hhigh hlow _ ih =>
      obtain ⟨cs, hcs, hpoints⟩ := ih
      refine ⟨Char.ofNat (joinPair u.value v.value) :: cs, ?_, ?_⟩
      · rw [List.map_cons, List.map_cons, combine_pair _ (isHigh_eq_true_iff.mpr hhigh)
          (isLow_eq_true_iff.mpr hlow), hcs, Option.map_some]
      · rw [List.map_cons, toNat_ofNat_of_valid (isValidChar_joinPair hhigh hlow), hpoints,
          codePoints, if_pos ⟨hhigh, hlow⟩]
        rfl

/-- A row that is joined is paired. -/
theorem paired_of_combine {us : List TextUnit} {cs : List Char}
    (h : combine (us.map TextUnit.value) = some cs) : Paired us := by
  generalize hns : us.map TextUnit.value = ns at h
  fun_induction combine ns generalizing us cs with
  | case1 =>
      rw [List.map_eq_nil_iff.mp hns]
      exact paired_nil
  | case2 => cases h
  | case3 n hhigh m rest hlow ih =>
      obtain ⟨u, us, rfl, rfl, hrest⟩ := List.map_eq_cons_iff.mp hns
      obtain ⟨v, us, rfl, rfl, rfl⟩ := List.map_eq_cons_iff.mp hrest
      obtain ⟨ds, hds, -⟩ := Option.map_eq_some_iff.mp h
      exact (paired_pair_iff (isHigh_eq_true_iff.mp hhigh) (isLow_eq_true_iff.mp hlow)).mpr
        (ih rfl hds)
  | case4 => cases h
  | case5 => cases h
  | case6 n rest hhigh hlow ih =>
      obtain ⟨u, us, rfl, rfl, rfl⟩ := List.map_eq_cons_iff.mp hns
      obtain ⟨ds, hds, -⟩ := Option.map_eq_some_iff.mp h
      exact (paired_cons_iff (mt isHigh_eq_true_iff.mpr hhigh) (mt isLow_eq_true_iff.mpr hlow)).mpr
        (ih rfl hds)

/-! ## Whole texts -/

/-- The written form of a paired row is decoded, to the characters of its code points. -/
theorem Paired.exists_decode? {us : List TextUnit} (h : Paired us) :
    ∃ s, decode? (unitBytes us) = some s ∧ s.toList.map Char.toNat = codePoints us := by
  obtain ⟨cs, hcs, hpoints⟩ := h.exists_combine
  refine ⟨String.ofList cs, ?_, by rw [String.toList_ofList, hpoints]⟩
  rw [decode?, units_eq_some_iff.mpr ⟨us, rfl, rfl⟩]
  exact congrArg (Option.map String.ofList) hcs

/-- What is decoded is the written form of a paired row. -/
theorem exists_paired_of_decode? {bytes : Bytes} {s : String} (h : decode? bytes = some s) :
    ∃ us, unitBytes us = bytes ∧ Paired us := by
  obtain ⟨cs, hcs, -⟩ := Option.map_eq_some_iff.mp h
  obtain ⟨ns, hns, hcombine⟩ := Option.bind_eq_some_iff.mp hcs
  obtain ⟨us, hbytes, rfl⟩ := units_eq_some_iff.mp hns
  exact ⟨us, hbytes, paired_of_combine hcombine⟩

/-- **A text is decoded from exactly the paired rows whose code points are its characters.** -/
theorem decode?_eq_some_iff {bytes : Bytes} {s : String} :
    decode? bytes = some s ↔
      ∃ us, unitBytes us = bytes ∧ Paired us ∧ s.toList.map Char.toNat = codePoints us := by
  constructor
  · intro h
    obtain ⟨us, rfl, hpaired⟩ := exists_paired_of_decode? h
    obtain ⟨t, ht, hpoints⟩ := hpaired.exists_decode?
    obtain rfl : s = t := Option.some.inj (h.symm.trans ht)
    exact ⟨us, rfl, hpaired, hpoints⟩
  · rintro ⟨us, rfl, hpaired, hpoints⟩
    obtain ⟨t, ht, hpoints'⟩ := hpaired.exists_decode?
    -- a character is known by its code point
    have hchars : s.toList = t.toList :=
      (List.map_inj_right fun _ _ => Char.toNat_inj.mp).mp (hpoints.trans hpoints'.symm)
    rw [ht, String.toList_inj.mp hchars]

end JvmDeps.ModifiedUtf8
