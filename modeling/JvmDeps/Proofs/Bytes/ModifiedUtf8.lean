import JvmDeps.Bytes.ModifiedUtf8

set_option autoImplicit false

/-! # Encoded texts are decoded

A character is encoded in units, itself or its two surrogates, and every unit in one to three bytes.
`units_encodeChar` reads the units of a character back off the front of any bytes, `combine_append`
joins them to the character again, and `decode?_encode` puts the two together along a text.
-/

namespace JvmDeps.ModifiedUtf8

/-- The units of a character: itself, or its two surrogates. -/
def unitsOf (c : Char) : List Nat :=
  if c.toNat < 0x10000 then [c.toNat]
  else [0xd800 + (c.toNat - 0x10000) / 0x400, 0xdc00 + (c.toNat - 0x10000) % 0x400]

/-! ## Units -/

theorem continuation?_ofNat {n : Nat} (h : n < 64) :
    continuation? (UInt8.ofNat (0x80 + n)) = some n := by
  have hbyte : (UInt8.ofNat (0x80 + n)).toNat = 0x80 + n := by
    rw [UInt8.toNat_ofNat']
    omega
  have hrange : (decide (0x80 ≤ 0x80 + n) && decide (0x80 + n < 0xc0)) = true := by
    simp only [Bool.and_eq_true, decide_eq_true_eq]
    omega
  rw [continuation?, hbyte, if_pos hrange, Nat.add_sub_cancel_left]

/-- A unit of one byte. -/
theorem units_one {a : UInt8} (s : Bytes) (h : a.toNat < 0x80) :
    units (a :: s) = (units s).map (a.toNat :: ·) := by
  rw [units.eq_def]
  simp only [if_pos h]

/-- A unit of two bytes. -/
theorem units_two {a b : UInt8} {n : Nat} (s : Bytes) (h : ¬ a.toNat < 0x80)
    (htwo : twoByte? a b = some n) : units (a :: b :: s) = (units s).map (n :: ·) := by
  rw [units.eq_def]
  simp only [if_neg h, htwo]

/-- A unit of three bytes. -/
theorem units_three {a b c : UInt8} {n : Nat} (s : Bytes) (h : ¬ a.toNat < 0x80)
    (htwo : twoByte? a b = none) (hthree : threeByte? a b c = some n) :
    units (a :: b :: c :: s) = (units s).map (n :: ·) := by
  rw [units.eq_def]
  simp only [if_neg h, htwo, hthree]

theorem units_threeBytes {n : Nat} (s : Bytes) (hlow : 0x800 ≤ n) (hhigh : n < 0x10000) :
    units (threeBytes n ++ s) = (units s).map (n :: ·) := by
  have hfirst : (UInt8.ofNat (0xe0 + n / 4096)).toNat = 0xe0 + n / 4096 := by
    rw [UInt8.toNat_ofNat']
    omega
  have hmiddle := continuation?_ofNat (show n / 64 % 64 < 64 by omega)
  have hlast := continuation?_ofNat (show n % 64 < 64 by omega)
  have hvalue : ((0xe0 + n / 4096 - 0xe0) * 64 + n / 64 % 64) * 64 + n % 64 = n := by omega
  apply units_three
  · omega
  · -- the first byte is beyond those that start two bytes
    simp only [twoByte?, hmiddle, hfirst, Option.bind_eq_bind, Option.bind_some, Bool.and_eq_true,
      decide_eq_true_eq]
    rw [if_neg (by omega), if_neg (by omega)]
  · simp only [threeByte?, hmiddle, hlast, hfirst, hvalue, Option.bind_eq_bind, Option.bind_some,
      Bool.and_eq_true, decide_eq_true_eq]
    rw [if_pos (by omega)]

theorem units_twoBytes {n : Nat} (s : Bytes) (hlow : 0x80 ≤ n) (hhigh : n < 0x800) :
    units (UInt8.ofNat (0xc0 + n / 64) :: UInt8.ofNat (0x80 + n % 64) :: s)
      = (units s).map (n :: ·) := by
  have hfirst : (UInt8.ofNat (0xc0 + n / 64)).toNat = 0xc0 + n / 64 := by
    rw [UInt8.toNat_ofNat']
    omega
  have hlast := continuation?_ofNat (show n % 64 < 64 by omega)
  have hvalue : (0xc0 + n / 64 - 0xc0) * 64 + n % 64 = n := by omega
  apply units_two
  · omega
  · simp only [twoByte?, hlast, hfirst, hvalue, Option.bind_eq_bind, Option.bind_some,
      Bool.and_eq_true, decide_eq_true_eq]
    rw [if_neg (by omega), if_pos (by omega)]

/-- The code points of characters. -/
theorem toNat_valid (c : Char) : c.toNat < 0xd800 ∨ 0xdfff < c.toNat ∧ c.toNat < 0x110000 :=
  c.valid

/-- **The units of a character are read back off the front.** -/
theorem units_encodeChar (c : Char) (s : Bytes) :
    units (encodeChar c ++ s) = (units s).map (unitsOf c ++ ·) := by
  have hvalid := toNat_valid c
  rw [encodeChar, unitsOf]
  -- one case for each length of an encoded character
  by_cases hzero : c.toNat = 0
  · simp only [hzero, if_true]
    exact units_two s (by decide) (by decide)
  · by_cases hone : c.toNat < 0x80
    · have hbyte : (UInt8.ofNat c.toNat).toNat = c.toNat := by
        rw [UInt8.toNat_ofNat']
        omega
      have hunits := units_one s (show (UInt8.ofNat c.toNat).toNat < 0x80 by omega)
      rw [hbyte] at hunits
      simp only [if_neg hzero, if_pos hone, if_pos (show c.toNat < 0x10000 by omega)]
      exact hunits
    · by_cases htwo : c.toNat < 0x800
      · simp only [if_neg hzero, if_neg hone, if_pos htwo, if_pos (show c.toNat < 0x10000 by omega)]
        exact units_twoBytes s (by omega) htwo
      · by_cases hthree : c.toNat < 0x10000
        · simp only [if_neg hzero, if_neg hone, if_neg htwo, if_pos hthree]
          exact units_threeBytes s (by omega) hthree
        · simp only [if_neg hzero, if_neg hone, if_neg htwo, if_neg hthree]
          rw [List.append_assoc, units_threeBytes _ (by omega) (by omega),
            units_threeBytes _ (by omega) (by omega), Option.map_map]
          rfl

/-! ## Characters -/

/-- The units of a character are joined to the character. -/
theorem combine_append (c : Char) (rest : List Nat) :
    combine (unitsOf c ++ rest) = (combine rest).map (c :: ·) := by
  have hvalid := toNat_valid c
  rw [unitsOf]
  -- a character of the basic plane is no surrogate
  by_cases hplain : c.toNat < 0x10000
  · have hhigh : isHigh c.toNat = false := by
      simp only [isHigh, Bool.and_eq_false_iff, decide_eq_false_iff_not]
      omega
    have hlow : isLow c.toNat = false := by
      simp only [isLow, Bool.and_eq_false_iff, decide_eq_false_iff_not]
      omega
    rw [if_pos hplain, List.singleton_append, combine.eq_def]
    simp [hhigh, hlow]
  · have hhigh : isHigh (0xd800 + (c.toNat - 0x10000) / 0x400) = true := by
      simp only [isHigh, Bool.and_eq_true, decide_eq_true_eq]
      omega
    have hlow : isLow (0xdc00 + (c.toNat - 0x10000) % 0x400) = true := by
      simp only [isLow, Bool.and_eq_true, decide_eq_true_eq]
      omega
    have hjoin : joinPair (0xd800 + (c.toNat - 0x10000) / 0x400)
        (0xdc00 + (c.toNat - 0x10000) % 0x400) = c.toNat := by
      unfold joinPair
      omega
    rw [if_neg hplain, List.cons_append, List.singleton_append, combine.eq_def]
    simp [hhigh, hlow, hjoin]

theorem units_encode (cs : List Char) :
    units (cs.flatMap encodeChar) = some (cs.flatMap unitsOf) := by
  induction cs with
  | nil => rfl
  | cons c cs ih => rw [List.flatMap_cons, units_encodeChar, ih, Option.map_some, List.flatMap_cons]

theorem combine_units (cs : List Char) : combine (cs.flatMap unitsOf) = some cs := by
  induction cs with
  | nil => rfl
  | cons c cs ih => rw [List.flatMap_cons, combine_append, ih, Option.map_some]

/-- **Encoded texts are decoded.** -/
theorem decode?_encode (s : String) : decode? (encode s) = some s := by
  rw [decode?, encode, units_encode]
  show (combine (s.toList.flatMap unitsOf)).map String.ofList = some s
  rw [combine_units, Option.map_some, String.ofList_toList]

end JvmDeps.ModifiedUtf8
