import JvmDeps.Proofs.Bytes.LenientUtf8

set_option autoImplicit false

/-! # Decoding in three passes

Modified UTF-8 can be decoded with codecs that do not know it. In the first pass every `C0 80` is
replaced by a zero byte. The second reads UTF-8 that lets surrogates pass. The third writes the code
points as UTF-16, surrogates as they are, and reads that back, which joins the pairs.

`decode?_eq_passes?` says that this is what `decode?` does, in either byte order. It rests on one
statement for each pass: a replacement does not touch other units (`exists_of_replaceZeroPairs`),
the second pass reads the units other than `C0 80` (`lenient?_eq_some_iff`), and writing and reading
UTF-16 is joining (`ofUtf16?_toUtf16`). The mark that is written in front of UTF-16 is the one that
is taken off again, whatever character the text starts with.
-/

namespace JvmDeps.ModifiedUtf8

/-! ## Replacing `C0 80` -/

/-- Puts a zero byte for every `C0 80`, from left to right. -/
def replaceZeroPairs : Bytes → Bytes
  | [] => []
  | [a] => [a]
  | a :: b :: s =>
    if a = 0xc0 ∧ b = 0x80 then 0 :: replaceZeroPairs s else a :: replaceZeroPairs (b :: s)

/-- The same number without `C0 80`. -/
def TextUnit.plain : TextUnit → TextUnit
  | zeroPair => one 0 (by decide)
  | u => u

theorem TextUnit.plain_of_ne {u : TextUnit} (h : u ≠ .zeroPair) : u.plain = u := by
  cases u with
  | zeroPair => exact absurd rfl h
  | _ => rfl

theorem TextUnit.value_plain (u : TextUnit) : u.plain.value = u.value := by
  cases u <;> rfl

theorem TextUnit.plain_ne (u : TextUnit) : u.plain ≠ .zeroPair := by
  cases u <;> exact nofun

/-- No byte of another unit is the first of `C0 80`, or a zero unless the unit is. -/
theorem TextUnit.toNat_of_mem_bytes {u : TextUnit} (h : u ≠ .zeroPair) :
    ∀ b ∈ u.bytes, b.toNat ≠ 0xc0 ∧ (b.toNat = 0 → u.value = 0) := by
  intro b hb
  cases u with
  | zeroPair => exact absurd rfl h
  | one n fits =>
      simp only [bytes, List.mem_singleton] at hb
      rw [hb, toNat_ofNat_of_lt (by omega)]
      exact ⟨by omega, id⟩
  | two n fits =>
      simp only [bytes, List.mem_cons, List.not_mem_nil, or_false] at hb
      rcases hb with rfl | rfl
      all_goals
        rw [toNat_ofNat_of_lt (by omega)]
        omega
  | three n fits =>
      simp only [bytes, threeBytes, List.mem_cons, List.not_mem_nil, or_false] at hb
      rcases hb with rfl | rfl | rfl
      all_goals
        rw [toNat_ofNat_of_lt (by omega)]
        omega
  | four n fits =>
      simp only [bytes, List.mem_cons, List.not_mem_nil, or_false] at hb
      rcases hb with rfl | rfl | rfl | rfl
      all_goals
        rw [toNat_ofNat_of_lt (by omega)]
        omega

theorem replaceZeroPairs_cons {a : UInt8} (h : a ≠ 0xc0) (s : Bytes) :
    replaceZeroPairs (a :: s) = a :: replaceZeroPairs s := by
  cases s with
  | nil => rfl
  | cons b s => rw [replaceZeroPairs, if_neg fun hpair => h hpair.1]

theorem replaceZeroPairs_append {front : Bytes} (h : ∀ b ∈ front, b ≠ 0xc0) (s : Bytes) :
    replaceZeroPairs (front ++ s) = front ++ replaceZeroPairs s := by
  induction front with
  | nil => rfl
  | cons a front ih =>
      obtain ⟨ha, hfront⟩ := List.forall_mem_cons.mp h
      rw [List.cons_append, replaceZeroPairs_cons ha, ih hfront, List.cons_append]

theorem replaceZeroPairs_bytes_append (u : TextUnit) (s : Bytes) :
    replaceZeroPairs (u.bytes ++ s) = u.plain.bytes ++ replaceZeroPairs s := by
  by_cases hpair : u = .zeroPair
  · subst hpair
    rfl
  · rw [TextUnit.plain_of_ne hpair]
    apply replaceZeroPairs_append
    rintro b hb rfl
    exact (TextUnit.toNat_of_mem_bytes hpair _ hb).1 rfl

theorem replaceZeroPairs_unitBytes (us : List TextUnit) :
    replaceZeroPairs (unitBytes us) = unitBytes (us.map TextUnit.plain) := by
  induction us with
  | nil => rfl
  | cons u us ih =>
      rw [unitBytes, List.flatMap_cons, replaceZeroPairs_bytes_append, List.map_cons, unitBytes,
        List.flatMap_cons]
      exact congrArg _ ih

/-- A byte that is there after the replacement was there before, or is a zero for `C0 80`. -/
theorem cons_of_replaceZeroPairs {s rest : Bytes} {b : UInt8}
    (h : replaceZeroPairs s = b :: rest) :
    (∃ s', s = b :: s' ∧ replaceZeroPairs s' = rest) ∨
      b = 0 ∧ ∃ s', s = 0xc0 :: 0x80 :: s' ∧ replaceZeroPairs s' = rest := by
  match s with
  | [] => cases h
  | [a] =>
      cases h
      exact Or.inl ⟨[], rfl, rfl⟩
  | a :: c :: s =>
      rw [replaceZeroPairs] at h
      split at h
      · rename_i hpair
        obtain ⟨rfl, rfl⟩ := List.cons.inj h
        exact Or.inr ⟨rfl, s, by rw [hpair.1, hpair.2], rfl⟩
      · obtain ⟨rfl, rfl⟩ := List.cons.inj h
        exact Or.inl ⟨c :: s, rfl, rfl⟩

theorem append_of_replaceZeroPairs {s front rest : Bytes} (hfront : ∀ b ∈ front, b ≠ 0)
    (h : replaceZeroPairs s = front ++ rest) :
    ∃ s', s = front ++ s' ∧ replaceZeroPairs s' = rest := by
  induction front generalizing s with
  | nil => exact ⟨s, rfl, h⟩
  | cons b front ih =>
      obtain ⟨hb, hfront⟩ := List.forall_mem_cons.mp hfront
      rcases cons_of_replaceZeroPairs h with ⟨s', rfl, hs'⟩ | ⟨hzero, -⟩
      · obtain ⟨s'', rfl, hs''⟩ := ih hfront hs'
        exact ⟨s'', rfl, hs''⟩
      · exact absurd hzero hb

/-- **A replacement does not touch other units**: a unit that is there after it was there before,
if only as `C0 80`. -/
theorem exists_of_replaceZeroPairs {u : TextUnit} {s rest : Bytes} (hu : u ≠ .zeroPair)
    (h : replaceZeroPairs s = u.bytes ++ rest) :
    ∃ (v : TextUnit) (s' : Bytes), v.value = u.value ∧ s = v.bytes ++ s' ∧
      replaceZeroPairs s' = rest := by
  by_cases hvalue : u.value = 0
  · obtain rfl : u = .one 0 (by decide) := by
      cases u with
      | zeroPair => exact absurd rfl hu
      | one n fits =>
          obtain rfl : n = 0 := hvalue
          rfl
      | two n fits => exact absurd hvalue (by show n ≠ 0; omega)
      | three n fits => exact absurd hvalue (by show n ≠ 0; omega)
      | four n fits => exact absurd hvalue (by show n ≠ 0; omega)
    rcases cons_of_replaceZeroPairs h with ⟨s', rfl, hs'⟩ | ⟨-, s', rfl, hs'⟩
    · exact ⟨.one 0 (by decide), s', rfl, rfl, hs'⟩
    · exact ⟨.zeroPair, s', rfl, rfl, hs'⟩
  · have hbytes : ∀ b ∈ u.bytes, b ≠ 0 := by
      rintro b hb rfl
      exact hvalue ((TextUnit.toNat_of_mem_bytes hu _ hb).2 rfl)
    obtain ⟨s', rfl, hs'⟩ := append_of_replaceZeroPairs hbytes h
    exact ⟨u, s', rfl, rfl, hs'⟩

/-- Units that are there after the replacement were there before, some perhaps as `C0 80`. -/
theorem exists_units_of_replaceZeroPairs {us : List TextUnit} {s : Bytes}
    (hus : ∀ u ∈ us, u ≠ .zeroPair) (h : replaceZeroPairs s = unitBytes us) :
    ∃ vs, unitBytes vs = s ∧ vs.map TextUnit.value = us.map TextUnit.value := by
  induction us generalizing s with
  | nil =>
      cases s with
      | nil => exact ⟨[], rfl, rfl⟩
      | cons a s =>
          rcases s with _ | ⟨b, s⟩
          · cases h
          · rw [replaceZeroPairs] at h
            split at h
            · cases h
            · cases h
  | cons u us ih =>
      obtain ⟨hu, hus⟩ := List.forall_mem_cons.mp hus
      obtain ⟨v, s', hvalue, rfl, hs'⟩ := exists_of_replaceZeroPairs hu h
      obtain ⟨vs, rfl, hvalues⟩ := ih hus hs'
      exact ⟨v :: vs, rfl, by rw [List.map_cons, List.map_cons, hvalue, hvalues]⟩

/-- **The first two passes cut bytes into their units.** -/
theorem lenient?_replaceZeroPairs (s : Bytes) : lenient? (replaceZeroPairs s) = units s := by
  apply Option.ext
  intro ns
  rw [lenient?_eq_some_iff, units_eq_some_iff]
  constructor
  · rintro ⟨us, hus, hbytes, rfl⟩
    exact exists_units_of_replaceZeroPairs hus hbytes.symm
  · rintro ⟨us, rfl, rfl⟩
    refine ⟨us.map TextUnit.plain, ?_, (replaceZeroPairs_unitBytes us).symm, ?_⟩
    · intro u hu
      obtain ⟨v, -, rfl⟩ := List.mem_map.mp hu
      exact v.plain_ne
    · rw [List.map_map]
      exact List.map_congr_left fun u _ => u.value_plain

/-! ## UTF-16 -/

/-- The order of the two bytes of a number. -/
inductive ByteOrder where
  | little
  | big
deriving DecidableEq, Repr

/-- The two bytes of a number. -/
def ByteOrder.bytes : ByteOrder → Nat → Bytes
  | little, n => [UInt8.ofNat (n % 256), UInt8.ofNat (n / 256)]
  | big, n => [UInt8.ofNat (n / 256), UInt8.ofNat (n % 256)]

/-- The number of two bytes. -/
def ByteOrder.number : ByteOrder → UInt8 → UInt8 → Nat
  | little, a, b => b.toNat * 256 + a.toNat
  | big, a, b => a.toNat * 256 + b.toNat

/-- A code point in UTF-16: itself, or its two surrogates. -/
def codeUnits (n : Nat) : List Nat :=
  if n < 0x10000 then [n]
  else [0xd800 + (n - 0x10000) / 0x400, 0xdc00 + (n - 0x10000) % 0x400]

/-- Code points in UTF-16, behind a byte order mark. Surrogates among them are written as they
are. -/
def toUtf16 (order : ByteOrder) (points : List Nat) : Bytes :=
  (0xfeff :: points.flatMap codeUnits).flatMap order.bytes

/-- Takes a byte order mark off the front, with the order that it shows; without one, the order is
`native`. -/
def splitMark (native : ByteOrder) : Bytes → ByteOrder × Bytes
  | a :: b :: s =>
    if a = 0xff ∧ b = 0xfe then (.little, s)
    else if a = 0xfe ∧ b = 0xff then (.big, s)
    else (native, a :: b :: s)
  | s => (native, s)

/-- The numbers of two bytes each. -/
def numbers? (order : ByteOrder) : Bytes → Option (List Nat)
  | [] => some []
  | [_] => none
  | a :: b :: s => (numbers? order s).map (order.number a b :: ·)

/-- The characters of UTF-16, with or without a byte order mark. -/
def ofUtf16? (native : ByteOrder) (bytes : Bytes) : Option (List Char) :=
  numbers? (splitMark native bytes).1 (splitMark native bytes).2 >>= combine

/-- Decodes in three passes. -/
def passes? (order : ByteOrder) (bytes : Bytes) : Option String :=
  (lenient? (replaceZeroPairs bytes) >>= fun points => ofUtf16? order (toUtf16 order points)).map
    String.ofList

theorem numbers?_bytes_append (order : ByteOrder) {n : Nat} (h : n < 0x10000) (s : Bytes) :
    numbers? order (order.bytes n ++ s) = (numbers? order s).map (n :: ·) := by
  have hlow := toNat_ofNat_of_lt (show n % 256 < 256 by omega)
  have hhigh := toNat_ofNat_of_lt (show n / 256 < 256 by omega)
  have hnumber : n / 256 * 256 + n % 256 = n := by omega
  cases order with
  | little => simp only [ByteOrder.bytes, List.cons_append, List.nil_append, numbers?,
      ByteOrder.number, hlow, hhigh, hnumber]
  | big => simp only [ByteOrder.bytes, List.cons_append, List.nil_append, numbers?,
      ByteOrder.number, hlow, hhigh, hnumber]

theorem numbers?_flatMap (order : ByteOrder) {ns : List Nat} (h : ∀ n ∈ ns, n < 0x10000) :
    numbers? order (ns.flatMap order.bytes) = some ns := by
  induction ns with
  | nil => rfl
  | cons n ns ih =>
      obtain ⟨hn, hns⟩ := List.forall_mem_cons.mp h
      rw [List.flatMap_cons, numbers?_bytes_append order hn, ih hns, Option.map_some]

/-- The mark that was written is the one that is taken off. -/
theorem splitMark_bytes_append (order native : ByteOrder) (s : Bytes) :
    splitMark native (order.bytes 0xfeff ++ s) = (order, s) := by
  cases order <;> rfl

theorem codeUnits_of_lt {n : Nat} (h : n < 0x10000) : codeUnits n = [n] := if_pos h

theorem lt_of_mem_codeUnits {n m : Nat} (h : n < 0x110000) (hm : m ∈ codeUnits n) :
    m < 0x10000 := by
  rw [codeUnits] at hm
  split at hm
  · rename_i hlt
    rw [List.mem_singleton.mp hm]
    exact hlt
  · simp only [List.mem_cons, List.not_mem_nil, or_false] at hm
    omega

/-- The first code unit of a code point is a low surrogate only if the code point is. -/
theorem exists_codeUnits_cons {m : Nat} (h : m < 0x110000) (hlow : ¬ isLow m = true) :
    ∃ k ks, codeUnits m = k :: ks ∧ ¬ isLow k = true := by
  by_cases hlt : m < 0x10000
  · exact ⟨m, [], codeUnits_of_lt hlt, hlow⟩
  · refine ⟨0xd800 + (m - 0x10000) / 0x400, _, if_neg hlt, ?_⟩
    simp only [isLow, Bool.and_eq_true, decide_eq_true_eq]
    omega

theorem codeUnits_of_surrogate {n : Nat} (h : isHigh n = true ∨ isLow n = true) :
    codeUnits n = [n] := by
  apply codeUnits_of_lt
  simp only [isHigh, isLow, Bool.and_eq_true, decide_eq_true_eq] at h
  omega

/-- What is no surrogate is joined from its code units. -/
theorem combine_codeUnits_append {n : Nat} (rest : List Nat) (h : n < 0x110000)
    (hhigh : ¬ isHigh n = true) (hlow : ¬ isLow n = true) :
    combine (codeUnits n ++ rest) = (combine rest).map (Char.ofNat n :: ·) := by
  have hvalid : n.isValidChar := by
    simp only [isHigh, isLow, Bool.and_eq_true, decide_eq_true_eq] at hhigh hlow
    rcases Nat.lt_or_ge n 0xd800 with hsmall | hlarge
    · exact Or.inl hsmall
    · exact Or.inr ⟨by omega, h⟩
  have hcombine := combine_append (Char.ofNat n) rest
  rwa [unitsOf, toNat_ofNat_of_valid hvalid] at hcombine

/-- **Pairs of surrogates are joined alike before and after code points are taken apart**: the
surrogates of neighbours are not mixed up. -/
theorem combine_flatMap_codeUnits {ns : List Nat} (h : ∀ n ∈ ns, n < 0x110000) :
    combine (ns.flatMap codeUnits) = combine ns := by
  -- one case for each way to join the first unit, or not to
  fun_induction combine ns with
  | case1 => rfl
  | case2 n hhigh =>
      rw [List.flatMap_singleton, codeUnits_of_surrogate (Or.inl hhigh), combine.eq_def]
      simp [hhigh]
  | case3 n hhigh m rest hlow ih =>
      obtain ⟨-, h⟩ := List.forall_mem_cons.mp h
      obtain ⟨-, hrest⟩ := List.forall_mem_cons.mp h
      rw [List.flatMap_cons, List.flatMap_cons, codeUnits_of_surrogate (Or.inl hhigh),
        codeUnits_of_surrogate (Or.inr hlow)]
      exact (combine_pair _ hhigh hlow).trans (congrArg _ (ih hrest))
  | case4 n hhigh m rest hlow =>
      obtain ⟨-, h⟩ := List.forall_mem_cons.mp h
      obtain ⟨k, ks, hk, hklow⟩ := exists_codeUnits_cons (List.forall_mem_cons.mp h).1 hlow
      rw [List.flatMap_cons, List.flatMap_cons, codeUnits_of_surrogate (Or.inl hhigh), hk,
        combine.eq_def]
      simp [hhigh, hklow]
  | case5 n rest hhigh hlow =>
      rw [List.flatMap_cons, codeUnits_of_surrogate (Or.inr hlow), combine.eq_def]
      simp [hhigh, hlow]
  | case6 n rest hhigh hlow ih =>
      obtain ⟨hn, hrest⟩ := List.forall_mem_cons.mp h
      rw [List.flatMap_cons, combine_codeUnits_append _ hn hhigh hlow, ih hrest]

/-- **Writing UTF-16 and reading it back joins pairs of surrogates**, and does nothing else. -/
theorem ofUtf16?_toUtf16 (order : ByteOrder) {points : List Nat}
    (h : ∀ n ∈ points, n < 0x110000) : ofUtf16? order (toUtf16 order points) = combine points := by
  have hunits : ∀ n ∈ points.flatMap codeUnits, n < 0x10000 := by
    intro n hn
    obtain ⟨point, hpoint, hn⟩ := List.mem_flatMap.mp hn
    exact lt_of_mem_codeUnits (h point hpoint) hn
  rw [ofUtf16?, toUtf16, List.flatMap_cons, splitMark_bytes_append, numbers?_flatMap order hunits]
  exact combine_flatMap_codeUnits h

/-! ## The passes together -/

theorem lt_of_mem_units {bytes : Bytes} {points : List Nat} (h : units bytes = some points) :
    ∀ n ∈ points, n < 0x110000 := by
  obtain ⟨us, -, rfl⟩ := units_eq_some_iff.mp h
  intro n hn
  obtain ⟨u, -, rfl⟩ := List.mem_map.mp hn
  exact u.value_lt

/-- **The three passes decode as `decode?` does**, in either byte order. -/
theorem decode?_eq_passes? (order : ByteOrder) (bytes : Bytes) :
    decode? bytes = passes? order bytes := by
  rw [decode?, passes?, lenient?_replaceZeroPairs]
  cases hunits : units bytes with
  | none => rfl
  | some points =>
      show (combine points).map String.ofList
        = (ofUtf16? order (toUtf16 order points)).map String.ofList
      rw [ofUtf16?_toUtf16 order (lt_of_mem_units hunits)]

/-- **Encoded texts survive the three passes.** The first two give the UTF-16 code units of the
text, whatever its characters are, and the third gives the text. So it is decoded. -/
theorem passes_of_encode (order : ByteOrder) (s : String) :
    lenient? (replaceZeroPairs (encode s)) = some (s.toList.flatMap unitsOf) ∧
      ofUtf16? order (toUtf16 order (s.toList.flatMap unitsOf)) = some s.toList ∧
      decode? (encode s) = some s := by
  have hunits : units (encode s) = some (s.toList.flatMap unitsOf) := units_encode s.toList
  refine ⟨by rw [lenient?_replaceZeroPairs, hunits], ?_, decode?_encode s⟩
  rw [ofUtf16?_toUtf16 order (lt_of_mem_units hunits), combine_units]

/-- **Decoding accepts exactly the written forms of paired rows of units.** It gives the characters
of their code points, and fails on every other sequence of bytes. This holds of the three passes as
of the one. -/
theorem decode_accepts_paired_units (order : ByteOrder) (bytes : Bytes) :
    passes? order bytes = decode? bytes ∧
      (∀ s, decode? bytes = some s ↔
        ∃ us, unitBytes us = bytes ∧ Paired us ∧ s.toList.map Char.toNat = codePoints us) ∧
      (decode? bytes = none ↔ ¬ ∃ us, unitBytes us = bytes ∧ Paired us) := by
  refine ⟨(decode?_eq_passes? order bytes).symm, fun s => decode?_eq_some_iff, ?_⟩
  constructor
  · rintro hnone ⟨us, rfl, hpaired⟩
    obtain ⟨s, hs, -⟩ := hpaired.exists_decode?
    rw [hs] at hnone
    cases hnone
  · intro hnot
    cases hdecode : decode? bytes with
    | none => rfl
    | some s => exact absurd (exists_paired_of_decode? hdecode) hnot

end JvmDeps.ModifiedUtf8
