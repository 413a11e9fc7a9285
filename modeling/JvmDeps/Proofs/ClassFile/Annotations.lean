import JvmDeps.Proofs.ClassFile.Pool

set_option autoImplicit false

/-! # Annotations are read back, within the depth

A written value whose levels are within the depth is read back (`reads_readWithin`). On a deeper one
the reader comes to nothing, whatever follows it (`stops_readWithin`): some value in it lies below
the last level, and all that come before that one are read. Both are inductions over the tree of
values (`ElementValue.induct`), with one case for each kind of value.

`reads_readAnnotations` and `stops_readAnnotations` are what the rest of the class file needs.
-/

namespace JvmDeps.ClassFile

open JvmDeps.Parser

namespace ElementValue

/-! ## The tree of values -/

/-- Induction over a value: what holds of the values in it holds of the whole. -/
theorem induct {motive : ElementValue → Prop} (const : ∀ tag index, motive (.const tag index))
    (classInfo : ∀ index, motive (.classInfo index))
    (enum : ∀ typeIndex nameIndex, motive (.enum typeIndex nameIndex))
    (nested : ∀ typeIndex pairs, (∀ p ∈ pairs, motive p.2) → motive (.nested typeIndex pairs))
    (array : ∀ values, (∀ v ∈ values, motive v) → motive (.array values)) :
    ∀ v, motive v :=
  @ElementValue.rec motive (fun pairs => ∀ p ∈ pairs, motive p.2)
    (fun values => ∀ v ∈ values, motive v) (fun p => motive p.2) const classInfo enum nested array
    (by simp) (fun _ _ hp hpairs => List.forall_mem_cons.mpr ⟨hp, hpairs⟩)
    (by simp) (fun _ _ hv hvalues => List.forall_mem_cons.mpr ⟨hv, hvalues⟩) fun _ _ hv => hv

/-- The bytes of a named value. -/
def pairBytes (p : UInt16 × ElementValue) : Bytes := bytes2 p.1 ++ p.2.bytes

theorem bytesOfValues_eq (vs : List ElementValue) : bytesOfValues vs = vs.flatMap bytes := by
  induction vs with
  | nil => rfl
  | cons v vs ih => rw [bytesOfValues, ih, List.flatMap_cons]

theorem bytesOfPairs_eq (ps : List (UInt16 × ElementValue)) :
    bytesOfPairs ps = ps.flatMap pairBytes := by
  induction ps with
  | nil => rfl
  | cons p ps ih => rw [bytesOfPairs, ih, List.flatMap_cons, pairBytes]

theorem bytes_nested (typeIndex : UInt16) (pairs : List (UInt16 × ElementValue)) :
    bytes (.nested typeIndex pairs) =
      nestedTag :: (bytes2 typeIndex ++ tableBytes pairBytes pairs) := by
  rw [bytes, bytesOfPairs_eq, tableBytes]
  simp

theorem bytes_array (values : List ElementValue) :
    bytes (.array values) = arrayTag :: tableBytes bytes values := by
  rw [bytes, bytesOfValues_eq, tableBytes]
  simp

theorem valuesWellFormed_iff {vs : List ElementValue} :
    ValuesWellFormed vs ↔ ∀ v ∈ vs, v.WellFormed := by
  induction vs with
  | nil => simp [ValuesWellFormed]
  | cons v vs ih => rw [ValuesWellFormed, ih, List.forall_mem_cons]

theorem pairsWellFormed_iff {ps : List (UInt16 × ElementValue)} :
    PairsWellFormed ps ↔ ∀ p ∈ ps, p.2.WellFormed := by
  induction ps with
  | nil => simp [PairsWellFormed]
  | cons p ps ih => rw [PairsWellFormed, ih, List.forall_mem_cons]

theorem levelsOfValues_le_iff {vs : List ElementValue} {depth : Nat} :
    levelsOfValues vs ≤ depth ↔ ∀ v ∈ vs, v.levels ≤ depth := by
  induction vs with
  | nil => simp [levelsOfValues]
  | cons v vs ih => rw [levelsOfValues, Nat.max_le, ih, List.forall_mem_cons]

theorem levelsOfPairs_le_iff {ps : List (UInt16 × ElementValue)} {depth : Nat} :
    levelsOfPairs ps ≤ depth ↔ ∀ p ∈ ps, p.2.levels ≤ depth := by
  induction ps with
  | nil => simp [levelsOfPairs]
  | cons p ps ih => rw [levelsOfPairs, Nat.max_le, ih, List.forall_mem_cons]

theorem levels_pos (v : ElementValue) : 0 < v.levels := by
  cases v <;> rw [levels] <;> omega

/-! ## One level, by the tag -/

section
variable {value : Parser Cause ElementValue}

theorem level_nil : level value [] = .error (.short 1 0) := rfl

theorem level_const {tag : UInt8} (h : tag ∈ constTags) (s : Bytes) :
    level value (tag :: s) = (do let index ← u2; return const tag index) s := by
  show (u1 >>= _) ([tag] ++ s) = _
  rw [(reads_u1 tag).bind_apply, if_pos h]

theorem level_classInfo (s : Bytes) :
    level value (classInfoTag :: s) = (do let index ← u2; return classInfo index) s := by
  show (u1 >>= _) ([classInfoTag] ++ s) = _
  rw [(reads_u1 _).bind_apply, if_neg (by decide), if_pos rfl]

theorem level_enum (s : Bytes) :
    level value (enumTag :: s) =
      (do let typeIndex ← u2; let nameIndex ← u2; return enum typeIndex nameIndex) s := by
  show (u1 >>= _) ([enumTag] ++ s) = _
  rw [(reads_u1 _).bind_apply, if_neg (by decide), if_neg (by decide), if_pos rfl]

theorem level_nested (s : Bytes) :
    level value (nestedTag :: s) =
      (do let typeIndex ← u2
          let pairs ← counted (readPair value)
          return nested typeIndex pairs) s := by
  show (u1 >>= _) ([nestedTag] ++ s) = _
  rw [(reads_u1 _).bind_apply, if_neg (by decide), if_neg (by decide), if_neg (by decide),
    if_pos rfl]

theorem level_array (s : Bytes) :
    level value (arrayTag :: s) = (do let values ← counted value; return array values) s := by
  show (u1 >>= _) ([arrayTag] ++ s) = _
  rw [(reads_u1 _).bind_apply, if_neg (by decide), if_neg (by decide), if_neg (by decide),
    if_neg (by decide), if_pos rfl]

/-- The tag is one of those of the five kinds of values, or is refused at once. -/
theorem tag_cases (tag : UInt8) :
    tag ∈ constTags ∨ tag = classInfoTag ∨ tag = enumTag ∨ tag = nestedTag ∨ tag = arrayTag ∨
      ∀ value s, level value (tag :: s) = .error (.refused (.unknownElement tag)) := by
  by_cases hconst : tag ∈ constTags
  · exact Or.inl hconst
  by_cases hclass : tag = classInfoTag
  · exact Or.inr (Or.inl hclass)
  by_cases henum : tag = enumTag
  · exact Or.inr (Or.inr (Or.inl henum))
  by_cases hnested : tag = nestedTag
  · exact Or.inr (Or.inr (Or.inr (Or.inl hnested)))
  by_cases harray : tag = arrayTag
  · exact Or.inr (Or.inr (Or.inr (Or.inr (Or.inl harray))))
  refine Or.inr (Or.inr (Or.inr (Or.inr (Or.inr fun value s => ?_))))
  show (u1 >>= _) ([tag] ++ s) = _
  rw [(reads_u1 _).bind_apply, if_neg hconst, if_neg hclass, if_neg henum, if_neg hnested,
    if_neg harray]
  rfl

end

/-! ## Values -/

/-- A named value is read if its value is. -/
theorem reads_readPair {value : Parser Cause ElementValue} {p : UInt16 × ElementValue}
    (h : value.Reads p.2.bytes p.2) : (readPair value).Reads (pairBytes p) p := by
  intro rest
  rw [readPair, pairBytes, List.append_assoc, (reads_u2 _).bind_apply, h.bind_apply]
  rfl

/-- A named value stops the reader if its value does. -/
theorem stops_readPair {value : Parser Cause ElementValue} {p : UInt16 × ElementValue}
    {e : Stop Cause} (h : value.Stops p.2.bytes e) : (readPair value).Stops (pairBytes p) e :=
  (reads_u2 _).bind_stops (h.bind _)

/-- A value has a level, so that a depth that its levels are within is not zero. -/
theorem exists_depth {v : ElementValue} {depth : Nat} (h : v.levels ≤ depth) :
    ∃ below, depth = below + 1 :=
  ⟨depth - 1, by have := v.levels_pos; omega⟩

/-- **A written value is read back if its levels are within the depth.** -/
theorem reads_readWithin {v : ElementValue} (hwf : v.WellFormed) {depth : Nat}
    (h : v.levels ≤ depth) : (readWithin depth).Reads v.bytes v := by
  induction v using induct generalizing depth with
  | const tag index =>
      obtain ⟨depth, rfl⟩ := exists_depth h
      intro rest
      rw [bytes, List.cons_append, readWithin, level_const hwf, (reads_u2 _).bind_apply, pure_apply]
  | classInfo index =>
      obtain ⟨depth, rfl⟩ := exists_depth h
      intro rest
      rw [bytes, List.cons_append, readWithin, level_classInfo, (reads_u2 _).bind_apply, pure_apply]
  | enum typeIndex nameIndex =>
      obtain ⟨depth, rfl⟩ := exists_depth h
      intro rest
      rw [bytes, List.cons_append, List.cons_append, List.append_assoc, readWithin, level_enum,
        (reads_u2 _).bind_apply, (reads_u2 _).bind_apply, pure_apply]
  | nested typeIndex pairs ih =>
      obtain ⟨depth, rfl⟩ := exists_depth h
      obtain ⟨hfit, hpairs⟩ := hwf
      have hpairs := pairsWellFormed_iff.mp hpairs
      have hlevels := levelsOfPairs_le_iff.mp (Nat.le_of_succ_le_succ h)
      have htable : (counted (readPair (readWithin depth))).Reads
          (tableBytes pairBytes pairs) pairs :=
        reads_counted hfit fun p hp => reads_readPair (ih p hp (hpairs p hp) (hlevels p hp))
      intro rest
      rw [bytes_nested, List.cons_append, List.append_assoc, readWithin, level_nested,
        (reads_u2 _).bind_apply, htable.bind_apply, pure_apply]
  | array values ih =>
      obtain ⟨depth, rfl⟩ := exists_depth h
      obtain ⟨hfit, hvalues⟩ := hwf
      have hvalues := valuesWellFormed_iff.mp hvalues
      have hlevels := levelsOfValues_le_iff.mp (Nat.le_of_succ_le_succ h)
      have htable : (counted (readWithin depth)).Reads (tableBytes bytes values) values :=
        reads_counted hfit fun v hv => ih v hv (hvalues v hv) (hlevels v hv)
      intro rest
      rw [bytes_array, List.cons_append, readWithin, level_array, htable.bind_apply, pure_apply]

/-- **A written value that is deeper than the depth comes to nothing**, whatever follows it. -/
theorem stops_readWithin {v : ElementValue} (hwf : v.WellFormed) {depth : Nat}
    (h : ¬ v.levels ≤ depth) : (readWithin depth).Stops v.bytes .tooDeep := by
  induction v using induct generalizing depth with
  -- a value without values in it has one level, so that there is no depth left
  | const tag index =>
      obtain rfl : depth = 0 := by simpa [levels] using h
      exact fun _ => rfl
  | classInfo index =>
      obtain rfl : depth = 0 := by simpa [levels] using h
      exact fun _ => rfl
  | enum typeIndex nameIndex =>
      obtain rfl : depth = 0 := by simpa [levels] using h
      exact fun _ => rfl
  | nested typeIndex pairs ih =>
      obtain ⟨hfit, hpairs⟩ := hwf
      have hpairs := pairsWellFormed_iff.mp hpairs
      cases depth with
      | zero => exact fun _ => rfl
      | succ depth =>
          have hdeep : ¬ ∀ p ∈ pairs, p.2.levels ≤ depth := fun hall =>
            h (Nat.succ_le_succ (levelsOfPairs_le_iff.mpr hall))
          have htable : (counted (readPair (readWithin depth))).Stops
              (tableBytes pairBytes pairs) .tooDeep :=
            stops_counted hfit (fun p hp hle => reads_readPair (reads_readWithin (hpairs p hp) hle))
              (fun p hp hnot => stops_readPair (ih p hp (hpairs p hp) hnot)) hdeep
          intro rest
          rw [bytes_nested, List.cons_append, readWithin, level_nested]
          exact (reads_u2 _).bind_stops (htable.bind _) rest
  | array values ih =>
      obtain ⟨hfit, hvalues⟩ := hwf
      have hvalues := valuesWellFormed_iff.mp hvalues
      cases depth with
      | zero => exact fun _ => rfl
      | succ depth =>
          have hdeep : ¬ ∀ v ∈ values, v.levels ≤ depth := fun hall =>
            h (Nat.succ_le_succ (levelsOfValues_le_iff.mpr hall))
          have htable : (counted (readWithin depth)).Stops (tableBytes bytes values) .tooDeep :=
            stops_counted hfit (fun v hv hle => reads_readWithin (hvalues v hv) hle)
              (fun v hv hnot => ih v hv (hvalues v hv) hnot) hdeep
          intro rest
          rw [bytes_array, List.cons_append, readWithin, level_array]
          exact (htable.bind _) rest

end ElementValue

/-! ## Annotations -/

section
variable {constants : List Constant} {depth : Nat}

theorem AnnotationEntry.bytes_eq (a : AnnotationEntry) :
    a.bytes = bytes2 a.typeIndex ++ tableBytes ElementValue.pairBytes a.pairs := by
  rw [AnnotationEntry.bytes, ElementValue.bytesOfPairs_eq, tableBytes, List.append_assoc]

/-- A written annotation is read back, if its type is a text and its values are within the depth. -/
theorem AnnotationEntry.reads_read {a : AnnotationEntry} {type : String} (h : a.WellFormed)
    (htype : TextAt constants a.typeIndex type) (hlevels : a.levels ≤ depth) :
    (AnnotationEntry.read depth (.ofConstants constants)).Reads a.bytes a := by
  obtain ⟨hfit, hpairs⟩ := h
  have hpairs := ElementValue.pairsWellFormed_iff.mp hpairs
  have hlevels := ElementValue.levelsOfPairs_le_iff.mp hlevels
  have htable : (counted (ElementValue.readPair (ElementValue.readWithin depth))).Reads
      (tableBytes ElementValue.pairBytes a.pairs) a.pairs :=
    reads_counted hfit fun p hp =>
      ElementValue.reads_readPair (ElementValue.reads_readWithin (hpairs p hp) (hlevels p hp))
  intro rest
  rw [AnnotationEntry.read, a.bytes_eq, List.append_assoc, (reads_u2 _).bind_apply,
    bind_ofExcept_apply (Pool.text_eq_ok_iff.mpr htype), htable.bind_apply]
  rfl

/-- A written annotation with too deep a value comes to nothing, if its type is a text. -/
theorem AnnotationEntry.stops_read {a : AnnotationEntry} {type : String} (h : a.WellFormed)
    (htype : TextAt constants a.typeIndex type) (hdeep : ¬ a.levels ≤ depth) :
    (AnnotationEntry.read depth (.ofConstants constants)).Stops a.bytes .tooDeep := by
  obtain ⟨hfit, hpairs⟩ := h
  have hpairs := ElementValue.pairsWellFormed_iff.mp hpairs
  have htable : (counted (ElementValue.readPair (ElementValue.readWithin depth))).Stops
      (tableBytes ElementValue.pairBytes a.pairs) .tooDeep :=
    stops_counted hfit
      (fun p hp hle =>
        ElementValue.reads_readPair (ElementValue.reads_readWithin (hpairs p hp) hle))
      (fun p hp hnot =>
        ElementValue.stops_readPair (ElementValue.stops_readWithin (hpairs p hp) hnot))
      (mt ElementValue.levelsOfPairs_le_iff.mpr hdeep)
  intro rest
  rw [AnnotationEntry.read, a.bytes_eq, List.append_assoc, (reads_u2 _).bind_apply,
    bind_ofExcept_apply (Pool.text_eq_ok_iff.mpr htype)]
  exact htable.bind _ rest

/-- **Written annotations are read back**, if all their values are within the depth. -/
theorem reads_readAnnotations {entries : List AnnotationEntry} (hfit : entries.length < 65536)
    (h : ∀ a ∈ entries, a.WellFormed ∧ ∃ type, TextAt constants a.typeIndex type)
    (hlevels : ∀ a ∈ entries, a.levels ≤ depth) :
    (readAnnotations depth (.ofConstants constants)).Reads (annotationBytes entries) entries := by
  apply reads_counted hfit
  intro a ha
  obtain ⟨hwf, type, htype⟩ := h a ha
  exact AnnotationEntry.reads_read hwf htype (hlevels a ha)

/-- **Written annotations come to nothing**, if one of their values is too deep. -/
theorem stops_readAnnotations {entries : List AnnotationEntry} (hfit : entries.length < 65536)
    (h : ∀ a ∈ entries, a.WellFormed ∧ ∃ type, TextAt constants a.typeIndex type)
    (hdeep : ¬ ∀ a ∈ entries, a.levels ≤ depth) :
    (readAnnotations depth (.ofConstants constants)).Stops (annotationBytes entries) .tooDeep := by
  refine stops_counted hfit (fun a ha hle => ?_) (fun a ha hnot => ?_) hdeep
  · obtain ⟨hwf, type, htype⟩ := h a ha
    exact AnnotationEntry.reads_read hwf htype hle
  · obtain ⟨hwf, type, htype⟩ := h a ha
    exact AnnotationEntry.stops_read hwf htype hnot

end

end JvmDeps.ClassFile
