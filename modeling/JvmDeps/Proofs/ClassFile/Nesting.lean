import JvmDeps.Proofs.ClassFile.PrefixFree

set_option autoImplicit false

/-! # Where the depth comes to its end

Reading a value of an annotation recurs once for each value that is opened inside another. So the
depth is exceeded on exactly those bytes that, behind whole values, open one value more than it
allows (`ElementValue.Opens`, `readWithin_eq_tooDeep_iff`), be they the beginning of a written value
or not. Each value opened takes three bytes at least, and a depth of a third of the bytes is always
enough (`Opens.length_le`).

Nothing else in a class file is read by a recursion: a reader that comes to the end of its depth has
read a layout, and is in the body of an attribute that holds annotations
(`nestsDeeper_of_readDecl`).
-/

namespace JvmDeps.ClassFile

open JvmDeps.Parser

/-! ## Values -/

namespace ElementValue

/-- Behind whole values, the bytes open more than `depth` values inside one another. -/
inductive Opens : (depth : Nat) → Bytes → Prop where
  | here (s : Bytes) : Opens 0 s
  | nested {depth : Nat} {typeIndex count nameIndex : UInt16}
      {whole : List (UInt16 × ElementValue)} {s : Bytes} (hcount : whole.length < count.toNat)
      (hwhole : ∀ p ∈ whole, p.2.WellFormed ∧ p.2.levels ≤ depth) (hs : Opens depth s) :
      Opens (depth + 1) (nestedTag :: (bytes2 typeIndex ++
        (bytes2 count ++ (whole.flatMap pairBytes ++ (bytes2 nameIndex ++ s)))))
  | array {depth : Nat} {count : UInt16} {whole : List ElementValue} {s : Bytes}
      (hcount : whole.length < count.toNat)
      (hwhole : ∀ v ∈ whole, v.WellFormed ∧ v.levels ≤ depth) (hs : Opens depth s) :
      Opens (depth + 1) (arrayTag :: (bytes2 count ++ (whole.flatMap bytes ++ s)))

/-- Every value that is opened takes three bytes at least. -/
theorem Opens.length_le {depth : Nat} {s : Bytes} (h : Opens depth s) : 3 * depth ≤ s.length := by
  induction h with
  | here s => exact Nat.zero_le _
  | nested _ _ _ ih =>
      simp only [List.length_cons, List.length_append, bytes2, List.length_nil]
      omega
  | array _ _ _ ih =>
      simp only [List.length_cons, List.length_append, bytes2, List.length_nil]
      omega

/-- A table comes to the end of a depth in one of its rows, behind whole ones. -/
theorem counted_eq_tooDeep_iff {α : Type} {p : Parser Cause α} {row : α → Bytes} {P : α → Prop}
    (hp : p.ReadsOnly row P) (hread : ∀ a, P a → p.Reads (row a) a) {s : Bytes} :
    counted p s = .error .tooDeep ↔ ∃ (count : UInt16) (whole : List α) (t : Bytes),
      s = bytes2 count ++ (whole.flatMap row ++ t) ∧ whole.length < count.toNat ∧
        (∀ a ∈ whole, P a) ∧ p t = .error .tooDeep := by
  rw [counted, bind_apply_eq_error_iff, or_iff_right (sequential_u2.flat s)]
  constructor
  · rintro ⟨count, mid, hcount, htimes⟩
    obtain ⟨k, whole, t, hk, hwhole, ht⟩ := times_apply_eq_error_iff.mp htimes
    obtain ⟨rfl, rfl, hP⟩ := hp.times k hwhole
    exact ⟨count, whole, t, eq_of_u2 hcount, hk, hP, ht⟩
  · rintro ⟨count, whole, t, rfl, hless, hP, ht⟩
    refine ⟨count, _, reads_u2 count _, times_apply_eq_error_iff.mpr ?_⟩
    exact ⟨whole.length, whole, t, hless, reads_times (fun a ha => hread a (hP a ha)) t, ht⟩

theorem readPair_eq_tooDeep_iff {value : Parser Cause ElementValue} {s : Bytes} :
    readPair value s = .error .tooDeep ↔
      ∃ nameIndex t, s = bytes2 nameIndex ++ t ∧ value t = .error .tooDeep := by
  rw [readPair, bind_apply_eq_error_iff, or_iff_right (sequential_u2.flat s)]
  constructor
  · rintro ⟨nameIndex, t, hindex, h⟩
    refine ⟨nameIndex, t, eq_of_u2 hindex, ?_⟩
    rcases bind_apply_eq_error_iff.mp h with h | ⟨v, mid, -, hpure⟩
    · exact h
    · cases hpure
  · rintro ⟨nameIndex, t, rfl, h⟩
    exact ⟨nameIndex, t, reads_u2 nameIndex t, bind_apply_of_error h⟩

/-- What a part makes of its value does not come to the end of a depth. -/
theorem bind_pure_eq_tooDeep_iff {α β : Type} {p : Parser Cause α} {f : α → β} {s : Bytes} :
    (p >>= fun a => pure (f a)) s = .error .tooDeep ↔ p s = .error .tooDeep := by
  rw [bind_apply_eq_error_iff, or_iff_left]
  rintro ⟨a, mid, -, hpure⟩
  cases hpure

theorem reads_readWithin_of_and {depth : Nat} (v : ElementValue)
    (h : v.WellFormed ∧ v.levels ≤ depth) : (readWithin depth).Reads v.bytes v :=
  reads_readWithin h.1 h.2

/-- **The depth is exceeded exactly where the bytes open a value too many.** -/
theorem readWithin_eq_tooDeep_iff {depth : Nat} {s : Bytes} :
    readWithin depth s = .error .tooDeep ↔ Opens depth s := by
  induction depth generalizing s with
  | zero => exact ⟨fun _ => .here s, fun _ => rfl⟩
  | succ depth ih =>
      have hvalues {t : Bytes} := counted_eq_tooDeep_iff (readsOnly_readWithin depth)
        reads_readWithin_of_and (s := t)
      have hpairs {t : Bytes} := counted_eq_tooDeep_iff
        (readsOnly_readPair (readsOnly_readWithin depth))
        (fun p hp => reads_readPair (reads_readWithin_of_and p.2 hp)) (s := t)
      rw [readWithin]
      constructor
      · intro h
        cases s with
        | nil => cases h
        | cons tag s =>
        rcases tag_cases tag with hconst | rfl | rfl | rfl | rfl | hother
        -- only annotations and arrays go down a level
        · rw [level_const hconst] at h
          exact absurd h ((sequential_u2.bind fun _ => sequential_pure _).flat s)
        · rw [level_classInfo] at h
          exact absurd h ((sequential_u2.bind fun _ => sequential_pure _).flat s)
        · rw [level_enum] at h
          exact absurd h ((sequential_u2.bind fun _ =>
            sequential_u2.bind fun _ => sequential_pure _).flat s)
        · rw [level_nested, bind_apply_eq_error_iff, or_iff_right (sequential_u2.flat s)] at h
          obtain ⟨typeIndex, mid, htype, h⟩ := h
          obtain ⟨count, whole, pair, rfl, hless, hwhole, hpair⟩ :=
            hpairs.mp (bind_pure_eq_tooDeep_iff.mp h)
          obtain ⟨nameIndex, t, rfl, ht⟩ := readPair_eq_tooDeep_iff.mp hpair
          rw [eq_of_u2 htype]
          exact .nested hless hwhole (ih.mp ht)
        · rw [level_array, bind_pure_eq_tooDeep_iff] at h
          obtain ⟨count, whole, t, rfl, hless, hwhole, ht⟩ := hvalues.mp h
          exact .array hless hwhole (ih.mp ht)
        · rw [hother] at h
          cases h
      · intro h
        cases h with
        | nested hless hwhole ht =>
            rw [level_nested, (reads_u2 _).bind_apply, bind_pure_eq_tooDeep_iff]
            refine hpairs.mpr ⟨_, _, _, rfl, hless, hwhole, ?_⟩
            exact readPair_eq_tooDeep_iff.mpr ⟨_, _, rfl, ih.mpr ht⟩
        | array hless hwhole ht =>
            rw [level_array, bind_pure_eq_tooDeep_iff]
            exact hvalues.mpr ⟨_, _, _, rfl, hless, hwhole, ih.mpr ht⟩

end ElementValue

/-! ## Class files -/

/-- An attribute with annotations, in the layout at the front of the bytes, opens more than `depth`
values inside one another. -/
def NestsDeeper (depth : Nat) (bytes : Bytes) : Prop :=
  ∃ f rest a s, ClassFile.read bytes = .ok (f, rest) ∧ a ∈ f.attributes ∧
    a.HoldsAnnotations f.constants ∧ s <:+ a.body ∧ ElementValue.Opens depth s

/-- A table comes to the end of a depth at some end of the bytes. -/
theorem exists_suffix_of_counted {α : Type} {p : Parser Cause α} {row : α → Bytes} {P : α → Prop}
    (hp : p.ReadsOnly row P) (hread : ∀ a, P a → p.Reads (row a) a) {s : Bytes}
    (h : counted p s = .error .tooDeep) : ∃ t, t <:+ s ∧ p t = .error .tooDeep := by
  obtain ⟨count, whole, t, rfl, -, -, ht⟩ := (ElementValue.counted_eq_tooDeep_iff hp hread).mp h
  exact ⟨t, List.suffix_append_of_suffix (List.suffix_append _ _), ht⟩

section
variable {constants : List Constant} {depth : Nat}

/-- Annotations come to the end of the depth where one of them opens a value too many. -/
theorem exists_opens_of_readAnnotations {body : Bytes}
    (h : readAnnotations depth (.ofConstants constants) body = .error .tooDeep) :
    ∃ s, s <:+ body ∧ ElementValue.Opens depth s := by
  obtain ⟨entry, hentry, h⟩ := exists_suffix_of_counted AnnotationEntry.readsOnly_read
    (fun a ha => AnnotationEntry.reads_read ha.1.1 ha.1.2.choose_spec ha.2) h
  rw [AnnotationEntry.read, bind_apply_eq_error_iff, or_iff_right (sequential_u2.flat _)] at h
  obtain ⟨typeIndex, mid, htype, h⟩ := h
  rw [bind_apply_eq_error_iff, or_iff_right ((sequential_ofExcept _).flat _)] at h
  obtain ⟨type, mid', htext, h⟩ := h
  obtain ⟨-, rfl⟩ := ofExcept_apply_eq_ok_iff.mp htext
  obtain ⟨pair, hpair, hrow⟩ := exists_suffix_of_counted
    (ElementValue.readsOnly_readPair (ElementValue.readsOnly_readWithin depth))
    (fun p hp => ElementValue.reads_readPair (ElementValue.reads_readWithin_of_and p.2 hp))
    (ElementValue.bind_pure_eq_tooDeep_iff.mp h)
  obtain ⟨nameIndex, s, rfl, hs⟩ := ElementValue.readPair_eq_tooDeep_iff.mp hrow
  refine ⟨s, ?_, ElementValue.readWithin_eq_tooDeep_iff.mp hs⟩
  calc s <:+ bytes2 nameIndex ++ s := List.suffix_append _ _
    _ <:+ mid := hpair
    _ <:+ entry := eq_of_u2 htype ▸ List.suffix_append _ _
    _ <:+ body := hentry

theorem runFrom_eq_tooDeep_iff {α : Type} {p : Parser Cause α} {s : Bytes} :
    runFrom p s = .error .tooDeep ↔ p s = .error .tooDeep := by
  rw [runFrom]
  cases p s with
  | ok r => simp [Except.mapError]
  | error stop => cases stop <;> simp [Except.mapError, Refusal.ofStop]

theorem mapError_refused_ne_tooDeep {α : Type} (x : Except Cause α) :
    x.mapError Refusal.refused ≠ .error .tooDeep := by
  cases x <;> simp [Except.mapError]

theorem exists_opens_of_annotationTypes {body : Bytes}
    (h : annotationTypes depth (.ofConstants constants) body = .error .tooDeep) :
    ∃ s, s <:+ body ∧ ElementValue.Opens depth s := by
  rcases bind_eq_error_iff.mp h with hread | ⟨⟨entries, rest⟩, -, hlast⟩
  · exact exists_opens_of_readAnnotations (runFrom_eq_tooDeep_iff.mp hread)
  · dsimp only at hlast
    split at hlast
    · exact absurd hlast (mapError_refused_ne_tooDeep _)
    · cases hlast

theorem exists_opens_of_lastAnnotations {attributes : List Attribute} {last : Option (List String)}
    (h : lastAnnotations depth (.ofConstants constants) last attributes = .error .tooDeep) :
    ∃ a ∈ attributes, a.HoldsAnnotations constants ∧
      ∃ s, s <:+ a.body ∧ ElementValue.Opens depth s := by
  induction attributes generalizing last with
  | nil => cases h
  | cons a attributes ih =>
      simp only [List.exists_mem_cons_iff]
      rw [lastAnnotations] at h
      split at h
      · rename_i hholds
        rcases bind_eq_error_iff.mp h with htypes | ⟨types, -, hrest⟩
        · exact Or.inl ⟨Attribute.isAnnotations_iff.mp hholds,
            exists_opens_of_annotationTypes htypes⟩
        · exact Or.inr (ih hrest)
      · exact Or.inr (ih h)

end

/-- **A reader that comes to the end of its depth is inside the annotations of a layout.** -/
theorem nestsDeeper_of_readDecl {depth : Nat} {bytes : Bytes}
    (h : readDecl depth bytes = .error .tooDeep) : NestsDeeper depth bytes := by
  rcases bind_eq_error_iff.mp h with hread | ⟨⟨f, rest⟩, hread, h⟩
  · exact absurd (runFrom_eq_tooDeep_iff.mp hread) (sequential_read.flat bytes)
  rcases bind_eq_error_iff.mp h with hannotations | ⟨annotations, -, hlast⟩
  · obtain ⟨a, ha, hholds, s, hs, hopens⟩ := exists_opens_of_lastAnnotations hannotations
    exact ⟨f, rest, a, s, mapError_eq_ok_iff.mp hread, ha, hholds, hs, hopens⟩
  · split at hlast
    · exact absurd hlast (mapError_refused_ne_tooDeep _)
    · cases hlast

end JvmDeps.ClassFile
