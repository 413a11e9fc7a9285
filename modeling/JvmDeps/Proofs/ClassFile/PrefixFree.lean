import JvmDeps.Proofs.ClassFile.Acceptance

set_option autoImplicit false

/-! # No class file is the beginning of another

Reading a layout goes forward only (`sequential_read`): every part takes its bytes from the front,
and a check is made on what was read before, never on what comes after. So on the beginning of an
accepted file the reader meets no other obstacle than the end of the bytes, and behind an accepted
file it finds all that was added.

Annotation bodies do not matter here: they are looked into only after the whole layout was read, and
then as byte strings of their own.
-/

namespace JvmDeps.ClassFile

open JvmDeps.Parser

/-! ## Reading goes forward only -/

theorem Constant.sequential_read (index : Nat) : (Constant.read index).Sequential := by
  refine sequential_u1.bind fun tag => ?_
  by_cases htext : tag = textTag
  · rw [if_pos htext]
    refine sequential_u2.bind fun size => (sequential_take size.toNat).bind fun payload => ?_
    cases ModifiedUtf8.decode? payload with
    | none => exact sequential_refuse _
    | some value => exact sequential_pure _
  rw [if_neg htext]
  by_cases hclass : tag = classTag
  · rw [if_pos hclass]
    exact sequential_u2.bind fun nameIndex => sequential_pure _
  rw [if_neg hclass]
  cases PlainKind.ofTag? tag with
  | none => exact sequential_refuse _
  | some kind => exact (sequential_take kind.size).bind fun payload => sequential_pure _

/-- Reading the constants of some slots is reading the first of them and then the others. -/
theorem readConstantsOnto_succ (left index : Nat) (acc : List Constant) :
    readConstantsOnto (left + 1) index false acc = (do
      let c ← Constant.read index
      readConstantsOnto left (index + 1) c.isWide (c :: acc)) := by
  funext s
  simp only [readConstantsOnto, bind]
  cases Constant.read index s <;> rfl

theorem sequential_readConstantsOnto (left index : Nat) (skip : Bool) (acc : List Constant) :
    (readConstantsOnto left index skip acc).Sequential := by
  induction left generalizing index skip acc with
  | zero =>
      have hnothing : readConstantsOnto 0 index skip acc = pure acc.reverse := by
        funext s
        cases skip <;> rfl
      rw [hnothing]
      exact sequential_pure _
  | succ left ih =>
      cases skip with
      | true => exact ih (index + 1) false acc
      | false =>
          rw [readConstantsOnto_succ]
          exact (Constant.sequential_read index).bind fun c => ih (index + 1) c.isWide (c :: acc)

theorem Attribute.sequential_read (pool : Pool) : (Attribute.read pool).Sequential :=
  sequential_u2.bind fun _ => (sequential_ofExcept _).bind fun _ => sequential_u4.bind fun size =>
    (sequential_take size.toNat).bind fun _ => sequential_pure _

theorem Member.sequential_read (pool : Pool) : (Member.read pool).Sequential :=
  sequential_u2.bind fun _ => sequential_u2.bind fun _ => (sequential_ofExcept _).bind fun _ =>
    sequential_u2.bind fun _ => (sequential_ofExcept _).bind fun _ =>
      (Attribute.sequential_read pool).counted.bind fun _ => sequential_pure _

theorem sequential_readClassIndex (pool : Pool) : (readClassIndex pool).Sequential :=
  sequential_u2.bind fun _ => (sequential_ofExcept _).bind fun _ => sequential_pure _

theorem sequential_readClassIndex? (pool : Pool) : (readClassIndex? pool).Sequential := by
  refine sequential_u2.bind fun index => ?_
  by_cases hzero : index = 0
  · rw [if_pos hzero]
    exact sequential_pure _
  · rw [if_neg hzero]
    exact (sequential_ofExcept _).bind fun _ => sequential_pure _

/-- **Reading a layout goes forward only.** -/
theorem sequential_read : ClassFile.read.Sequential := by
  refine sequential_u4.bind fun start => ?_
  by_cases hmagic : start ≠ magic
  · rw [if_pos hmagic]
    exact sequential_refuse _
  rw [if_neg hmagic]
  refine sequential_u2.bind fun minorVersion => sequential_u2.bind fun majorVersion =>
    sequential_u2.bind fun slotCount => ?_
  refine (sequential_readConstantsOnto _ _ _ _).bind fun constants => ?_
  -- from here on, everything is looked up among the constants that were read
  exact sequential_u2.bind fun _ => (sequential_readClassIndex _).bind fun _ =>
    (sequential_readClassIndex? _).bind fun _ => (sequential_readClassIndex _).counted.bind fun _ =>
      (Member.sequential_read _).counted.bind fun _ =>
        (Member.sequential_read _).counted.bind fun _ =>
          (Attribute.sequential_read _).counted.bind fun _ => sequential_pure _

/-! ## Beginnings and continuations of an accepted file -/

/-- Bytes on which the layout runs short are refused as truncated. -/
theorem readDecl_of_runsShort {b : Bytes} (h : ClassFile.read.RunsShort b) (depth : Nat) :
    ∃ need left, left < need ∧ left ≤ b.length ∧
      readDecl depth b = .error (.truncated need (b.length - left) left) := by
  obtain ⟨need, left, hread, hneed, hleft⟩ := h
  refine ⟨need, left, hneed, hleft, ?_⟩
  rw [readDecl, runFrom, hread]
  rfl

/-- Bytes behind a layout whose annotations can be read are refused, and counted. -/
theorem readDecl_of_rest {depth : Nat} {b rest : Bytes} {f : ClassFile}
    {annotations : Option (List String)} (hread : ClassFile.read b = .ok (f, rest))
    (hannotations : lastAnnotations depth f.pool none f.attributes = .ok annotations)
    (hrest : rest ≠ []) : readDecl depth b = .error (.refused (.trailing rest.length)) := by
  have hempty : rest.isEmpty = false := by simpa using hrest
  simp only [readDecl, runFrom, hread, Except.mapError, bind, Except.bind, hannotations, hempty,
    Bool.false_eq_true, if_false]

/-- **Class files are prefix-free, with the right diagnosis.** Every proper beginning of an accepted
file is refused because it is truncated: more bytes were needed at some offset than were left. Every
continuation of it is refused because of the bytes that were added, which are counted. -/
theorem ofBytes_prefixFree {depth : Nat} {source : String} {b : Bytes} {d : ClassDecl}
    (h : ClassDecl.ofBytes depth source b = .ok d) :
    (∀ cut, cut <+: b → cut ≠ b → ∃ need offset left, left < need ∧ offset + left = cut.length ∧
        ClassDecl.ofBytes depth source cut = .error (.failure (.badClassFile source
          ("truncated: need " ++ toString need ++ " bytes at offset " ++ toString offset ++
            ", have " ++ toString left)))) ∧
      ∀ more, more ≠ [] → ClassDecl.ofBytes depth source (b ++ more) =
        .error (.failure (.badClassFile source (toString more.length ++ " trailing bytes"))) := by
  rw [ClassDecl.ofBytes, mapError_eq_ok_iff, readDecl_eq_ok_iff] at h
  obtain ⟨f, annotations, hread, hannotations, -⟩ := h
  obtain ⟨used, hused, hreads, hshort⟩ := sequential_read.forward hread
  rw [List.append_nil] at hused
  subst hused
  refine ⟨?_, ?_⟩
  · intro cut hcut hne
    obtain ⟨need, left, hneed, hleft, htruncated⟩ :=
      readDecl_of_runsShort (hshort cut hcut hne) depth
    refine ⟨need, cut.length - left, left, hneed, Nat.sub_add_cancel hleft, ?_⟩
    rw [ClassDecl.ofBytes, htruncated]
    rfl
  · intro more hmore
    rw [ClassDecl.ofBytes, readDecl_of_rest (hreads more) hannotations hmore]
    rfl

theorem ofBytes_prefixFree_sample :
    ClassDecl.ofBytes 2 "sample" (layoutWith sampleValue).bytes = .ok sampleClass ∧
      (∃ need offset left, left < need ∧ offset + left = 7 ∧
        ClassDecl.ofBytes 2 "sample" ((layoutWith sampleValue).bytes.take 7) =
          .error (.failure (.badClassFile "sample" ("truncated: need " ++ toString need ++
            " bytes at offset " ++ toString offset ++ ", have " ++ toString left)))) ∧
      ClassDecl.ofBytes 2 "sample" ((layoutWith sampleValue).bytes ++ [0, 0]) =
        .error (.failure (.badClassFile "sample" "2 trailing bytes")) := by
  have hwithin : (layoutWith sampleValue).NestedWithin 2 :=
    (layoutWith_nestedWithin_iff sampleValue_wellFormed).mpr (Nat.le_refl 2)
  have haccepted : ClassDecl.ofBytes 2 "sample" (layoutWith sampleValue).bytes = .ok sampleClass :=
    (layoutWith_declares sampleValue_wellFormed).ofBytes_eq_ok sampleLayout_wellLaid hwithin
      sampleClass_sound "sample"
  obtain ⟨hcut, hmore⟩ := ofBytes_prefixFree haccepted
  refine ⟨haccepted, ?_, hmore [0, 0] (by simp)⟩
  have hlong : 7 < (layoutWith sampleValue).bytes.length := by decide +kernel
  have hseven : ((layoutWith sampleValue).bytes.take 7).length = 7 := by
    rw [List.length_take]
    omega
  have hproper : (layoutWith sampleValue).bytes.take 7 ≠ (layoutWith sampleValue).bytes := by
    intro heq
    rw [heq] at hseven
    omega
  have htruncated := hcut _ (List.take_prefix 7 _) hproper
  rw [hseven] at htruncated
  exact htruncated

end JvmDeps.ClassFile
