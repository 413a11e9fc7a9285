import JvmDeps.Dependency.Analysis
import JvmDeps.Proofs.Data.Outcome
import Mathlib.Data.List.TakeWhile

set_option autoImplicit false

/-! # The descriptor grammar

A derivation of the descriptor grammar is a `Descriptor` whose class names are legal, and the text
that it derives is its written form `Descriptor.text`:

* a field type is a run of `[` and a primitive letter, or `L`, a legal name and `;`;
* a method is `(`, field types, `)` and a field type or `V`;
* a legal name is not empty and holds none of `;`, `(`, `)`, `.`, `[`.

Every reading function is pinned down by one equivalence: it succeeds exactly on the written form
of a legal value followed by any rest (`readClass_eq_ok_iff` up to `parse_eq_ok_iff`). So a text has
at most one derivation, and `decodeNames` accepts exactly the texts that have one.
-/

namespace JvmDeps

/-! ## Legal values -/

/-- The name is not empty and holds none of the characters that structure descriptors. -/
def Name.Legal (name : String) : Prop :=
  name ≠ "" ∧ ∀ c ∈ name.toList, c ≠ ';' ∧ c ≠ '(' ∧ c ≠ ')' ∧ c ≠ '.' ∧ c ≠ '['

instance (name : String) : Decidable (Name.Legal name) :=
  -- character by character: characters are also a finite type, which is too large to go through
  have := List.decidableBAll
    (fun c => c ≠ ';' ∧ c ≠ '(' ∧ c ≠ ')' ∧ c ≠ '.' ∧ c ≠ '[') name.toList
  inferInstanceAs (Decidable (_ ∧ _))

/-- The class of an element type, if it is one, has a legal name. -/
def ElementType.Legal : ElementType → Prop
  | primitive _ => True
  | object name => Name.Legal name

instance : (e : ElementType) → Decidable e.Legal
  | .primitive _ => inferInstanceAs (Decidable True)
  | .object name => inferInstanceAs (Decidable (Name.Legal name))

/-- The class of a field type, if it names one, has a legal name. -/
def FieldType.Legal (t : FieldType) : Prop := t.element.Legal

instance (t : FieldType) : Decidable t.Legal := inferInstanceAs (Decidable t.element.Legal)

/-- Every class of a descriptor has a legal name. -/
def Descriptor.Legal (d : Descriptor) : Prop := ∀ t ∈ d.types, t.Legal

instance (d : Descriptor) : Decidable d.Legal :=
  inferInstanceAs (Decidable (∀ t ∈ d.types, t.Legal))

/-- The text has a derivation. -/
def Descriptor.Derivable (text : String) : Prop :=
  ∃ d : Descriptor, d.Legal ∧ d.text = text

/-! ## Names -/

/-- A legal name survives the change to dotted form and back: it holds no dot. -/
theorem Name.toInternal_toDotted_of_legal {name : String} (h : Name.Legal name) :
    Name.toInternal (Name.toDotted name) = name := by
  rw [Name.toInternal_toDotted]
  apply String.toList_inj.mp
  rw [Name.toInternal, String.toList_map]
  calc name.toList.map (fun c => if c = '.' then '/' else c)
      = name.toList.map id := by
        apply List.map_congr_left
        intro c hc
        have hdot : c ≠ '.' := (h.2 c hc).2.2.2.1
        simp [hdot]
    _ = name.toList := List.map_id _

/-- A legal name does not start like an array. -/
theorem Name.Legal.head?_ne {name : String} (h : Name.Legal name) :
    name.toList.head? ≠ some '[' := by
  intro hhead
  have hmem : '[' ∈ name.toList := List.mem_of_head? hhead
  exact (h.2 '[' hmem).2.2.2.2 rfl

theorem Name.toList_toDotted (name : String) :
    (Name.toDotted name).toList = name.toList.map fun c => if c = '/' then '.' else c :=
  String.toList_map

theorem Name.toDotted_eq_empty_iff {name : String} : Name.toDotted name = "" ↔ name = "" := by
  rw [← String.toList_inj, ← String.toList_inj, Name.toList_toDotted]
  exact List.map_eq_nil_iff

/-- The dotted form starts like an array exactly if the name does. -/
theorem Name.head?_toDotted_iff {name : String} :
    (Name.toDotted name).toList.head? = some '[' ↔ name.toList.head? = some '[' := by
  rw [Name.toList_toDotted, List.head?_map, Option.map_eq_some_iff]
  constructor
  · rintro ⟨c, hc, hbracket⟩
    split at hbracket
    · cases hbracket
    · exact hc.trans (congrArg some hbracket)
  · intro hhead
    exact ⟨'[', hhead, rfl⟩

/-- **What a dotted form may lack.** It holds no slash, so it is valid unless it is empty or starts
like an array. -/
theorem Name.defect?_toDotted_eq_none_iff {name : String} :
    Name.defect? (Name.toDotted name) = none ↔ name ≠ "" ∧ name.toList.head? ≠ some '[' := by
  have hslash : ¬ (Name.toDotted name).toList.contains '/' := by
    rw [Name.toList_toDotted, List.contains_iff_mem, List.mem_map]
    rintro ⟨c, -, hc⟩
    split at hc <;> simp_all
  rw [Name.defect?, if_neg hslash]
  by_cases hname : name = ""
  · simp [hname, Name.toDotted_eq_empty_iff.mpr]
  · rw [if_neg (mt Name.toDotted_eq_empty_iff.mp hname)]
    by_cases hhead : name.toList.head? = some '['
    · simp [hhead, Name.head?_toDotted_iff.mpr]
    · rw [if_neg (mt Name.head?_toDotted_iff.mp hhead)]
      exact iff_of_true rfl ⟨hname, hhead⟩

theorem Name.Legal.toDotted_ne {name : String} (h : Name.Legal name) : Name.toDotted name ≠ "" :=
  mt Name.toDotted_eq_empty_iff.mp h.1

/-- The dotted form of a legal name is a valid name of a dependency. -/
theorem Name.Legal.defect?_toDotted {name : String} (h : Name.Legal name) :
    Name.defect? (Name.toDotted name) = none :=
  Name.defect?_toDotted_eq_none_iff.mpr ⟨h.1, h.head?_ne⟩

namespace Descriptor

/-- What is neither the terminator nor illegal is legal, character by character. -/
theorem isIllegalInName_eq_false_iff (c : Char) :
    isIllegalInName c = false ↔ c ≠ '(' ∧ c ≠ ')' ∧ c ≠ '.' ∧ c ≠ '[' := by
  simp [isIllegalInName, and_assoc]

theorem classNames_legal {d : Descriptor} (h : d.Legal) :
    ∀ name ∈ d.classNames, Name.Legal name := by
  intro name hname
  obtain ⟨t, ht, hclass⟩ := List.mem_filterMap.mp hname
  have hlegal : t.element.Legal := h t ht
  rw [FieldType.className?] at hclass
  cases he : t.element with
  | primitive p => rw [he] at hclass; simp [ElementType.className?] at hclass
  | object n =>
      rw [he] at hclass hlegal
      have hn : n = name := by simpa [ElementType.className?] using hclass
      rw [← hn]
      exact hlegal

/-! ## Classes -/

/-- The text before the first `;`, and the text after it. -/
theorem takeWhile_terminated {name : List Char} (h : ∀ c ∈ name, c ≠ ';') (rest : List Char) :
    (name ++ ';' :: rest).takeWhile (· ≠ ';') = name
      ∧ (name ++ ';' :: rest).dropWhile (· ≠ ';') = ';' :: rest := by
  have hall : ∀ c ∈ name, (decide (c ≠ ';')) = true := fun c hc => decide_eq_true (h c hc)
  refine ⟨?_, ?_⟩
  · rw [List.takeWhile_append_of_pos hall]
    simp
  · rw [List.dropWhile_append_of_pos hall]
    simp

/-- **A class is read exactly from a legal name and its terminator.** -/
theorem readClass_eq_ok_iff {body rest : List Char} {name : String} :
    readClass body = .ok (name, rest) ↔ Name.Legal name ∧ body = name.toList ++ ';' :: rest := by
  constructor
  · intro h
    have hsplit : body.takeWhile (· ≠ ';') ++ body.dropWhile (· ≠ ';') = body :=
      List.takeWhile_append_dropWhile
    simp only [readClass] at h
    split at h
    · simp at h
    · rename_i sep tail htail
      -- the first character that is not kept by `takeWhile` is the terminator itself
      have hsep : sep = ';' := by
        have := List.head?_dropWhile_not (· ≠ ';') body
        rw [htail] at this
        simpa using this
      split at h
      · simp at h
      · rename_i hne
        split at h
        · simp at h
        · rename_i hfind
          simp only [Except.ok.injEq, Prod.mk.injEq] at h
          obtain ⟨hname, hrest⟩ := h
          refine ⟨⟨?_, ?_⟩, ?_⟩
          · intro hempty
            apply hne
            rw [hempty] at hname
            have := congrArg String.toList hname
            simpa using this
          · intro c hc
            rw [← hname, String.toList_ofList] at hc
            have hterm : c ≠ ';' := by simpa using List.mem_takeWhile_imp hc
            have hlegal := List.find?_eq_none.mp hfind c hc
            exact ⟨hterm, (isIllegalInName_eq_false_iff c).mp (by simpa using hlegal)⟩
          · rw [hsep, hrest] at htail
            rw [← hname, String.toList_ofList, ← htail]
            exact hsplit.symm
  · rintro ⟨⟨hne, hchars⟩, rfl⟩
    obtain ⟨htake, hdrop⟩ := takeWhile_terminated (fun c hc => (hchars c hc).1) rest
    have hnonempty : name.toList.isEmpty = false := by
      rw [List.isEmpty_eq_false_iff]
      intro hnil
      exact hne (String.toList_inj.mp hnil)
    have hfind : name.toList.find? isIllegalInName = none := by
      rw [List.find?_eq_none]
      intro c hc
      rw [Bool.not_eq_true, isIllegalInName_eq_false_iff]
      exact (hchars c hc).2
    simp only [readClass, htake, hdrop, hnonempty, hfind, String.ofList_toList]
    rfl

/-! ## Field types -/

theorem eq_code_of_ofCode? {c : Char} {p : Primitive} (h : Primitive.ofCode? c = some p) :
    c = p.code := by
  cases p <;> grind [Primitive.ofCode?, Primitive.code]

theorem code_ne_L (p : Primitive) : p.code ≠ 'L' := by
  cases p <;> decide

theorem code_ne_bracket (p : Primitive) : p.code ≠ '[' := by
  cases p <;> decide

/-- The first character of an element type is no array marker. -/
theorem exists_chars_eq_cons (e : ElementType) : ∃ c cs, e.chars = c :: cs ∧ c ≠ '[' := by
  cases e with
  | primitive p => exact ⟨p.code, [], rfl, code_ne_bracket p⟩
  | object name => exact ⟨'L', name.toList ++ [';'], rfl, by decide⟩

/-- A run of array markers is cut off in front of another character. -/
theorem takeWhile_run (k : Nat) {c : Char} (hc : c ≠ '[') (cs : List Char) :
    (List.replicate k '[' ++ c :: cs).takeWhile (· = '[') = List.replicate k '['
      ∧ (List.replicate k '[' ++ c :: cs).dropWhile (· = '[') = c :: cs := by
  have hall : ∀ a ∈ List.replicate k '[', (decide (a = '[')) = true := by
    intro a ha
    exact decide_eq_true (List.eq_of_mem_replicate ha)
  refine ⟨?_, ?_⟩
  · rw [List.takeWhile_append_of_pos hall]
    simp [hc]
  · rw [List.dropWhile_append_of_pos hall]
    simp [hc]

/-- A run of array markers is cut off as it was written. -/
theorem takeWhile_dimensions (k : Nat) (e : ElementType) (rest : List Char) :
    ((FieldType.mk k e).chars ++ rest).takeWhile (· = '[') = List.replicate k '['
      ∧ ((FieldType.mk k e).chars ++ rest).dropWhile (· = '[') = e.chars ++ rest := by
  obtain ⟨c, cs, hchars, hc⟩ := exists_chars_eq_cons e
  rw [FieldType.chars, List.append_assoc, hchars, List.cons_append]
  exact takeWhile_run k hc (cs ++ rest)

/-- **A field type is read exactly from the written form of a legal one.** -/
theorem readType_eq_ok_iff {start rest : List Char} {t : FieldType} :
    readType start = .ok (t, rest) ↔ t.Legal ∧ start = t.chars ++ rest := by
  constructor
  · intro h
    have hsplit : start.takeWhile (· = '[') ++ start.dropWhile (· = '[') = start :=
      List.takeWhile_append_dropWhile
    have hrun : start.takeWhile (· = '[') =
        List.replicate (start.takeWhile (· = '[')).length '[' := by
      apply List.eq_replicate_of_mem
      intro c hc
      simpa using List.mem_takeWhile_imp hc
    simp only [readType] at h
    split at h
    · simp at h
    · rename_i c tail htail
      rw [htail] at hsplit
      split at h
      · rename_i hL
        split at h
        · simp at h
        · rename_i name after hread
          simp only [Except.ok.injEq, Prod.mk.injEq] at h
          obtain ⟨rfl, rfl⟩ := h
          obtain ⟨hlegal, hbody⟩ := readClass_eq_ok_iff.mp hread
          refine ⟨hlegal, ?_⟩
          rw [FieldType.chars, ← hrun, ElementType.chars, List.append_assoc]
          simpa [hL, hbody] using hsplit.symm
      · split at h
        · rename_i p hp
          simp only [Except.ok.injEq, Prod.mk.injEq] at h
          obtain ⟨rfl, rfl⟩ := h
          refine ⟨trivial, ?_⟩
          rw [FieldType.chars, ← hrun, ElementType.chars, List.append_assoc]
          simpa [eq_code_of_ofCode? hp] using hsplit.symm
        · simp at h
  · rintro ⟨hlegal, rfl⟩
    obtain ⟨k, e⟩ := t
    obtain ⟨htake, hdrop⟩ := takeWhile_dimensions k e rest
    cases e with
    | primitive p =>
        simp [readType, htake, hdrop, ElementType.chars, code_ne_L, Primitive.ofCode?_code]
    | object name =>
        have hread : readClass (name.toList ++ ';' :: rest) = .ok (name, rest) :=
          readClass_eq_ok_iff.mpr ⟨hlegal, rfl⟩
        simp [readType, htake, hdrop, ElementType.chars, hread]

/-- A written field type starts with none of the characters that end or void a list of them. -/
theorem exists_type_chars_eq_cons (t : FieldType) :
    ∃ c cs, t.chars = c :: cs ∧ c ≠ ')' ∧ c ≠ '(' ∧ c ≠ 'V' := by
  obtain ⟨k, e⟩ := t
  cases k with
  | zero =>
      cases e with
      | primitive p => exact ⟨p.code, [], rfl, by cases p <;> decide⟩
      | object name => exact ⟨'L', name.toList ++ [';'], rfl, by decide⟩
  | succ k =>
      refine ⟨'[', (FieldType.mk k e).chars, ?_, by decide⟩
      simp [FieldType.chars, List.replicate_succ]

/-! ## Methods -/

/-- Reading a parameter and then the others. -/
theorem readParameters_cons {c : Char} {cs : List Char} (hc : c ≠ ')') :
    readParameters (c :: cs) =
      match readType (c :: cs) with
      | .error r => .error r
      | .ok (t, rest) =>
        match readParameters rest with
        | .error r => .error r
        | .ok (ts, rest) => .ok (t :: ts, rest) := by
  rw [readParameters, if_neg hc]
  split
  · rename_i r hread
    simp only [hread]
  · rename_i t rest hread
    rcases hmore : readParameters rest with r | ⟨ts, rest'⟩ <;> simp only [hread, hmore]

theorem readParameters_close (rest : List Char) :
    readParameters (')' :: rest) = .ok ([], rest) := by
  rw [readParameters, if_pos rfl]

/-- What is read as parameters is what legal parameters are written as. -/
theorem eq_of_readParameters {text rest : List Char} {ts : List FieldType}
    (h : readParameters text = .ok (ts, rest)) :
    (∀ t ∈ ts, t.Legal) ∧ text = ts.flatMap FieldType.chars ++ ')' :: rest := by
  -- the induction follows the reading: each round leaves a shorter text
  induction hn : text.length using Nat.strong_induction_on generalizing text ts with
  | _ n ih =>
      cases text with
      | nil => simp [readParameters] at h
      | cons c cs =>
          by_cases hc : c = ')'
          · subst hc
            rw [readParameters_close] at h
            obtain ⟨rfl, rfl⟩ : [] = ts ∧ cs = rest := by simpa using h
            simp
          · rw [readParameters_cons hc] at h
            split at h
            · simp at h
            · rename_i t after hread
              split at h
              · simp at h
              · rename_i more tail hmore
                simp only [Except.ok.injEq, Prod.mk.injEq] at h
                obtain ⟨rfl, rfl⟩ := h
                have hlt : after.length < n := hn ▸ length_lt_of_readType hread
                obtain ⟨hlegal, hafter⟩ := ih _ hlt hmore rfl
                obtain ⟨ht, htext⟩ := readType_eq_ok_iff.mp hread
                refine ⟨List.forall_mem_cons.mpr ⟨ht, hlegal⟩, ?_⟩
                rw [htext, hafter, List.flatMap_cons, List.append_assoc]

/-- Legal parameters are read off the front of others. -/
theorem readParameters_append {ts : List FieldType} (h : ∀ t ∈ ts, t.Legal) (tail : List Char) :
    readParameters (ts.flatMap FieldType.chars ++ tail)
      = (readParameters tail).map fun p => (ts ++ p.1, p.2) := by
  induction ts with
  | nil =>
      rw [List.flatMap_nil, List.nil_append]
      cases readParameters tail <;> rfl
  | cons t ts ih =>
      obtain ⟨ht, hts⟩ := List.forall_mem_cons.mp h
      have hread : readType (t.chars ++ (ts.flatMap FieldType.chars ++ tail))
          = .ok (t, ts.flatMap FieldType.chars ++ tail) := readType_eq_ok_iff.mpr ⟨ht, rfl⟩
      obtain ⟨c, cs, hchars, hc, -, -⟩ := exists_type_chars_eq_cons t
      rw [List.flatMap_cons, List.append_assoc]
      rw [hchars, List.cons_append] at hread ⊢
      rw [readParameters_cons hc, hread]
      simp only [ih hts]
      cases readParameters tail <;> rfl

/-- Legal parameters are read back. -/
theorem readParameters_chars {ts : List FieldType} (h : ∀ t ∈ ts, t.Legal) (rest : List Char) :
    readParameters (ts.flatMap FieldType.chars ++ ')' :: rest) = .ok (ts, rest) := by
  rw [readParameters_append h, readParameters_close, Except.map, List.append_nil]

/-- **A result is read exactly from `V`, or from the written form of a legal field type.** -/
theorem readResult_eq_ok_iff {text rest : List Char} {result : Option FieldType} :
    readResult text = .ok (result, rest) ↔
      (∀ t ∈ result, t.Legal) ∧ text = (result.map FieldType.chars).getD ['V'] ++ rest := by
  cases text with
  | nil =>
      simp only [readResult, reduceCtorEq, false_iff, not_and]
      intro _ h
      cases result with
      | none => simp at h
      | some t =>
          obtain ⟨c, cs, hchars, -⟩ := exists_type_chars_eq_cons t
          simp [hchars] at h
  | cons c cs =>
      by_cases hV : c = 'V'
      · subst hV
        rw [readResult, if_pos rfl]
        cases result with
        | none => simp
        | some t =>
            obtain ⟨a, as, hchars, -, -, hne⟩ := exists_type_chars_eq_cons t
            simp [hchars, Ne.symm hne]
      · rw [readResult, if_neg hV]
        cases result with
        | none =>
            cases readType (c :: cs) <;> simp [Except.map, hV]
        | some t =>
            have hiff : (readType (c :: cs)).map (fun p => (some p.1, p.2)) = .ok (some t, rest)
                ↔ readType (c :: cs) = .ok (t, rest) := by
              cases readType (c :: cs) with
              | error r => simp [Except.map]
              | ok p => simp [Except.map, Prod.ext_iff]
            rw [hiff, readType_eq_ok_iff]
            simp

/-! ## Whole texts -/

theorem legal_method_iff {ts : List FieldType} {result : Option FieldType} :
    (Descriptor.method ts result).Legal ↔ (∀ t ∈ ts, t.Legal) ∧ ∀ t ∈ result, t.Legal := by
  simp only [Legal, types, List.mem_append, Option.mem_toList]
  constructor
  · intro h
    exact ⟨fun t ht => h t (Or.inl ht), fun t ht => h t (Or.inr ht)⟩
  · rintro ⟨hts, hresult⟩ t (ht | ht)
    · exact hts t ht
    · exact hresult t ht

/-- A method is read part by part. -/
theorem read_method_eq_ok_iff {cs rest : List Char} {d : Descriptor} :
    read ('(' :: cs) = .ok (d, rest) ↔
      ∃ ts result after, d = .method ts result ∧ readParameters cs = .ok (ts, after)
        ∧ readResult after = .ok (result, rest) := by
  simp only [read, if_true, bind, Except.bind]
  cases hts : readParameters cs with
  | error r => simp
  | ok p =>
      obtain ⟨ts, after⟩ := p
      simp only
      cases hresult : readResult after with
      | error r =>
          simp only [reduceCtorEq, Except.ok.injEq, Prod.mk.injEq, false_iff]
          rintro ⟨ts', result', after', -, ⟨-, rfl⟩, hread⟩
          simp [hresult] at hread
      | ok q =>
          obtain ⟨result, tail⟩ := q
          simp only [pure, Except.pure, Except.ok.injEq, Prod.mk.injEq]
          constructor
          · rintro ⟨rfl, rfl⟩
            exact ⟨ts, result, after, rfl, ⟨rfl, rfl⟩, hresult⟩
          · rintro ⟨ts', result', after', rfl, ⟨rfl, rfl⟩, hread⟩
            rw [hresult] at hread
            simpa using hread

/-- **A descriptor is read exactly from the written form of a legal one.** -/
theorem read_eq_ok_iff {text rest : List Char} {d : Descriptor} :
    read text = .ok (d, rest) ↔ d.Legal ∧ text = d.chars ++ rest := by
  constructor
  · intro h
    cases text with
    | nil => simp [read] at h
    | cons c cs =>
        by_cases hc : c = '('
        · subst hc
          obtain ⟨ts, result, after, rfl, hts, hresult⟩ := read_method_eq_ok_iff.mp h
          obtain ⟨hlegal, hcs⟩ := eq_of_readParameters hts
          obtain ⟨hlegal', hafter⟩ := readResult_eq_ok_iff.mp hresult
          refine ⟨legal_method_iff.mpr ⟨hlegal, hlegal'⟩, ?_⟩
          rw [hcs, hafter, chars]
          simp
        · rw [read, if_neg hc] at h
          cases hread : readType (c :: cs) with
          | error r => simp [hread, Except.map] at h
          | ok p =>
              obtain ⟨t, after⟩ := p
              simp only [hread, Except.map, Except.ok.injEq, Prod.mk.injEq] at h
              obtain ⟨rfl, rfl⟩ := h
              obtain ⟨ht, htext⟩ := readType_eq_ok_iff.mp hread
              exact ⟨by simpa [Legal, types] using ht, htext⟩
  · rintro ⟨hlegal, rfl⟩
    cases d with
    | field t =>
        have ht : t.Legal := hlegal t (by simp [types])
        have hread : readType (t.chars ++ rest) = .ok (t, rest) :=
          readType_eq_ok_iff.mpr ⟨ht, rfl⟩
        obtain ⟨c, cs, hchars, -, hc, -⟩ := exists_type_chars_eq_cons t
        rw [chars]
        rw [hchars, List.cons_append] at hread ⊢
        rw [read, if_neg hc, hread]
        rfl
    | method ts result =>
        obtain ⟨hts, hresult⟩ := legal_method_iff.mp hlegal
        have hread := readParameters_chars hts ((result.map FieldType.chars).getD ['V'] ++ rest)
        rw [chars, List.cons_append, List.cons_append, List.append_assoc, List.cons_append]
        exact read_method_eq_ok_iff.mpr
          ⟨ts, result, _, rfl, hread, readResult_eq_ok_iff.mpr ⟨hresult, rfl⟩⟩

theorem finish_eq_ok_iff {α : Type} {cause : Cause} {p : α × List Char} {a : α} :
    finish cause p = .ok a ↔ p = (a, []) := by
  obtain ⟨a', rest⟩ := p
  cases rest <;> simp [finish]

/-- **A text is parsed exactly into the derivation that it has.** -/
theorem parse_eq_ok_iff {text : String} {d : Descriptor} :
    parse text = .ok d ↔ d.Legal ∧ d.text = text := by
  have hparse : parse text = .ok d ↔ read text.toList = .ok (d, []) := by
    rw [parse, mapError_eq_ok_iff, bind_eq_ok_iff]
    simp only [finish_eq_ok_iff, exists_eq_right]
  rw [hparse, read_eq_ok_iff, List.append_nil, Descriptor.text, ← String.toList_inj,
    String.toList_ofList]
  exact and_congr_right fun _ => eq_comm

instance (text : String) : Decidable (Derivable text) :=
  match h : parse text with
  | .ok d => isTrue ⟨d, parse_eq_ok_iff.mp h⟩
  | .error _ => isFalse fun ⟨_, hd⟩ => nomatch h.symm.trans (parse_eq_ok_iff.mpr hd)

/-- A text has one derivation at most. -/
theorem eq_of_text_eq {d e : Descriptor} (hd : d.Legal) (he : e.Legal) (h : d.text = e.text) :
    d = e := by
  have hparse : parse e.text = .ok d := parse_eq_ok_iff.mpr ⟨hd, h⟩
  rw [parse_eq_ok_iff.mpr ⟨he, rfl⟩] at hparse
  exact (Except.ok.inj hparse).symm

/-- **A text is read as a single class exactly if it is one of legal name.** -/
theorem parseObject_eq_ok_iff {text name : String} :
    parseObject text = .ok name ↔
      Name.Legal name ∧ (Descriptor.field ⟨0, .object name⟩).text = text := by
  have hwritten : (Descriptor.field ⟨0, .object name⟩).text = text ↔
      text.toList = 'L' :: (name.toList ++ [';']) := by
    rw [Descriptor.text, ← String.toList_inj, String.toList_ofList]
    exact eq_comm
  rw [hwritten, parseObject]
  split
  · rename_i body hbody
    rw [mapError_eq_ok_iff, bind_eq_ok_iff, hbody, List.cons.injEq]
    simp only [finish_eq_ok_iff, exists_eq_right, readClass_eq_ok_iff, true_and]
  · rename_i hother
    refine iff_of_false nofun ?_
    rintro ⟨-, htext⟩
    exact hother _ htext

end Descriptor

/-! ## Names of a descriptor -/

/-- The names of a derivation are decoded. -/
theorem decodeNames_text {d : Descriptor} (h : d.Legal) :
    decodeNames d.text = .ok (d.classNames.map Name.toDotted) := by
  rw [decodeNames, Descriptor.decode, Descriptor.parse_eq_ok_iff.mpr ⟨h, rfl⟩]
  rfl

/-- What is decoded are the names of a derivation. -/
theorem exists_of_decodeNames {text : String} {names : List String}
    (h : decodeNames text = .ok names) :
    ∃ d : Descriptor, d.Legal ∧ d.text = text ∧ d.classNames.map Name.toDotted = names := by
  obtain ⟨d, hd, hnames⟩ := map_eq_ok_iff.mp (mapError_eq_ok_iff.mp h)
  obtain ⟨hlegal, htext⟩ := Descriptor.parse_eq_ok_iff.mp hd
  exact ⟨d, hlegal, htext, hnames⟩

theorem exists_decodeNames_iff {text : String} :
    (∃ names, decodeNames text = .ok names) ↔ Descriptor.Derivable text := by
  constructor
  · rintro ⟨names, hnames⟩
    obtain ⟨d, hd, htext, -⟩ := exists_of_decodeNames hnames
    exact ⟨d, hd, htext⟩
  · rintro ⟨d, hd, rfl⟩
    exact ⟨_, decodeNames_text hd⟩

/-- **Every decoded name is a valid name of a dependency.** -/
theorem defect?_of_decodeNames {text : String} {names : List String}
    (h : decodeNames text = .ok names) : ∀ x ∈ names, Name.defect? x = none := by
  obtain ⟨d, hd, -, rfl⟩ := exists_of_decodeNames h
  intro x hx
  obtain ⟨name, hname, rfl⟩ := List.mem_map.mp hx
  exact (Descriptor.classNames_legal hd name hname).defect?_toDotted

/-- A text without derivation is refused, and the failure carries the text. -/
theorem decodeNames_eq_error {text : String} (h : ¬ Descriptor.Derivable text) :
    ∃ position reason, decodeNames text = .error (.badDescriptor text position reason) := by
  rw [decodeNames, Descriptor.decode]
  cases hparse : Descriptor.parse text with
  | error m => exact ⟨m.position, m.cause.text, rfl⟩
  | ok d => exact absurd ⟨d, Descriptor.parse_eq_ok_iff.mp hparse⟩ h

/-- **The decoder accepts exactly its grammar.** It succeeds on a text if and only if the text has a
derivation; that derivation is the only one, the result is its class names from left to right in
dotted form, and each of them leads back to the name in the text. Every other text is refused with
a failure that carries it. -/
theorem decodeNames_accepts_grammar (text : String) :
    ((∃ names, decodeNames text = .ok names) ↔ Descriptor.Derivable text)
      ∧ (∀ d : Descriptor, d.Legal → d.text = text →
          (∀ e : Descriptor, e.Legal → e.text = text → e = d)
            ∧ decodeNames text = .ok (d.classNames.map Name.toDotted)
            ∧ (d.classNames.map Name.toDotted).map Name.toInternal = d.classNames)
      ∧ (¬ Descriptor.Derivable text →
          ∃ position reason, decodeNames text = .error (.badDescriptor text position reason)) := by
  refine ⟨⟨?_, ?_⟩, ?_, decodeNames_eq_error⟩
  · rintro ⟨names, hok⟩
    by_contra hnot
    obtain ⟨position, reason, herror⟩ := decodeNames_eq_error hnot
    rw [herror] at hok
    cases hok
  · rintro ⟨d, hd, rfl⟩
    exact ⟨_, decodeNames_text hd⟩
  · rintro d hd rfl
    refine ⟨fun e he htext => Descriptor.eq_of_text_eq he hd htext, decodeNames_text hd, ?_⟩
    rw [List.map_map]
    calc d.classNames.map (Name.toInternal ∘ Name.toDotted)
        = d.classNames.map id := by
          apply List.map_congr_left
          intro name hname
          exact Name.toInternal_toDotted_of_legal (Descriptor.classNames_legal hd name hname)
      _ = d.classNames := List.map_id _

end JvmDeps
