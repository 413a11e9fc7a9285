import JvmDeps.Proofs.Descriptor.Grammar
import Mathlib.Order.Bounds.Defs

set_option autoImplicit false

/-! # Where a descriptor goes wrong

A text is `Viable` if it can be extended to a descriptor. `FaultAt front cause rest` lists the ways
in which a text `front ++ rest` fails to be one, with the place of the fault behind `front`. Every
refusal is one of them, at that place (`exists_faultAt_of_parse`), and two facts follow by cases:

* the text in front of a fault is viable (`FaultAt.viable`);
* it stops being viable with the next character (`FaultAt.not_viable`), unless the fault is reported
  where the segment starts that it spoils: at the `L` of a class without end or without name, or at
  the first `[` of a run that nothing follows.
-/

namespace JvmDeps

namespace Descriptor

/-! ## Viable texts -/

/-- The text can be extended to a descriptor. -/
def Viable (front : List Char) : Prop := ∃ more, Derivable (String.ofList (front ++ more))

theorem derivable_ofList_iff {text : List Char} :
    Derivable (String.ofList text) ↔ ∃ d : Descriptor, d.Legal ∧ d.chars = text := by
  constructor
  · rintro ⟨d, hlegal, htext⟩
    exact ⟨d, hlegal, String.ofList_injective htext⟩
  · rintro ⟨d, hlegal, rfl⟩
    exact ⟨d, hlegal, rfl⟩

theorem Viable.of_append {front back : List Char} (h : Viable (front ++ back)) : Viable front := by
  obtain ⟨more, hmore⟩ := h
  exact ⟨back ++ more, by rwa [← List.append_assoc]⟩

/-- The text is what stands in front of a type: nothing, or the parameters so far, or all of them.
Where the character comes instead of a type, it has another meaning. -/
inductive TypeDue : List Char → Char → Prop where
  | whole : TypeDue [] '('
  | parameter {ts : List FieldType} (legal : ∀ t ∈ ts, t.Legal) :
      TypeDue ('(' :: ts.flatMap FieldType.chars) ')'
  | result {ts : List FieldType} (legal : ∀ t ∈ ts, t.Legal) :
      TypeDue ('(' :: ts.flatMap FieldType.chars ++ [')']) 'V'

/-- The text is what stands in front of a primitive or a class: array markers may follow what stands
in front of a type. -/
def ElementDue (front : List Char) : Prop :=
  ∃ start other k, TypeDue start other ∧ front = start ++ List.replicate k '['

/-- A type may follow where one is due. -/
theorem TypeDue.viable_chars {start : List Char} {other : Char} {t : FieldType}
    (h : TypeDue start other) (ht : t.Legal) : Viable (start ++ t.chars) := by
  cases h with
  | whole =>
      refine ⟨[], derivable_ofList_iff.mpr ⟨.field t, ?_, by simp [chars]⟩⟩
      simpa [Legal, types] using ht
  | @parameter ts legal =>
      refine ⟨[')', 'V'], derivable_ofList_iff.mpr ⟨.method (ts ++ [t]) none, ?_, ?_⟩⟩
      · refine legal_method_iff.mpr ⟨?_, by simp⟩
        simpa [or_imp, forall_and] using ⟨legal, ht⟩
      · simp [chars]
  | @result ts legal =>
      refine ⟨[], derivable_ofList_iff.mpr ⟨.method ts (some t), ?_, by simp [chars]⟩⟩
      exact legal_method_iff.mpr ⟨legal, by simpa using ht⟩

theorem TypeDue.viable {start : List Char} {other : Char} (h : TypeDue start other) :
    Viable start :=
  (h.viable_chars (show (FieldType.mk 0 (.primitive .int)).Legal from trivial)).of_append

theorem getLast?_type_chars_ne {t : FieldType} : t.chars.getLast? ≠ some '[' := by
  obtain ⟨k, e⟩ := t
  cases e with
  | primitive p => simpa [FieldType.chars, ElementType.chars] using code_ne_bracket p
  | object name => simp [FieldType.chars, ElementType.chars, List.getLast?_cons]

/-- A run of array markers does not go on in front of a type. -/
theorem TypeDue.getLast?_ne {start : List Char} {other : Char} (h : TypeDue start other) :
    start.getLast? ≠ some '[' := by
  cases h with
  | whole => simp
  | @parameter ts legal =>
      -- the parameters end with the last of them
      rcases List.eq_nil_or_concat ts with rfl | ⟨init, t, rfl⟩
      · simp
      · obtain ⟨c, cs, hchars, -⟩ := exists_type_chars_eq_cons t
        have hlast := getLast?_type_chars_ne (t := t)
        rw [hchars] at hlast
        simpa [hchars, List.getLast?_cons] using hlast
  | result legal => simp [List.getLast?_cons]

/-! ## Refusals of a type -/

/-- The text is read as a type where the character would mean something else. -/
def ReadAsType (other : Char) (tail : List Char) : Prop := ∃ c cs, tail = c :: cs ∧ c ≠ other

theorem readParameters_eq_error {ts : List FieldType} {tail : List Char} {r : Refusal}
    (legal : ∀ t ∈ ts, t.Legal) (htail : ReadAsType ')' tail) (h : readType tail = .error r) :
    readParameters (ts.flatMap FieldType.chars ++ tail) = .error r := by
  obtain ⟨c, cs, rfl, hc⟩ := htail
  rw [readParameters_append legal, readParameters_cons hc, h]
  rfl

/-- A method is refused in its parameters, or in its result. -/
theorem read_method_eq_error_iff {cs : List Char} {r : Refusal} :
    read ('(' :: cs) = .error r ↔
      readParameters cs = .error r
        ∨ ∃ ts after, readParameters cs = .ok (ts, after) ∧ readResult after = .error r := by
  rw [read, if_pos rfl, bind_eq_error_iff, Prod.exists]
  simp only [bind_eq_error_iff, pure, Except.pure, reduceCtorEq, and_false, exists_false, or_false]

/-- A type that is refused where one is due is refused in the whole text. -/
theorem TypeDue.read_eq_error {start tail : List Char} {other : Char} {r : Refusal}
    (h : TypeDue start other) (htail : ReadAsType other tail) (hr : readType tail = .error r) :
    read (start ++ tail) = .error r := by
  cases h with
  | whole =>
      obtain ⟨c, cs, rfl, hc⟩ := htail
      rw [List.nil_append, read, if_neg hc]
      exact map_eq_error_iff.mpr hr
  | parameter legal =>
      exact read_method_eq_error_iff.mpr (.inl (readParameters_eq_error legal htail hr))
  | @result ts legal =>
      obtain ⟨c, cs, rfl, hc⟩ := htail
      have hresult : readResult (c :: cs) = .error r := by
        rw [readResult, if_neg hc]
        exact map_eq_error_iff.mpr hr
      rw [List.append_assoc, List.cons_append, List.singleton_append]
      exact read_method_eq_error_iff.mpr
        (.inr ⟨ts, c :: cs, readParameters_chars legal (c :: cs), hresult⟩)

/-! ## Faults in a type -/

/-- The text `front ++ rest` is not read as a type, for the cause, which is found behind `front`. -/
inductive TypeFault : List Char → Cause → List Char → Prop where
  /-- Nothing follows a run of array markers. -/
  | dangling (k : Nat) : TypeFault [] .danglingArray (List.replicate k '[')
  /-- What follows is neither a primitive nor a class. -/
  | element (k : Nat) {c : Char} (cs : List Char) (hbracket : c ≠ '[') (hclass : c ≠ 'L')
      (hcode : Primitive.ofCode? c = none) :
      TypeFault (List.replicate k '[') (refuseElement k c) (c :: cs)
  /-- The class does not end. -/
  | unterminated (k : Nat) {body : List Char} (hopen : ';' ∉ body) :
      TypeFault (List.replicate k '[') .unterminatedClass ('L' :: body)
  /-- The class has no name. -/
  | unnamed (k : Nat) (after : List Char) :
      TypeFault (List.replicate k '[') .emptyClassName ('L' :: ';' :: after)
  /-- The name of the class is illegal. -/
  | illegal (k : Nat) {name : List Char} {c : Char} (cs : List Char)
      (hname : ∀ a ∈ name, a ≠ ';' ∧ isIllegalInName a = false) (hc : isIllegalInName c = true) :
      TypeFault (List.replicate k '[' ++ 'L' :: name) (.illegalInName c) (c :: cs)

/-- A run of array markers ends with the text, or with another character. -/
theorem exists_run (text : List Char) :
    ∃ k, text = List.replicate k '['
      ∨ ∃ c cs, c ≠ '[' ∧ text = List.replicate k '[' ++ c :: cs := by
  induction text with
  | nil => exact ⟨0, .inl rfl⟩
  | cons a text ih =>
      by_cases ha : a = '['
      · subst ha
        obtain ⟨k, rfl | ⟨c, cs, hc, rfl⟩⟩ := ih
        · exact ⟨k + 1, .inl rfl⟩
        · exact ⟨k + 1, .inr ⟨c, cs, hc, rfl⟩⟩
      · exact ⟨0, .inr ⟨a, text, ha, rfl⟩⟩

theorem readType_run (k : Nat) :
    readType (List.replicate k '[') = .error ⟨.danglingArray, List.replicate k '['⟩ := by
  simp [readType]

/-- A class is read behind a run of array markers. -/
theorem readType_run_class (k : Nat) (cs : List Char) :
    readType (List.replicate k '[' ++ 'L' :: cs)
      = (readClass cs).map fun p => (⟨k, .object p.1⟩, p.2) := by
  obtain ⟨htake, hdrop⟩ := takeWhile_run k (by decide : 'L' ≠ '[') cs
  simp only [readType, htake, hdrop, List.length_replicate, if_true]
  cases readClass cs <;> rfl

/-- What is no class is read as a primitive behind a run of array markers, or refused. -/
theorem readType_run_primitive (k : Nat) {c : Char} (hc : c ≠ '[') (hL : c ≠ 'L')
    (cs : List Char) :
    readType (List.replicate k '[' ++ c :: cs)
      = (Primitive.ofCode? c).elim (.error ⟨refuseElement k c, c :: cs⟩)
          fun p => .ok (⟨k, .primitive p⟩, cs) := by
  obtain ⟨htake, hdrop⟩ := takeWhile_run k hc cs
  simp only [readType, htake, hdrop, List.length_replicate, if_neg hL]
  cases Primitive.ofCode? c <;> rfl

/-- A class is refused at its `L`, or at the first illegal character of its name. -/
theorem typeFault_of_readClass (k : Nat) {body : List Char} {r : Refusal}
    (h : readClass body = .error r) :
    ∃ front, List.replicate k '[' ++ 'L' :: body = front ++ r.rest
      ∧ TypeFault front r.cause r.rest := by
  by_cases hend : ';' ∈ body
  · obtain ⟨name, after, rfl, hname⟩ := List.eq_append_cons_of_mem hend
    have hkept : ∀ a ∈ name, a ≠ ';' := fun a ha => ne_of_mem_of_not_mem ha hname
    obtain ⟨htake, hdrop⟩ := takeWhile_terminated hkept after
    simp only [readClass, htake, hdrop] at h
    split at h
    · rename_i hempty
      obtain rfl := List.isEmpty_iff.mp hempty
      cases h
      exact ⟨_, rfl, .unnamed k after⟩
    · split at h
      · rename_i c hfind
        obtain ⟨hc, front, more, rfl, hfront⟩ := List.find?_eq_some_iff_append.mp hfind
        have hlegal : ∀ a ∈ front, isIllegalInName a = false := by simpa using hfront
        -- the text from the fault on starts with the character that was found
        have hrest : (front ++ c :: more ++ ';' :: after).dropWhile (!isIllegalInName ·)
            = c :: (more ++ ';' :: after) := by
          rw [List.append_assoc, List.dropWhile_append_of_pos (by simpa using hlegal)]
          simp [hc]
        rw [hrest] at h
        cases h
        refine ⟨List.replicate k '[' ++ 'L' :: front, by simp, .illegal k _ ?_ hc⟩
        exact fun a ha => ⟨hkept a (List.mem_append_left _ ha), hlegal a ha⟩
      · cases h
  · have hdrop : body.dropWhile (· ≠ ';') = [] := by
      rw [List.dropWhile_eq_nil_iff]
      exact fun a ha => decide_eq_true (ne_of_mem_of_not_mem ha hend)
    simp only [readClass, hdrop] at h
    cases h
    exact ⟨_, rfl, .unterminated k hend⟩

/-- **Every refusal of a type is one of its faults.** -/
theorem typeFault_of_readType {tail : List Char} {r : Refusal} (h : readType tail = .error r) :
    ∃ front, tail = front ++ r.rest ∧ TypeFault front r.cause r.rest := by
  obtain ⟨k, rfl | ⟨c, cs, hc, rfl⟩⟩ := exists_run tail
  · rw [readType_run] at h
    cases h
    exact ⟨[], rfl, .dangling k⟩
  · by_cases hL : c = 'L'
    · subst hL
      rw [readType_run_class, map_eq_error_iff] at h
      exact typeFault_of_readClass k h
    · rw [readType_run_primitive k hc hL] at h
      cases hcode : Primitive.ofCode? c with
      | some p =>
          rw [hcode] at h
          cases h
      | none =>
          rw [hcode] at h
          cases h
          exact ⟨_, rfl, .element k cs hc hL hcode⟩

/-- What stands in front of a fault in a type is the start of some type. -/
theorem TypeFault.exists_type {front rest : List Char} {cause : Cause}
    (h : TypeFault front cause rest) :
    ∃ (t : FieldType) (more : List Char), t.Legal ∧ t.chars = front ++ more := by
  cases h with
  | dangling k => exact ⟨⟨0, .primitive .int⟩, ['I'], trivial, rfl⟩
  | element k | unterminated k | unnamed k => exact ⟨⟨k, .primitive .int⟩, ['I'], trivial, rfl⟩
  | @illegal k name c cs hname hc =>
      -- the name so far may be empty, so one more letter belongs to it
      refine ⟨⟨k, .object (String.ofList (name ++ ['a']))⟩, ['a', ';'], ⟨?_, ?_⟩, ?_⟩
      · intro hempty
        have := congrArg String.toList hempty
        simp at this
      · intro a ha
        rw [String.toList_ofList, List.mem_append, List.mem_singleton] at ha
        rcases ha with ha | rfl
        · exact ⟨(hname a ha).1, (isIllegalInName_eq_false_iff a).mp (hname a ha).2⟩
        · decide
      · simp [FieldType.chars, ElementType.chars]

/-- The fault is reported where the segment starts that it spoils. -/
def Cause.AtSegmentStart : Cause → Prop
  | .unterminatedClass | .emptyClassName | .danglingArray => True
  | _ => False

/-- An illegal character spoils a name whatever follows. -/
theorem readClass_illegal_ne_ok {name cs : List Char} {c : Char} {p : String × List Char}
    (hname : ∀ a ∈ name, a ≠ ';') (hc : isIllegalInName c = true) :
    readClass (name ++ c :: cs) ≠ .ok p := by
  intro h
  obtain ⟨n, rest⟩ := p
  obtain ⟨hlegal, hbody⟩ := readClass_eq_ok_iff.mp h
  have hc' : c ≠ ';' := by
    rintro rfl
    simp [isIllegalInName] at hc
  -- the terminator comes after the illegal character, which is then part of the name
  have hmem : c ∈ n.toList := by
    rcases List.append_eq_append_iff.mp hbody with ⟨as, hn, hcs⟩ | ⟨bs, hn, hcs⟩
    · cases as with
      | nil => simp [hc'] at hcs
      | cons a as =>
          obtain ⟨rfl, -⟩ := List.cons.inj hcs
          simp [hn]
    · cases bs with
      | nil => simp [Ne.symm hc'] at hcs
      | cons b bs =>
          obtain ⟨rfl, -⟩ := List.cons.inj hcs
          exact absurd rfl (hname ';' (by simp [hn]))
  have hlegal_c := (isIllegalInName_eq_false_iff c).mpr (hlegal.2 c hmem).2
  simp [hc] at hlegal_c

/-- Behind the front of a fault that is not reported at a start, the next character spoils every
text. -/
theorem TypeFault.exists_readType_eq_error {front rest : List Char} {cause : Cause}
    (h : TypeFault front cause rest) (hcause : ¬ cause.AtSegmentStart) :
    ∃ c cs, rest = c :: cs ∧ ∀ more, ∃ r, readType (front ++ c :: more) = .error r := by
  cases h with
  | dangling k => exact absurd trivial hcause
  | unterminated k => exact absurd trivial hcause
  | unnamed k => exact absurd trivial hcause
  | @element k c cs hbracket hclass hcode =>
      refine ⟨c, cs, rfl, fun more => ⟨⟨refuseElement k c, c :: more⟩, ?_⟩⟩
      rw [readType_run_primitive k hbracket hclass, hcode]
      rfl
  | @illegal k name c cs hname hc =>
      refine ⟨c, cs, rfl, fun more => ?_⟩
      rw [List.append_assoc, List.cons_append, readType_run_class]
      cases hread : readClass (name ++ c :: more) with
      | error r => exact ⟨r, rfl⟩
      | ok p => exact absurd hread (readClass_illegal_ne_ok (fun a ha => (hname a ha).1) hc)

/-! ## Faults in a text -/

/-- The text `front ++ rest` is not a descriptor, for the cause, which is found behind `front`. -/
inductive FaultAt : List Char → Cause → List Char → Prop where
  | empty : FaultAt [] .emptyDescriptor []
  | unclosed {ts : List FieldType} (legal : ∀ t ∈ ts, t.Legal) :
      FaultAt ('(' :: ts.flatMap FieldType.chars) .unclosedParameters []
  | missing {ts : List FieldType} (legal : ∀ t ∈ ts, t.Legal) :
      FaultAt ('(' :: ts.flatMap FieldType.chars ++ [')']) .missingResult []
  | trailing {d : Descriptor} (legal : d.Legal) (c : Char) (cs : List Char) :
      FaultAt d.chars .trailingText (c :: cs)
  | type {start front rest : List Char} {other : Char} {cause : Cause}
      (due : TypeDue start other) (reading : ReadAsType other (front ++ rest))
      (fault : TypeFault front cause rest) : FaultAt (start ++ front) cause rest

/-- Parameters are refused where one of them is, or where the text ends. -/
theorem exists_of_readParameters_eq_error {text : List Char} {r : Refusal}
    (h : readParameters text = .error r) :
    ∃ (ts : List FieldType) (tail : List Char), (∀ t ∈ ts, t.Legal)
      ∧ text = ts.flatMap FieldType.chars ++ tail
      ∧ (tail = [] ∧ r = ⟨.unclosedParameters, []⟩
        ∨ ReadAsType ')' tail ∧ readType tail = .error r) := by
  -- the induction follows the reading: each round leaves a shorter text
  induction hn : text.length using Nat.strong_induction_on generalizing text with
  | _ n ih =>
      cases text with
      | nil =>
          rw [readParameters] at h
          cases h
          exact ⟨[], [], by simp, rfl, .inl ⟨rfl, rfl⟩⟩
      | cons c cs =>
          by_cases hc : c = ')'
          · rw [hc, readParameters_close] at h
            cases h
          · rw [readParameters_cons hc] at h
            split at h
            · rename_i r' hread
              cases h
              exact ⟨[], c :: cs, by simp, rfl, .inr ⟨⟨c, cs, rfl, hc⟩, hread⟩⟩
            · rename_i t after hread
              split at h
              · rename_i r' hmore
                cases h
                have hlt : after.length < n := hn ▸ length_lt_of_readType hread
                obtain ⟨ts, tail, hlegal, hafter, hend⟩ := ih _ hlt hmore rfl
                obtain ⟨ht, htext⟩ := readType_eq_ok_iff.mp hread
                refine ⟨t :: ts, tail, List.forall_mem_cons.mpr ⟨ht, hlegal⟩, ?_, hend⟩
                rw [htext, hafter, List.flatMap_cons, List.append_assoc]
              · cases h

/-- A result is refused where its type is, or where the text ends. -/
theorem readResult_eq_error {text : List Char} {r : Refusal} (h : readResult text = .error r) :
    text = [] ∧ r = ⟨.missingResult, []⟩ ∨ ReadAsType 'V' text ∧ readType text = .error r := by
  cases text with
  | nil =>
      cases h
      exact .inl ⟨rfl, rfl⟩
  | cons c cs =>
      by_cases hV : c = 'V'
      · rw [readResult, if_pos hV] at h
        cases h
      · rw [readResult, if_neg hV] at h
        exact .inr ⟨⟨c, cs, rfl, hV⟩, map_eq_error_iff.mp h⟩

theorem exists_faultAt_of_readType {start tail : List Char} {other : Char} {r : Refusal}
    (hdue : TypeDue start other) (htail : ReadAsType other tail) (h : readType tail = .error r) :
    ∃ front, start ++ tail = front ++ r.rest ∧ FaultAt front r.cause r.rest := by
  obtain ⟨front, rfl, hfault⟩ := typeFault_of_readType h
  exact ⟨start ++ front, by simp, .type hdue htail hfault⟩

/-- Every refusal while reading is a fault, in front of the text that it keeps. -/
theorem exists_faultAt_of_read {text : List Char} {r : Refusal} (h : read text = .error r) :
    ∃ front, text = front ++ r.rest ∧ FaultAt front r.cause r.rest := by
  cases text with
  | nil =>
      cases h
      exact ⟨[], rfl, .empty⟩
  | cons c cs =>
      by_cases hc : c = '('
      · subst hc
        rcases read_method_eq_error_iff.mp h with hparameters | ⟨ts, after, hparameters, hresult⟩
        · obtain ⟨ts, tail, hlegal, rfl, ⟨rfl, rfl⟩ | ⟨htail, htype⟩⟩ :=
            exists_of_readParameters_eq_error hparameters
          · exact ⟨_, by simp, .unclosed hlegal⟩
          · exact exists_faultAt_of_readType (.parameter hlegal) htail htype
        · obtain ⟨hlegal, rfl⟩ := eq_of_readParameters hparameters
          have htext : '(' :: (ts.flatMap FieldType.chars ++ ')' :: after)
              = ('(' :: ts.flatMap FieldType.chars ++ [')']) ++ after := by simp
          rw [htext]
          rcases readResult_eq_error hresult with ⟨rfl, rfl⟩ | ⟨hafter, htype⟩
          · exact ⟨_, rfl, .missing hlegal⟩
          · exact exists_faultAt_of_readType (.result hlegal) hafter htype
      · rw [read, if_neg hc] at h
        exact exists_faultAt_of_readType .whole ⟨c, cs, rfl, hc⟩ (map_eq_error_iff.mp h)

/-- **Every malformed text has a fault at the position that is reported.** -/
theorem exists_faultAt_of_parse {text : String} {m : Malformed} (h : parse text = .error m) :
    ∃ front rest, text.toList = front ++ rest ∧ m.position = front.length
      ∧ FaultAt front m.cause rest := by
  obtain ⟨r, hread, rfl⟩ := mapError_eq_error_iff.mp h
  obtain ⟨front, htext, hfault⟩ : ∃ front, text.toList = front ++ r.rest
      ∧ FaultAt front r.cause r.rest := by
    rcases bind_eq_error_iff.mp hread with hread | ⟨⟨d, rest⟩, hread, hfinish⟩
    · exact exists_faultAt_of_read hread
    · obtain ⟨hlegal, htext⟩ := read_eq_ok_iff.mp hread
      cases rest with
      | nil => cases hfinish
      | cons c cs =>
          cases hfinish
          exact ⟨d.chars, htext, .trailing hlegal c cs⟩
  refine ⟨front, r.rest, htext, ?_, hfault⟩
  change text.length - r.rest.length = front.length
  rw [← String.length_toList, htext, List.length_append]
  omega

/-- **The text in front of a fault can be extended to a descriptor.** -/
theorem FaultAt.viable {front rest : List Char} {cause : Cause} (h : FaultAt front cause rest) :
    Viable front := by
  cases h with
  | empty => exact TypeDue.whole.viable
  | unclosed legal => exact (TypeDue.parameter legal).viable
  | missing legal => exact (TypeDue.result legal).viable
  | @trailing d legal c cs =>
      exact ⟨[], derivable_ofList_iff.mpr ⟨d, legal, (List.append_nil _).symm⟩⟩
  | type due reading fault =>
      obtain ⟨t, more, ht, hchars⟩ := fault.exists_type
      have hviable := due.viable_chars ht
      rw [hchars, ← List.append_assoc] at hviable
      exact hviable.of_append

/-- **A fault that is not reported at a start is where every extension fails.** -/
theorem FaultAt.not_viable {front cs : List Char} {c : Char} {cause : Cause}
    (h : FaultAt front cause (c :: cs)) (hcause : ¬ cause.AtSegmentStart) :
    ¬ Viable (front ++ [c]) := by
  rintro ⟨more, hderivable⟩
  rw [List.append_assoc, List.singleton_append] at hderivable
  obtain ⟨e, he, hchars⟩ := derivable_ofList_iff.mp hderivable
  have hread : read (front ++ c :: more) = .ok (e, []) :=
    read_eq_ok_iff.mpr ⟨he, by rw [hchars, List.append_nil]⟩
  cases h with
  | @trailing d legal =>
      -- what has been read is a descriptor of its own
      rw [read_eq_ok_iff.mpr ⟨legal, rfl⟩] at hread
      simp at hread
  | @type start front _ other _ due reading fault =>
      obtain ⟨c', cs', hrest, herror⟩ := fault.exists_readType_eq_error hcause
      obtain ⟨rfl, rfl⟩ := List.cons.inj hrest
      obtain ⟨r, hr⟩ := herror more
      have hreading : ReadAsType other (front ++ c :: more) := by
        obtain ⟨a, as, has, ha⟩ := reading
        cases front with
        | nil => exact ⟨c, more, rfl, by rwa [(List.cons.inj has).1]⟩
        | cons b bs => exact ⟨b, _, rfl, by rwa [(List.cons.inj has).1]⟩
      rw [List.append_assoc, due.read_eq_error hreading hr] at hread
      cases hread

/-! ## Faults at the start of a segment -/

theorem not_atSegmentStart_refuseElement (k : Nat) (c : Char) :
    ¬ (refuseElement k c).AtSegmentStart := by
  rw [refuseElement]
  split
  · split <;> exact id
  · exact id

/-- **A fault that is reported at a start is at the segment that it spoils.** -/
theorem FaultAt.at_segment {front rest : List Char} {cause : Cause} (h : FaultAt front cause rest)
    (hcause : cause.AtSegmentStart) :
    (cause = .unterminatedClass ∧ ElementDue front ∧ ∃ body, rest = 'L' :: body ∧ ';' ∉ body)
      ∨ (cause = .emptyClassName ∧ ElementDue front ∧ ∃ after, rest = 'L' :: ';' :: after)
      ∨ (cause = .danglingArray ∧ front.getLast? ≠ some '['
        ∧ ∃ k, rest = List.replicate (k + 1) '[') := by
  cases h with
  | empty | unclosed | missing | trailing => exact absurd hcause id
  | @type start _ _ other _ due reading fault =>
      cases fault with
      | dangling k =>
          -- the run is not empty: there is a character that is read as a type
          obtain ⟨c, cs, hrun, -⟩ := reading
          cases k with
          | zero => cases hrun
          | succ k =>
              rw [List.append_nil]
              exact .inr (.inr ⟨rfl, due.getLast?_ne, k, rfl⟩)
      | element k => exact absurd hcause (not_atSegmentStart_refuseElement _ _)
      | unterminated k hopen => exact .inl ⟨rfl, ⟨start, other, k, due, rfl⟩, _, rfl, hopen⟩
      | unnamed k after => exact .inr (.inl ⟨rfl, ⟨start, other, k, due, rfl⟩, after, rfl⟩)
      | illegal => exact absurd hcause id

theorem head?_text_of_atSegmentStart {cause : Cause} (h : cause.AtSegmentStart) :
    cause.text.toList.head? ≠ some 'u' ∧ cause.text.toList.head? ≠ some 'i' := by
  cases cause with
  | unterminatedClass | emptyClassName | danglingArray => decide
  | _ => exact absurd h id

/-- The wording of a cause that is reported at a start belongs to no other cause. -/
theorem cause_eq_of_text_eq {cause : Cause} (special : Cause) (hspecial : special.AtSegmentStart)
    (h : cause.text = special.text) : cause = special := by
  obtain ⟨hu, hi⟩ := head?_text_of_atSegmentStart hspecial
  cases cause with
  | unexpected c =>
      have htext : special.text = "unexpected character " ++ Text.quotedChar c := h.symm
      exact absurd (by simp [htext]) hu
  | illegalInName c =>
      have htext : special.text = "illegal character " ++ Text.quotedChar c ++ " in class name" :=
        h.symm
      exact absurd (by simp [htext]) hi
  | _ =>
      cases special <;> first | rfl | exact absurd hspecial id | exact absurd h (by decide)

/-- Behind a fault that is not reported at a start, no prefix of the text can be extended. -/
theorem FaultAt.isGreatest {front rest : List Char} {cause : Cause} (h : FaultAt front cause rest)
    (hcause : ¬ cause.AtSegmentStart) :
    IsGreatest {n | n ≤ (front ++ rest).length ∧ Viable ((front ++ rest).take n)}
      front.length := by
  constructor
  · refine ⟨by simp, ?_⟩
    rw [List.take_left]
    exact h.viable
  · rintro n ⟨hn, hviable⟩
    by_contra hlt
    have hlt : front.length < n := Nat.lt_of_not_le hlt
    cases rest with
    | nil =>
        rw [List.append_nil] at hn
        omega
    | cons c cs =>
        obtain ⟨m, rfl⟩ : ∃ m, n = front.length + (m + 1) := ⟨n - front.length - 1, by omega⟩
        have htake : (front ++ c :: cs).take (front.length + (m + 1))
            = (front ++ [c]) ++ cs.take m := by
          rw [List.take_length_add_append]
          simp
        rw [htake] at hviable
        exact h.not_viable hcause hviable.of_append

end Descriptor

open Descriptor in
/-- **The reported position is exact.** A text that the decoder refuses is refused with a position
in it, and the text in front of that position can be extended to a descriptor. A class that does not
end or has no name is reported at its `L`, which stands where an element type is due; a run of array
markers that nothing follows is reported at the first of them; and in all other cases the position
is the length of the longest prefix that can be extended. -/
theorem decodeNames_locates_fault {text : String} {e : DependencyError}
    (h : decodeNames text = .error e) :
    ∃ (position : Nat) (reason : String), e = .badDescriptor text position reason
      ∧ position ≤ text.length
      ∧ Viable (text.toList.take position)
      ∧ (reason = Cause.text .unterminatedClass → ElementDue (text.toList.take position)
          ∧ ∃ body, text.toList.drop position = 'L' :: body ∧ ';' ∉ body)
      ∧ (reason = Cause.text .emptyClassName → ElementDue (text.toList.take position)
          ∧ ∃ after, text.toList.drop position = 'L' :: ';' :: after)
      ∧ (reason = Cause.text .danglingArray → (text.toList.take position).getLast? ≠ some '['
          ∧ ∃ k, text.toList.drop position = List.replicate (k + 1) '[')
      ∧ (reason ≠ Cause.text .unterminatedClass → reason ≠ Cause.text .emptyClassName →
          reason ≠ Cause.text .danglingArray →
          IsGreatest {n | n ≤ text.length ∧ Viable (text.toList.take n)} position) := by
  obtain ⟨m, hdecode, rfl⟩ := mapError_eq_error_iff.mp h
  obtain ⟨front, rest, htext, hposition, hfault⟩ :=
    exists_faultAt_of_parse (map_eq_error_iff.mp hdecode)
  have hlength : text.length = (front ++ rest).length := by rw [← htext, String.length_toList]
  refine ⟨front.length, m.cause.text, by rw [← hposition]; rfl, by simp [hlength], ?_⟩
  rw [htext, List.take_left, List.drop_left, hlength]
  refine ⟨hfault.viable, ?_, ?_, ?_, ?_⟩
  · intro hreason
    have hcause := cause_eq_of_text_eq .unterminatedClass trivial hreason
    rw [hcause] at hfault
    rcases hfault.at_segment trivial with ⟨-, hsegment⟩ | ⟨⟨⟩, -⟩ | ⟨⟨⟩, -⟩
    exact hsegment
  · intro hreason
    have hcause := cause_eq_of_text_eq .emptyClassName trivial hreason
    rw [hcause] at hfault
    rcases hfault.at_segment trivial with ⟨⟨⟩, -⟩ | ⟨-, hsegment⟩ | ⟨⟨⟩, -⟩
    exact hsegment
  · intro hreason
    have hcause := cause_eq_of_text_eq .danglingArray trivial hreason
    rw [hcause] at hfault
    rcases hfault.at_segment trivial with ⟨⟨⟩, -⟩ | ⟨⟨⟩, -⟩ | ⟨-, hsegment⟩
    exact hsegment
  · intro hunterminated hunnamed hdangling
    refine hfault.isGreatest fun hstart => ?_
    rcases hfault.at_segment hstart with ⟨hcause, -⟩ | ⟨hcause, -⟩ | ⟨hcause, -⟩
    · exact hunterminated (congrArg Cause.text hcause)
    · exact hunnamed (congrArg Cause.text hcause)
    · exact hdangling (congrArg Cause.text hcause)

open Descriptor in
/-- The void element of an array is found behind the class and the array marker. -/
theorem decodeNames_locates_fault_arrayOfVoid :
    decodeNames "(LA;[V)V" = .error (.badDescriptor "(LA;[V)V" 5 "array of void")
      ∧ IsGreatest {n | n ≤ "(LA;[V)V".length ∧ Viable ("(LA;[V)V".toList.take n)} 5 := by
  have herror : decodeNames "(LA;[V)V" = .error (.badDescriptor "(LA;[V)V" 5 "array of void") := by
    decide +kernel
  obtain ⟨position, reason, he, -, -, -, -, -, hgreatest⟩ := decodeNames_locates_fault herror
  simp only [DependencyError.badDescriptor.injEq, true_and] at he
  obtain ⟨hposition, rfl⟩ := he
  obtain rfl : position = 5 := by omega
  exact ⟨herror, hgreatest (by decide) (by decide) (by decide)⟩

end JvmDeps
