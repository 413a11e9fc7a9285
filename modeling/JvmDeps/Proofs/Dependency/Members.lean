import JvmDeps.Proofs.ClassFile.RoundTrip
import JvmDeps.Proofs.Dependency.Extraction
import JvmDeps.Proofs.Descriptor.Grammar

set_option autoImplicit false

/-! # Types of fields and methods

Fields and methods go through one decoder. It reads their descriptors in the order of declaration
and stops at the first that is malformed (`decoded_eq_ok_iff`, `decoded_eq_error_iff`).

For fields this decides what is accepted: nothing else asks whether the type of a field is a field
type, and the type of a method passes as well (`ClassDecl.fieldNames_outcome`).

For methods there are three ways to ask (`MethodQuery`): for all of them, for those of a name, and
for the one of a name and descriptor. All three select from one list (`selectMethods_eq_ok_iff`), so
the answers to wider queries are made up of the answers to narrower ones
(`ClassDecl.selectedNames_compose`).
-/

namespace JvmDeps

/-! ## Descriptors of members -/

namespace Descriptor

/-- The text is a field type: a run of `[` and a primitive letter, or `L`, a legal name and `;`. -/
def IsField (text : String) : Prop :=
  ∃ t : FieldType, t.Legal ∧ (Descriptor.field t).text = text

/-- The text is the type of a method. -/
def IsMethod (text : String) : Prop :=
  ∃ parameters result,
    (Descriptor.method parameters result).Legal ∧ (Descriptor.method parameters result).text = text

theorem legal_field_iff {t : FieldType} : (Descriptor.field t).Legal ↔ t.Legal :=
  List.forall_mem_singleton

theorem derivable_iff {text : String} : Derivable text ↔ IsField text ∨ IsMethod text := by
  constructor
  · rintro ⟨d, hd, htext⟩
    cases d with
    | field t => exact Or.inl ⟨t, legal_field_iff.mp hd, htext⟩
    | method parameters result => exact Or.inr ⟨parameters, result, hd, htext⟩
  · rintro (⟨t, ht, htext⟩ | ⟨parameters, result, hd, htext⟩)
    · exact ⟨_, legal_field_iff.mpr ht, htext⟩
    · exact ⟨_, hd, htext⟩

/-- No text is both. -/
theorem IsMethod.not_isField {text : String} (h : IsMethod text) : ¬ IsField text := by
  obtain ⟨parameters, result, hd, rfl⟩ := h
  rintro ⟨t, ht, htext⟩
  have hsame := eq_of_text_eq (legal_field_iff.mpr ht) hd htext
  cases hsame

end Descriptor

/-- The names in a descriptor are the class names of its derivation, in dotted form. -/
theorem mem_decodeNames_iff {text x : String} :
    (∃ found, decodeNames text = .ok found ∧ x ∈ found) ↔
      ∃ d : Descriptor, d.Legal ∧ d.text = text ∧
        ∃ name ∈ d.classNames, Name.toDotted name = x := by
  constructor
  · rintro ⟨found, hfound, hx⟩
    obtain ⟨d, hd, htext, rfl⟩ := exists_of_decodeNames hfound
    exact ⟨d, hd, htext, List.mem_map.mp hx⟩
  · rintro ⟨d, hd, rfl, hx⟩
    exact ⟨_, decodeNames_text hd, List.mem_map.mpr hx⟩

section Members

variable {α : Type} {text : α → String} {members : List α}

/-- The member is the first whose text is no descriptor. -/
def FirstMalformed (text : α → String) (members : List α) (m : α) : Prop :=
  ∃ before after, members = before ++ m :: after ∧
    (∀ x ∈ before, Descriptor.Derivable (text x)) ∧ ¬ Descriptor.Derivable (text m)

theorem FirstMalformed.mem {m : α} (h : FirstMalformed text members m) : m ∈ members := by
  obtain ⟨before, after, rfl, -⟩ := h
  exact List.mem_append_right before List.mem_cons_self

/-- The decoder refuses the text of such a member. -/
theorem FirstMalformed.eq_badDescriptor {m : α} {e : DependencyError}
    (h : FirstMalformed text members m) (he : decodeNames (text m) = .error e) :
    ∃ position reason, e = .badDescriptor (text m) position reason := by
  obtain ⟨before, after, -, -, hmalformed⟩ := h
  obtain ⟨position, reason, hbad⟩ := decodeNames_eq_error hmalformed
  exact ⟨position, reason, Except.error.inj (he.symm.trans hbad)⟩

/-- **The members of a list are decoded exactly if all their texts are descriptors**, and then all
their names are found. -/
theorem decoded_eq_ok_iff {names : NameSet} :
    (collectNames decodeNames (members.map text)).map .ofList = .ok names ↔
      (∀ m ∈ members, Descriptor.Derivable (text m)) ∧
        ∀ x, x ∈ names ↔ ∃ m ∈ members, ∃ found, decodeNames (text m) = .ok found ∧ x ∈ found := by
  rw [map_collectNames_eq_ok_iff, List.forall_mem_map]
  simp only [List.mem_map, exists_exists_and_eq_and, exists_decodeNames_iff]

theorem exists_decoded_iff :
    (∃ names : NameSet, (collectNames decodeNames (members.map text)).map .ofList = .ok names) ↔
      ∀ m ∈ members, Descriptor.Derivable (text m) := by
  rw [exists_map_collectNames_iff, List.forall_mem_map]
  simp only [exists_decodeNames_iff]

/-- **Otherwise the first malformed text is reported.** -/
theorem decoded_eq_error_iff {e : DependencyError} :
    ((collectNames decodeNames (members.map text)).map .ofList : Except _ NameSet) = .error e ↔
      ∃ m, FirstMalformed text members m ∧ decodeNames (text m) = .error e := by
  have hmalformed : ∀ {t}, decodeNames t = .error e → ¬ Descriptor.Derivable t := by
    intro t herror hderivable
    obtain ⟨names, hnames⟩ := exists_decodeNames_iff.mpr hderivable
    cases herror.symm.trans hnames
  rw [map_eq_error_iff, collectNames_eq_error_iff]
  constructor
  · rintro ⟨texts, t, rest, hsplit, htexts, herror⟩
    obtain ⟨before, tail, rfl, rfl, htail⟩ := List.map_eq_append_iff.mp hsplit
    obtain ⟨m, after, rfl, rfl, -⟩ := List.map_eq_cons_iff.mp htail
    refine ⟨m, ⟨before, after, rfl, fun x hx => ?_, hmalformed herror⟩, herror⟩
    exact exists_decodeNames_iff.mp (htexts _ (List.mem_map_of_mem hx))
  · rintro ⟨m, ⟨before, after, rfl, hbefore, -⟩, herror⟩
    refine ⟨before.map text, text m, after.map text, by simp, ?_, herror⟩
    exact List.forall_mem_map.mpr fun x hx => exists_decodeNames_iff.mpr (hbefore x hx)

end Members

namespace ClassDecl

variable {c : ClassDecl} {names : NameSet}

/-! ## Fields -/

/-- **What the analysis of fields accepts.** It succeeds exactly if every field has a type, which
may be the type of a method, and finds the classes in these types; otherwise it reports the first
field that has none. So it asks for field types exactly unless all fields have types and one of them
is that of a method. -/
theorem fieldNames_outcome (c : ClassDecl) :
    ((∃ names, c.fieldNames = .ok names) ↔
        ∀ f ∈ c.fields, Descriptor.IsField f.descriptor ∨ Descriptor.IsMethod f.descriptor) ∧
      (∀ names, c.fieldNames = .ok names → ∀ x, x ∈ names ↔
        ∃ f ∈ c.fields, ∃ d : Descriptor, d.Legal ∧ d.text = f.descriptor ∧
          ∃ name ∈ d.classNames, Name.toDotted name = x) ∧
      (∀ e, c.fieldNames = .error e → ∃ f position reason,
        FirstMalformed FieldDecl.descriptor c.fields f ∧
          e = .badDescriptor f.descriptor position reason) ∧
      (((∃ names, c.fieldNames = .ok names) ↔ ∀ f ∈ c.fields, Descriptor.IsField f.descriptor) ↔
        ¬ ((∀ f ∈ c.fields, Descriptor.IsField f.descriptor ∨ Descriptor.IsMethod f.descriptor) ∧
          ∃ f ∈ c.fields, Descriptor.IsMethod f.descriptor)) := by
  have hok : (∃ names, c.fieldNames = .ok names) ↔
      ∀ f ∈ c.fields, Descriptor.IsField f.descriptor ∨ Descriptor.IsMethod f.descriptor := by
    simp only [← Descriptor.derivable_iff]
    exact exists_decoded_iff
  refine ⟨hok, fun names hnames x => ?_, fun e he => ?_, ?_⟩
  · rw [(decoded_eq_ok_iff.mp hnames).2]
    simp only [mem_decodeNames_iff]
  · obtain ⟨f, hfirst, herror⟩ := decoded_eq_error_iff.mp he
    obtain ⟨position, reason, rfl⟩ := hfirst.eq_badDescriptor herror
    exact ⟨f, position, reason, hfirst, rfl⟩
  · rw [hok]
    constructor
    · rintro hlaw ⟨htypes, f, hf, hmethod⟩
      exact hmethod.not_isField (hlaw.mp htypes f hf)
    · intro hnot
      refine ⟨fun htypes f hf => ?_, fun hfields f hf => Or.inl (hfields f hf)⟩
      exact (htypes f hf).resolve_right fun hmethod => hnot ⟨htypes, f, hf, hmethod⟩

/-- A class with a field of a type for methods. -/
def methodField : ClassDecl where
  name := "a/B"
  fields := [{ name := "x", descriptor := "(La/C;)V" }]

theorem fieldNames_methodField :
    methodField.check = .ok methodField ∧ methodField.fieldNames = .ok (.ofList ["a.C"]) ∧
      ¬ ∀ f ∈ methodField.fields, Descriptor.IsField f.descriptor := by
  refine ⟨by decide, by decide +kernel, fun hfields => ?_⟩
  have hmethod : Descriptor.IsMethod "(La/C;)V" :=
    ⟨[⟨0, .object "a/C"⟩], none, by decide, by decide⟩
  exact hmethod.not_isField (hfields _ List.mem_cons_self)

end ClassDecl

/-! ## Methods -/

/-- A way to ask for methods. -/
inductive MethodQuery where
  | all
  | named (name : String)
  | overload (name descriptor : String)
deriving DecidableEq, Repr

namespace MethodQuery

/-- The name that is asked for. -/
def name? : MethodQuery → Option String
  | all => none
  | named name => some name
  | overload name _ => some name

/-- The descriptor that is asked for. -/
def descriptor? : MethodQuery → Option String
  | all => none
  | named _ => none
  | overload _ descriptor => some descriptor

/-- The method is one of those that are asked for. -/
def Matches (m : MethodDecl) : MethodQuery → Prop
  | all => True
  | named name => m.name = name
  | overload name descriptor => m.key = (name, descriptor)

instance (m : MethodDecl) : (q : MethodQuery) → Decidable (q.Matches m)
  | all => inferInstanceAs (Decidable True)
  | named _ => inferInstanceAs (Decidable (_ = _))
  | overload _ _ => inferInstanceAs (Decidable (_ = _))

/-- The methods that are asked for, in the order of declaration. -/
def selected (q : MethodQuery) (c : ClassDecl) : List MethodDecl :=
  c.methods.filter fun m => decide (q.Matches m)

theorem mem_selected {q : MethodQuery} {c : ClassDecl} {m : MethodDecl} :
    m ∈ q.selected c ↔ m ∈ c.methods ∧ q.Matches m := by
  simp [selected]

theorem selected_eq_nil_iff {q : MethodQuery} {c : ClassDecl} :
    q.selected c = [] ↔ ∀ m ∈ c.methods, ¬ q.Matches m := by
  simp [selected]

/-- A query is divided into parts: the part of a method that it asks for asks for this method, and
for no others than the whole does. -/
structure Divides (part : MethodDecl → MethodQuery) (whole : MethodQuery) : Prop where
  own : ∀ m, whole.Matches m → (part m).Matches m
  within : ∀ m m', whole.Matches m → (part m).Matches m' → whole.Matches m'

/-- A name is divided into its overloads. -/
theorem divides_named (name : String) :
    Divides (fun m => overload name m.descriptor) (named name) where
  own m hm := congrArg (·, m.descriptor) hm
  within _ _ _ hm' := (Prod.mk.inj hm').1

/-- All methods are divided into those of a name. -/
theorem divides_all : Divides (fun m => named m.name) all where
  own _ _ := rfl
  within _ _ _ _ := trivial

end MethodQuery

namespace ClassDecl

variable {c : ClassDecl} {q : MethodQuery} {ms : List MethodDecl} {names : NameSet}

/-- If methods are told apart by their keys, there is one of a key. -/
theorem filter_key_eq_singleton (h : (ms.map MethodDecl.key).Nodup) {m : MethodDecl}
    (hm : m ∈ ms) : ms.filter (fun m' => decide (m'.key = m.key)) = [m] := by
  induction ms with
  | nil => cases hm
  | cons first ms ih =>
      rw [List.map_cons, List.nodup_cons] at h
      rcases List.mem_cons.mp hm with rfl | hm
      · have hnone : ms.filter (fun m' => decide (m'.key = m.key)) = [] := by
          refine List.filter_eq_nil_iff.mpr fun m' hm' hkey => h.1 ?_
          exact of_decide_eq_true hkey ▸ List.mem_map_of_mem hm'
        simp [hnone]
      · have hne : first.key ≠ m.key := fun hkey => h.1 (hkey ▸ List.mem_map_of_mem hm)
        simp [hne, ih h.2 hm]

theorem selected_all (c : ClassDecl) : MethodQuery.all.selected c = c.methods :=
  List.filter_eq_self.mpr fun _ _ => rfl

theorem selected_named (c : ClassDecl) (name : String) :
    (MethodQuery.named name).selected c = c.methodsNamed name := by
  refine List.filter_congr fun m _ => ?_
  by_cases hm : m.name = name <;> simp [MethodQuery.Matches, hm]

section Keys

variable (h : (c.methods.map MethodDecl.key).Nodup)
include h

/-- The method of a key is found where it is declared. -/
theorem selected_overload (name descriptor : String) :
    (MethodQuery.overload name descriptor).selected c = (c.method? name descriptor).toList := by
  rw [method?]
  cases hm : c.methods.find? (·.key == (name, descriptor)) with
  | some m =>
      have hkey : m.key = (name, descriptor) := by
        have hfound := List.find?_some hm
        exact beq_iff_eq.mp hfound
      have hone := filter_key_eq_singleton h (List.mem_of_find?_eq_some hm)
      rw [hkey] at hone
      exact hone
  | none =>
      refine List.filter_eq_nil_iff.mpr fun m hmem hmatch => ?_
      exact List.find?_eq_none.mp hm m hmem (beq_iff_eq.mpr (of_decide_eq_true hmatch))

/-- **Every query selects the methods that are asked for**, in the order of declaration. If a name
is asked for and there are none, that is what is reported. -/
theorem selectMethods_eq (q : MethodQuery) :
    c.selectMethods q.name? q.descriptor? =
      match q.name?, q.selected c with
      | some name, [] => .error (.failure (.methodNotFound c.dottedName name q.descriptor?))
      | _, ms => .ok ms := by
  cases q with
  | all =>
      rw [selected_all]
      rfl
  | named name =>
      rw [selected_named]
      show c.selectMethods (some name) none = _
      rw [selectMethods]
      cases c.methodsNamed name <;> rfl
  | overload name descriptor =>
      rw [selected_overload h]
      show c.selectMethods (some name) (some descriptor) = _
      rw [selectMethods]
      cases c.method? name descriptor <;> rfl

theorem selectMethods_eq_ok_iff :
    c.selectMethods q.name? q.descriptor? = .ok ms ↔
      q.selected c = ms ∧ (q.name? = none ∨ ∃ m ∈ c.methods, q.Matches m) := by
  have hsome : (∃ m ∈ c.methods, q.Matches m) ↔ q.selected c ≠ [] := by
    simp [MethodQuery.selected_eq_nil_iff]
  rw [selectMethods_eq h, hsome]
  cases q.name? with
  | none => simp
  | some name =>
      cases q.selected c with
      | nil => simp
      | cons m ms => simp

theorem selectMethods_eq_error_iff {fault : Fault} :
    c.selectMethods q.name? q.descriptor? = .error fault ↔
      ∃ name, q.name? = some name ∧ (∀ m ∈ c.methods, ¬ q.Matches m) ∧
        fault = .failure (.methodNotFound c.dottedName name q.descriptor?) := by
  rw [selectMethods_eq h, ← MethodQuery.selected_eq_nil_iff]
  cases q.name? with
  | none => simp
  | some name =>
      cases q.selected c with
      | nil => simp [eq_comm (a := fault)]
      | cons m ms => simp

/-! ## Types of selected methods -/

/-- **The types of the methods that are asked for are found** exactly if there are such methods, or
all are asked for, and every one of them has a descriptor. -/
theorem selectedNames_eq_ok_iff :
    c.selectedNames q.name? q.descriptor? = .ok names ↔
      ((q.name? = none ∨ ∃ m ∈ c.methods, q.Matches m) ∧
        ∀ m ∈ c.methods, q.Matches m → Descriptor.Derivable m.descriptor) ∧
      ∀ x, x ∈ names ↔ ∃ m ∈ c.methods, q.Matches m ∧
        ∃ found, decodeNames m.descriptor = .ok found ∧ x ∈ found := by
  have hdecoded : signatureNamesOf (q.selected c) = .ok names ↔
      (∀ m ∈ c.methods, q.Matches m → Descriptor.Derivable m.descriptor) ∧
        ∀ x, x ∈ names ↔ ∃ m ∈ c.methods, q.Matches m ∧
          ∃ found, decodeNames m.descriptor = .ok found ∧ x ∈ found := by
    refine decoded_eq_ok_iff.trans ?_
    simp only [MethodQuery.mem_selected, and_imp, and_assoc]
  rw [selectedNames, bind_eq_ok_iff]
  simp only [selectMethods_eq_ok_iff h, mapError_eq_ok_iff]
  constructor
  · rintro ⟨_, ⟨rfl, hmatch⟩, hnames⟩
    obtain ⟨hderivable, hmem⟩ := hdecoded.mp hnames
    exact ⟨⟨hmatch, hderivable⟩, hmem⟩
  · rintro ⟨⟨hmatch, hderivable⟩, hmem⟩
    exact ⟨_, ⟨rfl, hmatch⟩, hdecoded.mpr ⟨hderivable, hmem⟩⟩

theorem exists_selectedNames_iff :
    (∃ names, c.selectedNames q.name? q.descriptor? = .ok names) ↔
      (q.name? = none ∨ ∃ m ∈ c.methods, q.Matches m) ∧
        ∀ m ∈ c.methods, q.Matches m → Descriptor.Derivable m.descriptor := by
  constructor
  · rintro ⟨names, hnames⟩
    exact ((selectedNames_eq_ok_iff h).mp hnames).1
  · rintro ⟨hmatch, hderivable⟩
    have hselected : ∀ m ∈ q.selected c, Descriptor.Derivable m.descriptor := by
      intro m hm
      obtain ⟨hm, hmatches⟩ := MethodQuery.mem_selected.mp hm
      exact hderivable m hm hmatches
    obtain ⟨names, hnames⟩ := exists_decoded_iff.mpr hselected
    refine ⟨names, bind_eq_ok_iff.mpr ⟨q.selected c, ?_, mapError_eq_ok_iff.mpr hnames⟩⟩
    exact (selectMethods_eq_ok_iff h).mpr ⟨rfl, hmatch⟩

/-- **Otherwise the query finds no method, or the first malformed one is reported.** -/
theorem selectedNames_eq_error_iff {fault : Fault} :
    c.selectedNames q.name? q.descriptor? = .error fault ↔
      (∃ name, q.name? = some name ∧ (∀ m ∈ c.methods, ¬ q.Matches m) ∧
        fault = .failure (.methodNotFound c.dottedName name q.descriptor?)) ∨
      ∃ m position reason, FirstMalformed MethodDecl.descriptor (q.selected c) m ∧
        decodeNames m.descriptor = .error (.badDescriptor m.descriptor position reason) ∧
        fault = .failure (.badDescriptor m.descriptor position reason) := by
  rw [selectedNames, bind_eq_error_iff, selectMethods_eq_error_iff h]
  refine or_congr Iff.rfl ?_
  simp only [selectMethods_eq_ok_iff h, mapError_eq_error_iff]
  constructor
  · rintro ⟨_, ⟨rfl, -⟩, e, he, rfl⟩
    obtain ⟨m, hfirst, herror⟩ := decoded_eq_error_iff.mp he
    obtain ⟨position, reason, rfl⟩ := hfirst.eq_badDescriptor herror
    exact ⟨m, position, reason, hfirst, herror, rfl⟩
  · rintro ⟨m, position, reason, hfirst, herror, rfl⟩
    have hm := MethodQuery.mem_selected.mp hfirst.mem
    exact ⟨_, ⟨rfl, Or.inr ⟨m, hm⟩⟩, _, decoded_eq_error_iff.mpr ⟨m, hfirst, herror⟩, rfl⟩

/-! ## Queries that are divided -/

variable {part : MethodDecl → MethodQuery}

/-- **A query has an answer exactly if its parts have.** -/
theorem exists_selectedNames_iff_of_divides (hparts : MethodQuery.Divides part q) :
    (∃ names, c.selectedNames q.name? q.descriptor? = .ok names) ↔
      (q.name? = none ∨ ∃ m ∈ c.methods, q.Matches m) ∧ ∀ m ∈ c.methods, q.Matches m →
        ∃ found, c.selectedNames (part m).name? (part m).descriptor? = .ok found := by
  simp only [exists_selectedNames_iff h]
  refine and_congr_right fun _ => ⟨fun hall m hm hmatch => ?_, fun hall m hm hmatch => ?_⟩
  · refine ⟨Or.inr ⟨m, hm, hparts.own m hmatch⟩, fun m' hm' hmatch' => ?_⟩
    exact hall m' hm' (hparts.within m m' hmatch hmatch')
  · exact (hall m hm hmatch).2 m hm (hparts.own m hmatch)

/-- **The answer to a query is the union of the answers to its parts.** -/
theorem mem_selectedNames_iff_of_divides (hparts : MethodQuery.Divides part q)
    (hnames : c.selectedNames q.name? q.descriptor? = .ok names) (x : String) :
    x ∈ names ↔ ∃ m ∈ c.methods, q.Matches m ∧
      ∃ found, c.selectedNames (part m).name? (part m).descriptor? = .ok found ∧ x ∈ found := by
  rw [((selectedNames_eq_ok_iff h).mp hnames).2 x]
  constructor
  · rintro ⟨m, hm, hmatch, hx⟩
    obtain ⟨found, hfound⟩ :=
      ((exists_selectedNames_iff_of_divides h hparts).mp ⟨names, hnames⟩).2 m hm hmatch
    refine ⟨m, hm, hmatch, found, hfound, ?_⟩
    exact (((selectedNames_eq_ok_iff h).mp hfound).2 x).mpr ⟨m, hm, hparts.own m hmatch, hx⟩
  · rintro ⟨m, hm, hmatch, found, hfound, hx⟩
    obtain ⟨m', hm', hmatch', hx⟩ := (((selectedNames_eq_ok_iff h).mp hfound).2 x).mp hx
    exact ⟨m', hm', hparts.within m m' hmatch hmatch', hx⟩

/-- The key of a method selects just this method. -/
theorem selectMethods_key {m : MethodDecl} (hm : m ∈ c.methods) :
    c.selectMethods (some m.name) (some m.descriptor) = .ok [m] :=
  (selectMethods_eq_ok_iff (q := .overload m.name m.descriptor) h).mpr
    ⟨filter_key_eq_singleton h hm, Or.inr ⟨m, hm, rfl⟩⟩

end Keys

/-- **Queries for methods compose.** The key of a method selects just this method. A name has an
answer exactly if it is declared and each of its overloads has one, and the answer is the union of
theirs; all methods have an answer exactly if every declared name has one, and the answer is the
union of theirs. A query fails exactly if it asks for a name and no method matches, or if one that
matches is malformed; of these the first is reported. -/
theorem selectedNames_compose (c : ClassDecl) (h : c.check = .ok c) :
    (∀ m ∈ c.methods, c.selectMethods (some m.name) (some m.descriptor) = .ok [m]) ∧
      (∀ name, (∃ names, c.selectedNames (some name) none = .ok names) ↔
        (∃ m ∈ c.methods, m.name = name) ∧ ∀ m ∈ c.methods, m.name = name →
          ∃ found, c.selectedNames (some name) (some m.descriptor) = .ok found) ∧
      (∀ name names, c.selectedNames (some name) none = .ok names → ∀ x, x ∈ names ↔
        ∃ m ∈ c.methods, m.name = name ∧
          ∃ found, c.selectedNames (some name) (some m.descriptor) = .ok found ∧ x ∈ found) ∧
      ((∃ names, c.selectedNames none none = .ok names) ↔
        ∀ m ∈ c.methods, ∃ found, c.selectedNames (some m.name) none = .ok found) ∧
      (∀ names, c.selectedNames none none = .ok names → ∀ x, x ∈ names ↔
        ∃ m ∈ c.methods, ∃ found, c.selectedNames (some m.name) none = .ok found ∧ x ∈ found) ∧
      (∀ (q : MethodQuery) fault, c.selectMethods q.name? q.descriptor? = .error fault ↔
        ∃ name, q.name? = some name ∧ (∀ m ∈ c.methods, ¬ q.Matches m) ∧
          fault = .failure (.methodNotFound c.dottedName name q.descriptor?)) ∧
      ∀ (q : MethodQuery) fault, c.selectedNames q.name? q.descriptor? = .error fault ↔
        (∃ name, q.name? = some name ∧ (∀ m ∈ c.methods, ¬ q.Matches m) ∧
          fault = .failure (.methodNotFound c.dottedName name q.descriptor?)) ∨
        ∃ m position reason, FirstMalformed MethodDecl.descriptor (q.selected c) m ∧
          decodeNames m.descriptor = .error (.badDescriptor m.descriptor position reason) ∧
          fault = .failure (.badDescriptor m.descriptor position reason) := by
  have hkeys := (check_eq_ok_iff.mp h).keys
  have hnamed := MethodQuery.divides_named
  have hall := MethodQuery.divides_all
  refine ⟨fun m hm => selectMethods_key hkeys hm, fun name => ?_, fun name names hnames => ?_, ?_,
    fun names hnames x => ?_, fun q fault => selectMethods_eq_error_iff hkeys,
    fun q fault => selectedNames_eq_error_iff hkeys⟩
  -- a name must be declared, but there need not be any methods at all
  · refine (exists_selectedNames_iff_of_divides hkeys (hnamed name)).trans ?_
    exact and_congr_left fun _ => or_iff_right nofun
  · exact mem_selectedNames_iff_of_divides hkeys (hnamed name) hnames
  · refine (exists_selectedNames_iff_of_divides hkeys hall).trans ?_
    refine (and_iff_right (Or.inl rfl)).trans ?_
    exact forall₂_congr fun m _ => forall_prop_of_true trivial
  · refine (mem_selectedNames_iff_of_divides hkeys hall hnames x).trans ?_
    exact exists_congr fun m => and_congr_right fun _ => and_iff_right trivial

/-- A class with overloads, one of them malformed. -/
def overloaded : ClassDecl where
  name := "a/B"
  methods := [{ name := "get", descriptor := "(La/C;)V" },
    { name := "get", descriptor := "()La/D;" }, { name := "set", descriptor := "(Q)V" }]

theorem selectedNames_compose_overloaded :
    overloaded.check = .ok overloaded ∧
      overloaded.selectMethods (some "get") (some "()La/D;") =
        .ok [{ name := "get", descriptor := "()La/D;" }] ∧
      (∃ names, overloaded.selectedNames (some "get") none = .ok names) ∧
      overloaded.selectedNames (some "put") none =
        .error (.failure (.methodNotFound "a.B" "put" none)) ∧
      overloaded.selectedNames none none =
        .error (.failure (.badDescriptor "(Q)V" 1 "unexpected character 'Q'")) := by
  have hcheck : overloaded.check = .ok overloaded := by decide
  obtain ⟨hkey, hname, -, -, -, -, herror⟩ := selectedNames_compose overloaded hcheck
  refine ⟨hcheck, hkey ⟨"get", "()La/D;", 0⟩ (by decide), ?_, ?_, ?_⟩
  · refine (hname "get").mpr ⟨by decide, fun m hm hget => ?_⟩
    have hcases : m.descriptor = "(La/C;)V" ∨ m.descriptor = "()La/D;" := by
      revert m
      decide
    rcases hcases with hm | hm
    · rw [hm]
      exact ⟨.ofList ["a.C"], by decide +kernel⟩
    · rw [hm]
      exact ⟨.ofList ["a.D"], by decide +kernel⟩
  · exact (herror (.named "put") _).mpr (Or.inl ⟨"put", rfl, by decide, by decide +kernel⟩)
  · have hfirst : FirstMalformed MethodDecl.descriptor (MethodQuery.all.selected overloaded)
        ⟨"set", "(Q)V", 0⟩ :=
      ⟨overloaded.methods.take 2, [], rfl, by decide +kernel, by decide +kernel⟩
    exact (herror .all _).mpr (Or.inr ⟨_, 1, _, hfirst, by decide +kernel, rfl⟩)

end ClassDecl

end JvmDeps
