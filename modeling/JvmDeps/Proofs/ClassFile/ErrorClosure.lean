import JvmDeps.Proofs.ClassFile.Nesting
import JvmDeps.Proofs.ClassFile.Tables

set_option autoImplicit false

/-! # The reader fails in one way only

`Tables.readClass` reads a class with a cursor and with the constants in three tables. Names are
looked up while the tables of the layout are read, values in annotations are skipped, and the
records are built, and checked, one by one at the end. Whatever one of its operations can run into
would be seen as an `Interrupt` of its own: a look-up without an entry, a chunk without a byte, a
text that cannot be decoded, a record with a defect, values nested too deep.

Part by part it follows the reader of the layout (`follows_readParts`), and so it does what
`readDecl` does (`readClass_eq`). Of the interrupts only two are left: refusals under the label of
the bytes, and the end of the depth, which is met only inside annotations that go deeper.
`ofBytes_closed` is the main statement.
-/

namespace JvmDeps.ClassFile

namespace Tables

open Reading (u1 u2 u4 take handling refuse counted)

/-! ## The layout -/

/-- Reads the name and the body of an attribute. -/
def readAttribute (t : Tables) : Reading (String × Bytes) := do
  let nameIndex ← u2
  let name ← t.text nameIndex.toNat
  let size ← u4
  let body ← take size.toNat
  return (name, body)

/-- What is kept of a field or a method. -/
structure MemberEntry where
  flags : UInt16
  name : String
  descriptor : String

/-- Reads a member, and drops its attributes. -/
def readMember (t : Tables) : Reading MemberEntry := do
  let flags ← u2
  let nameIndex ← u2
  let name ← t.text nameIndex.toNat
  let descriptorIndex ← u2
  let descriptor ← t.text descriptorIndex.toNat
  let _ ← counted t.readAttribute
  return ⟨flags, name, descriptor⟩

/-- Reads the name of a class. -/
def readClassName (t : Tables) : Reading String := do
  let index ← u2
  t.className index.toNat

/-- Reads the name of a class, or that there is none. -/
def readClassName? (t : Tables) : Reading (Option String) := do
  let index ← u2
  if index = 0 then return none
  else
    let name ← t.className index.toNat
    return some name

/-- The parts of a class file, with names in place of indexes. -/
structure Parts where
  tables : Tables
  minorVersion : UInt16
  majorVersion : UInt16
  flags : UInt16
  name : String
  superName : Option String
  interfaces : List String
  fields : List MemberEntry
  methods : List MemberEntry
  attributes : List (String × Bytes)

/-- Reads the parts of a class file. -/
def readParts : Reading Parts := do
  let start ← u4
  if start ≠ magic then refuse Cause.badMagic.text
  else
    let minorVersion ← u2
    let majorVersion ← u2
    let tables ← readTables
    let flags ← u2
    let name ← tables.readClassName
    let superName ← tables.readClassName?
    let interfaces ← counted tables.readClassName
    let fields ← counted tables.readMember
    let methods ← counted tables.readMember
    let attributes ← counted tables.readAttribute
    return {
      tables, minorVersion, majorVersion, flags, name, superName, interfaces, fields, methods,
      attributes }

/-! ## Annotations -/

/-- Skips a value of at most `depth` levels. -/
def skipWithin : (depth : Nat) → Reading Unit
  | 0 => fun _ => .error .tooDeep
  | depth + 1 => do
    let tag ← u1
    if tag ∈ ElementValue.constTags ∨ tag = ElementValue.classInfoTag then
      let _ ← u2
    else if tag = ElementValue.enumTag then
      let _ ← u2
      let _ ← u2
    else if tag = ElementValue.nestedTag then
      let _ ← u2
      let _ ← counted do
        let _ ← u2
        skipWithin depth
    else if tag = ElementValue.arrayTag then
      let _ ← counted (skipWithin depth)
    else refuse (Cause.unknownElement tag).text

/-- Reads the type of an annotation, and skips its values. -/
def readAnnotationType (depth : Nat) (t : Tables) : Reading String := do
  let typeIndex ← u2
  let type ← t.text typeIndex.toNat
  let _ ← counted do
    let _ ← u2
    skipWithin depth
  return type

/-- The annotation types in the body of an attribute, which must be used up. -/
def typesIn (depth : Nat) (t : Tables) (body : Bytes) : Except Interrupt (List String) := do
  let (types, c) ← counted (t.readAnnotationType depth) ⟨body, t.source, 0⟩
  if c.remaining = 0 then return types else .error (.refused t.source Cause.lengthMismatch.text)

/-- The annotation types of a class: those of the last attribute that holds any. -/
def lastTypes (depth : Nat) (t : Tables) (last : Option (List String)) :
    List (String × Bytes) → Except Interrupt (Option (List String))
  | [] => .ok last
  | (name, body) :: rest =>
    if name = annotationsName then do
      let types ← t.typesIn depth body
      lastTypes depth t (some types) rest
    else lastTypes depth t last rest

/-! ## The class -/

/-- A record, unless it has a defect. -/
def checked {α : Type} (defect? : α → Option ClassDecl.Defect) (a : α) : Except Interrupt α :=
  (defect? a).elim (.ok a) fun d => .error (.badRecord d)

/-- The field of an entry. -/
def MemberEntry.field (e : MemberEntry) : FieldDecl := ⟨e.name, e.descriptor, e.flags.toNat⟩

/-- The method of an entry. -/
def MemberEntry.method (e : MemberEntry) : MethodDecl := ⟨e.name, e.descriptor, e.flags.toNat⟩

/-- The class of some parts, with its fields and methods. -/
def Parts.decl (p : Parts) (annotations : Option (List String)) (references : List String)
    (fields : List FieldDecl) (methods : List MethodDecl) : ClassDecl where
  name := p.name
  superName := p.superName
  interfaces := p.interfaces
  fields := fields
  methods := methods
  annotations := annotations
  references := references
  flags := p.flags.toNat
  majorVersion := p.majorVersion.toNat
  minorVersion := p.minorVersion.toNat

/-- Builds the fields, the methods and the class; each record is checked when it is built. -/
def Parts.build (p : Parts) (annotations : Option (List String)) (references : List String) :
    Except Interrupt ClassDecl := do
  let fields ← p.fields.mapM fun e => checked ClassDecl.fieldDefect? e.field
  let methods ← p.methods.mapM fun e => checked ClassDecl.methodDefect? e.method
  checked ClassDecl.classDefect? (p.decl annotations references fields methods)

/-- The defect of a record is a reason to refuse the bytes. -/
def defectReason : Interrupt → Option String
  | .badRecord d => some d.text
  | _ => none

/-- Makes the class of the parts: first its annotations are read, then no byte may be left. -/
def Parts.finish (depth : Nat) (p : Parts) : Reading ClassDecl := do
  let annotations ← p.tables.lastTypes depth none p.attributes
  let c ← get
  if c.remaining ≠ 0 then refuse (Cause.trailing c.remaining).text
  else
    let references ← p.tables.classNames
    handling defectReason (p.build annotations references)

/-- Reads the class that bytes with a label declare. -/
def readClass (depth : Nat) (source : String) (bytes : Bytes) : Except Interrupt ClassDecl :=
  ((readParts >>= Parts.finish depth) ⟨bytes, source, 0⟩).map Prod.fst

/-! ## The layout is followed -/

variable {source : String} {t : Tables} {constants : List Constant}

theorem follows_text (h : t.Describes constants) (hsource : t.source = source) (index : UInt16) :
    Follows source
      (fun a b => a = b ∧ (Pool.ofConstants constants).text index = .ok b)
      (liftM (t.text index.toNat)) (Parser.ofExcept ((Pool.ofConstants constants).text index)) :=
  follows_lift (hsource ▸ h.text_eq index)

theorem follows_className (h : t.Describes constants) (hsource : t.source = source)
    (index : UInt16) :
    Follows source
      (fun a b => a = b ∧ (Pool.ofConstants constants).className index = .ok b)
      (liftM (t.className index.toNat))
      (Parser.ofExcept ((Pool.ofConstants constants).className index)) :=
  follows_lift (hsource ▸ h.className_eq index)

/-- The name and the body of an attribute. -/
def NamesAttribute (pool : Pool) (entry : String × Bytes) (a : Attribute) : Prop :=
  pool.text a.nameIndex = .ok entry.1 ∧ entry.2 = a.body

/-- What is kept of a member. -/
structure NamesMember (pool : Pool) (e : MemberEntry) (m : Member) : Prop where
  flags : e.flags = m.flags
  name : pool.text m.nameIndex = .ok e.name
  descriptor : pool.text m.descriptorIndex = .ok e.descriptor

theorem follows_readAttribute (h : t.Describes constants) (hsource : t.source = source) :
    Follows source (NamesAttribute (.ofConstants constants)) t.readAttribute
      (Attribute.read (.ofConstants constants)) := by
  refine follows_u2.bind fun nameIndex nameIndex' hnameIndex => ?_
  subst hnameIndex
  refine (follows_text h hsource nameIndex).bind fun name name' hname => ?_
  obtain ⟨rfl, htext⟩ := hname
  refine follows_u4.bind fun size size' hsize => ?_
  subst hsize
  refine (follows_take size.toNat).bind fun body body' hbody => ?_
  obtain ⟨rfl, -⟩ := hbody
  exact follows_pure ⟨htext, rfl⟩

theorem follows_readMember (h : t.Describes constants) (hsource : t.source = source) :
    Follows source (NamesMember (.ofConstants constants)) t.readMember
      (Member.read (.ofConstants constants)) := by
  refine follows_u2.bind fun flags flags' hflags => ?_
  subst hflags
  refine follows_u2.bind fun nameIndex nameIndex' hnameIndex => ?_
  subst hnameIndex
  refine (follows_text h hsource nameIndex).bind fun name name' hname => ?_
  obtain ⟨rfl, hnameText⟩ := hname
  refine follows_u2.bind fun descriptorIndex descriptorIndex' hdescriptorIndex => ?_
  subst hdescriptorIndex
  refine (follows_text h hsource descriptorIndex).bind fun descriptor descriptor' hdescriptor => ?_
  obtain ⟨rfl, hdescriptorText⟩ := hdescriptor
  refine (follows_readAttribute h hsource).counted.bind fun _ _ _ => ?_
  exact follows_pure ⟨rfl, hnameText, hdescriptorText⟩

theorem follows_readClassName (h : t.Describes constants) (hsource : t.source = source) :
    Follows source (fun name index => (Pool.ofConstants constants).className index = .ok name)
      t.readClassName (readClassIndex (.ofConstants constants)) := by
  refine follows_u2.bind fun index index' hindex => ?_
  subst hindex
  rw [← bind_pure (liftM (t.className index.toNat) : Reading String)]
  refine (follows_className h hsource index).bind fun name name' hname => ?_
  obtain ⟨rfl, hclass⟩ := hname
  exact follows_pure hclass

/-- The superclass that an index stands for. -/
def superNameAt (pool : Pool) (index : UInt16) : Except Cause (Option String) :=
  if index = 0 then pure none else (pool.className index).map some

theorem follows_readClassName? (h : t.Describes constants) (hsource : t.source = source) :
    Follows source (fun name index => superNameAt (.ofConstants constants) index = .ok name)
      t.readClassName? (readClassIndex? (.ofConstants constants)) := by
  refine follows_u2.bind fun index index' hindex => ?_
  subst hindex
  by_cases hzero : index = 0
  · rw [if_pos hzero, if_pos hzero]
    refine follows_pure ?_
    rw [superNameAt, if_pos hzero]
    rfl
  · rw [if_neg hzero, if_neg hzero]
    refine (follows_className h hsource index).bind fun name name' hname => ?_
    obtain ⟨rfl, hclass⟩ := hname
    refine follows_pure ?_
    rw [superNameAt, if_neg hzero, hclass]
    rfl

/-- The parts are those of the layout, with every index looked up. -/
structure Parts.Of (source : String) (p : Parts) (f : ClassFile) : Prop where
  describes : p.tables.Describes f.constants
  label : p.tables.source = source
  minorVersion : p.minorVersion = f.minorVersion
  majorVersion : p.majorVersion = f.majorVersion
  flags : p.flags = f.flags
  name : f.pool.className f.thisIndex = .ok p.name
  superName : superNameAt f.pool f.superIndex = .ok p.superName
  interfaces :
    List.Forall₂ (fun name index => f.pool.className index = .ok name) p.interfaces
      f.interfaceIndexes
  fields : List.Forall₂ (NamesMember f.pool) p.fields f.fields
  methods : List.Forall₂ (NamesMember f.pool) p.methods f.methods
  attributes : List.Forall₂ (NamesAttribute f.pool) p.attributes f.attributes

/-- **The parts are read as the layout is**, and refused as it is. -/
theorem follows_readParts :
    Follows source (Parts.Of source) readParts ClassFile.read := by
  refine follows_u4.bind fun start start' hstart => ?_
  subst hstart
  by_cases hmagic : start ≠ magic
  · rw [if_pos hmagic, if_pos hmagic]
    exact follows_refuse .badMagic
  rw [if_neg hmagic, if_neg hmagic]
  refine follows_u2.bind fun minorVersion minorVersion' hminor => ?_
  refine follows_u2.bind fun majorVersion majorVersion' hmajor => ?_
  refine follows_readTables_bind fun count tables constants hdescribes hsource => ?_
  -- from here on every index is looked up in the tables, and in the pool of the layout
  refine follows_u2.bind fun flags flags' hflags => ?_
  refine (follows_readClassName hdescribes hsource).bind fun name thisIndex hname => ?_
  refine (follows_readClassName? hdescribes hsource).bind fun superName superIndex hsuper => ?_
  refine (follows_readClassName hdescribes hsource).counted.bind
    fun interfaces indexes hinterfaces => ?_
  refine (follows_readMember hdescribes hsource).counted.bind fun fields fields' hfields => ?_
  refine (follows_readMember hdescribes hsource).counted.bind fun methods methods' hmethods => ?_
  refine (follows_readAttribute hdescribes hsource).counted.bind fun attributes attributes'
    hattributes => ?_
  exact follows_pure ⟨hdescribes, hsource, hminor, hmajor, hflags, hname, hsuper, hinterfaces,
    hfields, hmethods, hattributes⟩

/-! ## Annotations are skipped as they are read -/

theorem follows_skipPair {q : Reading Unit} {p : Parser Cause ElementValue}
    (h : Follows source (fun _ _ => True) q p) :
    Follows source (fun _ _ => True)
      (do
        let _ ← u2
        q)
      (ElementValue.readPair p) := by
  refine follows_u2.bind fun _ _ _ => ?_
  rw [← bind_pure q]
  exact h.bind fun _ _ _ => follows_pure trivial

/-- **A value is skipped as it is read**, and both come to the end of the depth at the same
point. -/
theorem follows_skipWithin (depth : Nat) :
    Follows source (fun _ _ => True) (skipWithin depth) (ElementValue.readWithin depth) := by
  induction depth with
  | zero =>
      refine ⟨fun {c b rest} _ hp => ?_, fun {c stop} _ hp => ?_⟩
      · cases hp
      · cases hp
        rfl
  | succ depth ih =>
      rw [skipWithin, ElementValue.readWithin, ElementValue.level]
      refine follows_u1.bind fun tag tag' htag => ?_
      subst htag
      -- one case for each tag
      by_cases hconst : tag ∈ ElementValue.constTags
      · rw [if_pos (Or.inl hconst), if_pos hconst]
        exact follows_u2.bind fun _ _ _ => follows_pure trivial
      by_cases hclass : tag = ElementValue.classInfoTag
      · rw [if_pos (Or.inr hclass), if_neg hconst, if_pos hclass]
        exact follows_u2.bind fun _ _ _ => follows_pure trivial
      rw [if_neg (not_or.mpr ⟨hconst, hclass⟩), if_neg hconst, if_neg hclass]
      by_cases henum : tag = ElementValue.enumTag
      · rw [if_pos henum, if_pos henum]
        exact follows_u2.bind fun _ _ _ => follows_u2.bind fun _ _ _ => follows_pure trivial
      rw [if_neg henum, if_neg henum]
      by_cases hnested : tag = ElementValue.nestedTag
      · rw [if_pos hnested, if_pos hnested]
        refine follows_u2.bind fun _ _ _ => ?_
        exact (follows_skipPair ih).counted.bind fun _ _ _ => follows_pure trivial
      rw [if_neg hnested, if_neg hnested]
      by_cases harray : tag = ElementValue.arrayTag
      · rw [if_pos harray, if_pos harray]
        exact ih.counted.bind fun _ _ _ => follows_pure trivial
      · rw [if_neg harray, if_neg harray]
        exact follows_refuse _

theorem follows_readAnnotationType (h : t.Describes constants) (hsource : t.source = source)
    (depth : Nat) :
    Follows source (fun type e => (Pool.ofConstants constants).text e.typeIndex = .ok type)
      (t.readAnnotationType depth) (AnnotationEntry.read depth (.ofConstants constants)) := by
  refine follows_u2.bind fun typeIndex typeIndex' htypeIndex => ?_
  subst htypeIndex
  refine (follows_text h hsource typeIndex).bind fun type type' htype => ?_
  obtain ⟨rfl, htext⟩ := htype
  exact (follows_skipPair (follows_skipWithin depth)).counted.bind fun _ _ _ => follows_pure htext

/-- **The annotation types of a body are found**, or refused, as in the pool. -/
theorem typesIn_eq (h : t.Describes constants) (depth : Nat) (body : Bytes) :
    t.typesIn depth body =
      (annotationTypes depth (.ofConstants constants) body).mapError (Refusal.under t.source) := by
  have hfollows : Follows t.source _ (counted (t.readAnnotationType depth))
      (readAnnotations depth (.ofConstants constants)) :=
    (follows_readAnnotationType h rfl depth).counted
  obtain ⟨types, entries, c, rest, hstep, hrun, hremaining, -, htypes⟩ | ⟨r, hstep, hrun⟩ :=
    hfollows.from_start body
  · have hcollect :
        Pool.collect (fun e : AnnotationEntry => (Pool.ofConstants constants).text e.typeIndex)
          entries = .ok types :=
      (Pool.collect_eq_ok_iff fun _ _ => Iff.rfl).mpr htypes.flip
    simp only [typesIn, annotationTypes, hstep, hrun, bind, Except.bind, hcollect, hremaining]
    cases rest <;> rfl
  · rw [typesIn, hstep, annotationTypes, hrun]
    rfl

theorem lastTypes_eq (h : t.Describes constants) (depth : Nat) {entries : List (String × Bytes)}
    {attributes : List Attribute}
    (hentries : List.Forall₂ (NamesAttribute (.ofConstants constants)) entries attributes)
    (last : Option (List String)) :
    t.lastTypes depth last entries =
      (lastAnnotations depth (.ofConstants constants) last attributes).mapError
        (Refusal.under t.source) := by
  induction hentries generalizing last with
  | nil => rfl
  | @cons entry a entries attributes hentry _ ih =>
      obtain ⟨name, body⟩ := entry
      obtain ⟨hname, rfl⟩ : (Pool.ofConstants constants).text a.nameIndex = .ok name ∧
        body = a.body := hentry
      have hholds : a.isAnnotations (.ofConstants constants) = (name == annotationsName) := by
        rw [Attribute.isAnnotations, hname]
      rw [lastTypes, lastAnnotations, hholds]
      by_cases hvisible : name = annotationsName
      · rw [if_pos hvisible, if_pos (beq_iff_eq.mpr hvisible), typesIn_eq h]
        cases annotationTypes depth (.ofConstants constants) a.body with
        | error r => rfl
        | ok types => exact ih (some types)
      · rw [if_neg hvisible, if_neg (by simpa using hvisible)]
        exact ih last

/-! ## Records are checked as the declaration is -/

theorem mapM_checked {α β : Type} (defect? : β → Option ClassDecl.Defect) (make : α → β)
    (l : List α) :
    l.mapM (fun a => checked defect? (make a)) =
      ((l.map make).findSome? defect?).elim (.ok (l.map make)) fun d => .error (.badRecord d) := by
  induction l with
  | nil => rfl
  | cons a l ih =>
      rw [List.mapM_cons, ih, List.map_cons, List.findSome?_cons, checked]
      cases defect? (make a) with
      | some d => rfl
      | none => cases (l.map make).findSome? defect? <;> rfl

theorem check_eq (d : ClassDecl) : d.check = d.defect?.elim (.ok d) .error := by
  unfold ClassDecl.check
  cases d.defect? <;> rfl

/-- **The records are built without a defect if the declaration as a whole has none**, and otherwise
the first defect is the same. -/
theorem Parts.build_eq (p : Parts) (annotations : Option (List String)) (references : List String) :
    p.build annotations references =
      (p.decl annotations references (p.fields.map MemberEntry.field)
        (p.methods.map MemberEntry.method)).check.mapError .badRecord := by
  rw [Parts.build, mapM_checked, mapM_checked, check_eq, ClassDecl.defect?]
  -- fields come first, then methods, then the class as a whole
  cases hfields : (p.fields.map MemberEntry.field).findSome? ClassDecl.fieldDefect? with
  | some d =>
      simp only [decl, hfields]
      rfl
  | none =>
      cases hmethods : (p.methods.map MemberEntry.method).findSome? ClassDecl.methodDefect? with
      | some d =>
          simp only [decl, hfields, hmethods]
          rfl
      | none =>
          have hclass : ∀ d : ClassDecl, checked ClassDecl.classDefect? d =
              (d.classDefect?.elim (Except.ok d) Except.error).mapError .badRecord := by
            intro d
            rw [checked]
            cases d.classDefect? <;> rfl
          simp only [decl, hfields, hmethods]
          exact hclass _

/-- The declaration of a layout, from its parts. -/
theorem Parts.Of.declaration_eq {p : Parts} {f : ClassFile} (h : p.Of source f)
    (annotations : Option (List String)) :
    f.declaration annotations =
      (f.pool.classNames f.constants).bind fun references =>
        (p.decl annotations references (p.fields.map MemberEntry.field)
          (p.methods.map MemberEntry.method)).check.mapError .badDeclaration := by
  have hinterfaces : Pool.collect f.pool.className f.interfaceIndexes = .ok p.interfaces :=
    (Pool.collect_eq_ok_iff fun _ _ => Iff.rfl).mpr h.interfaces.flip
  have hsuper : (if f.superIndex = 0 then pure none else (f.pool.className f.superIndex).map some) =
      Except.ok p.superName := h.superName
  have hfields : Pool.collect (Member.field f.pool) f.fields =
      .ok (p.fields.map MemberEntry.field) := by
    refine (Pool.collect_eq_ok_iff fun _ _ => Iff.rfl).mpr ?_
    refine List.forall₂_map_right_iff.mpr (h.fields.flip.imp fun m e he => ?_)
    rw [Member.field, he.name, he.descriptor, MemberEntry.field, he.flags]
    rfl
  have hmethods : Pool.collect (Member.method f.pool) f.methods =
      .ok (p.methods.map MemberEntry.method) := by
    refine (Pool.collect_eq_ok_iff fun _ _ => Iff.rfl).mpr ?_
    refine List.forall₂_map_right_iff.mpr (h.methods.flip.imp fun m e he => ?_)
    rw [Member.method, he.name, he.descriptor, MemberEntry.method, he.flags]
    rfl
  simp only [declaration, ite_bind]
  rw [h.name, hsuper, hinterfaces, hfields, hmethods]
  simp only [decl, h.flags, h.majorVersion, h.minorVersion]
  rfl

/-! ## The reader is closed -/

/-- What comes after the layout is the same. -/
theorem Parts.Of.finish_eq {p : Parts} {f : ClassFile} (h : p.Of source f) (depth : Nat)
    {c : Cursor} {bytes rest : Bytes} (hrun : runFrom ClassFile.read bytes = .ok (f, rest))
    (hsource : c.source = source) (hremaining : c.remaining = rest.length) :
    (p.finish depth c).map Prod.fst = (readDecl depth bytes).mapError (Refusal.under source) := by
  have hannotations : p.tables.lastTypes depth none p.attributes =
      (lastAnnotations depth f.pool none f.attributes).mapError (Refusal.under source) :=
    h.label ▸ lastTypes_eq h.describes depth h.attributes none
  have hreferences : p.tables.classNames =
      (f.pool.classNames f.constants).mapError (refusal source) :=
    h.label ▸ h.describes.classNames_eq
  simp only [readDecl, hrun, bind, Except.bind]
  rw [Parts.finish, hannotations]
  cases lastAnnotations depth f.pool none f.attributes with
  | error r => rfl
  | ok annotations =>
      -- what is left over is refused before the references are looked up, by both readers
      show ((if c.remaining ≠ 0 then refuse _ else _ : Reading ClassDecl) c).map Prod.fst =
        Except.mapError _ (if rest.isEmpty = true then _ else _)
      cases rest with
      | cons byte rest =>
          have hleft : c.remaining ≠ 0 := by
            rw [hremaining, List.length_cons]
            omega
          rw [if_pos hleft, refuse, hsource, hremaining]
          rfl
      | nil =>
          have hnone : ¬ c.remaining ≠ 0 := not_not.mpr hremaining
          rw [if_neg hnone, hreferences, h.declaration_eq]
          cases f.pool.classNames f.constants with
          | error cause => rfl
          | ok references =>
              show (handling defectReason (p.build annotations references) c).map Prod.fst = _
              rw [p.build_eq, ← hsource]
              show _ = Except.mapError _ (Except.mapError _ (Except.mapError _ (ClassDecl.check _)))
              cases ClassDecl.check _ <;> rfl

/-- **Reading with explicit failures is reading**: the same class, or the same refusal. -/
theorem readClass_eq (depth : Nat) (source : String) (bytes : Bytes) :
    readClass depth source bytes = (readDecl depth bytes).mapError (Refusal.under source) := by
  have hfollows : Follows source (Parts.Of source) readParts ClassFile.read := follows_readParts
  obtain ⟨p, f, c, rest, hstep, hrun, hremaining, hsource, hparts⟩ | ⟨r, hstep, hrun⟩ :=
    hfollows.from_start bytes
  · rw [readClass, bind_of_ok hstep]
    exact hparts.finish_eq depth hrun hsource hremaining
  · rw [readClass, bind_of_error hstep, readDecl, hrun]
    rfl

end Tables

/-- **Whatever bytes are read, under whatever label and to whatever depth, the outcome is a class
without defects, a refusal under that label, or the end of the depth**, and the last only inside the
annotations of a layout, where more values are opened inside one another than the depth allows. The
reader whose look-ups, chunks, decoders and records can fail by themselves has the same outcome, so
none of them does. -/
theorem ofBytes_closed (depth : Nat) (source : String) (bytes : Bytes) :
    (∃ d, Tables.readClass depth source bytes = .ok d ∧
      ClassDecl.ofBytes depth source bytes = .ok d ∧
      d.name ≠ "" ∧ (d.methods.map MethodDecl.key).Nodup ∧
      (∀ f ∈ d.fields, f.name ≠ "" ∧ f.descriptor ≠ "") ∧
      ∀ m ∈ d.methods, m.name ≠ "" ∧ m.descriptor.toList.head? = some '(') ∨
    (∃ reason, Tables.readClass depth source bytes = .error (.refused source reason) ∧
      ClassDecl.ofBytes depth source bytes = .error (.failure (.badClassFile source reason))) ∨
    (NestsDeeper depth bytes ∧ Tables.readClass depth source bytes = .error .tooDeep ∧
      ClassDecl.ofBytes depth source bytes = .error (.misuse .nestedTooDeep)) := by
  rw [Tables.readClass_eq, ClassDecl.ofBytes]
  cases hread : readDecl depth bytes with
  | ok d =>
      obtain ⟨f, -, -, -, -, hsound⟩ := exists_readable_of_readDecl hread
      exact Or.inl ⟨d, rfl, rfl, hsound.name, hsound.keys, hsound.fields, hsound.methods⟩
  | error r =>
      cases r with
      | truncated need offset left => exact Or.inr (Or.inl ⟨_, rfl, rfl⟩)
      | refused cause => exact Or.inr (Or.inl ⟨_, rfl, rfl⟩)
      | tooDeep => exact Or.inr (Or.inr ⟨nestsDeeper_of_readDecl hread, rfl, rfl⟩)

end JvmDeps.ClassFile
