import JvmDeps.Proofs.ClassFile.Acceptance
import JvmDeps.Proofs.Data.OrderedMap
import JvmDeps.Repository.Basic

set_option autoImplicit false

/-! # What a repository finds

A load gives a class of the name it is for, without defect (`Repository.name_of_load`,
`Repository.sound_of_declared`). Which class it gives, or with which fault it fails, is a matter of
the content and the files alone (`Repository.declared`): archives that were opened meanwhile show
what they would have shown before (`SearchPath.SameArchives`), and the two spellings of a name lead
to the same class (`Repository.declared_of_spelling`).
-/

namespace JvmDeps

/-! ## Archives that are opened on the way -/

namespace SearchPath

variable {fs : FileSystem} {a b c : OpenArchives} {entry : Path} {content : FileContent}
  {member : String}

/-- What reading the file at a path gives, if there is a file. -/
def content? (fs : FileSystem) (entry : Path) : Option FileContent :=
  match fs entry with
  | some (.file bytes) => some (.ok bytes)
  | some (.unreadable reason) => some (.error reason)
  | some .directory | some .overlong | none => none

theorem content?_of_file {bytes : Bytes} (h : fs entry = some (.file bytes)) :
    content? fs entry = some (.ok bytes) := by
  rw [content?, h]

theorem content?_of_unreadable {reason : String} (h : fs entry = some (.unreadable reason)) :
    content? fs entry = some (.error reason) := by
  rw [content?, h]

/-- The same archives stand in the places, whether they are taken from `a` or from `b`. -/
def SameArchives (fs : FileSystem) (a b : OpenArchives) : Prop :=
  ∀ entry content, content? fs entry = some content →
    (openArchive a entry content).1 = (openArchive b entry content).1

theorem SameArchives.refl (fs : FileSystem) (a : OpenArchives) : SameArchives fs a a :=
  fun _ _ _ => rfl

theorem SameArchives.symm (h : SameArchives fs a b) : SameArchives fs b a :=
  fun entry content hfile => (h entry content hfile).symm

theorem SameArchives.trans (hab : SameArchives fs a b) (hbc : SameArchives fs b c) :
    SameArchives fs a c :=
  fun entry content hfile => (hab entry content hfile).trans (hbc entry content hfile)

theorem openArchive_of_get? {archive : Archive} (h : a.get? entry = some archive) :
    openArchive a entry content = (.ok archive, a) := by
  simp only [openArchive, h]

/-- A file that cannot be read is no archive, unless it was opened before. -/
theorem openArchive_error (h : a.get? entry = none) (reason : String) :
    openArchive a entry (.error reason) = (.error (invalidArchive entry reason), a) := by
  simp only [openArchive, h]

theorem openArchive_congr (h : a.get? entry = b.get? entry) :
    (openArchive a entry content).1 = (openArchive b entry content).1 := by
  unfold openArchive
  rw [h]
  split
  · rfl
  · split
    · rfl
    · split <;> rfl

/-- An archive that is kept open is the one that would have been opened later. -/
theorem sameArchives_insert {bytes : Bytes} {archive : Archive}
    (hfile : content? fs entry = some (.ok bytes)) (hget : a.get? entry = none)
    (hread : Archive.ofBytes bytes = .ok archive) : SameArchives fs a (a.insert entry archive) := by
  intro other content hother
  by_cases hentry : other = entry
  · subst hentry
    rw [hfile] at hother
    cases hother
    have hinserted : (a.insert other archive).get? other = some archive :=
      (OrderedMap.get?_insert _ _ _ _).trans (if_pos rfl)
    rw [openArchive_of_get? hinserted]
    simp only [openArchive, hget, hread]
  · exact openArchive_congr ((OrderedMap.get?_insert _ _ _ _).trans (if_neg hentry)).symm

theorem sameArchives_openArchive (hfile : content? fs entry = some content) :
    SameArchives fs a (openArchive a entry content).2 := by
  cases hget : a.get? entry with
  | some archive =>
      rw [openArchive_of_get? hget]
      exact .refl fs a
  | none =>
      cases content with
      | error reason =>
          rw [openArchive_error hget]
          exact .refl fs a
      | ok bytes =>
          cases hread : Archive.ofBytes bytes with
          | error f =>
              have hsame : (openArchive a entry (.ok bytes)).2 = a := by
                simp only [openArchive, hget, hread]
              rw [hsame]
              exact .refl fs a
          | ok archive =>
              have hafter : (openArchive a entry (.ok bytes)).2 = a.insert entry archive := by
                simp only [openArchive, hget, hread]
              rw [hafter]
              exact sameArchives_insert hfile hget hread

/-- A file gives the member of the archive that it is. -/
theorem readFile_of_archive (harchive : entry.namesArchive = true) :
    readFile member a entry content =
      ((openArchive a entry content).1 >>= fun archive => readMember entry archive member,
        (openArchive a entry content).2) := by
  unfold readFile
  rw [if_pos harchive]
  split
  · rename_i heq
    rw [heq]
    rfl
  · rename_i heq
    rw [heq]
    rfl

theorem readEntry_of_file (hfile : content? fs entry = some content) :
    readEntry fs member a entry = readFile member a entry content := by
  unfold content? at hfile
  unfold readEntry
  split at hfile
  · rename_i hnode
    cases hfile
    rw [hnode]
  · rename_i hnode
    cases hfile
    rw [hnode]
  · cases hfile
  · cases hfile
  · cases hfile

theorem readEntry_of_archive (hfile : content? fs entry = some content)
    (harchive : entry.namesArchive = true) :
    readEntry fs member a entry =
      ((openArchive a entry content).1 >>= fun archive => readMember entry archive member,
        (openArchive a entry content).2) :=
  (readEntry_of_file hfile).trans (readFile_of_archive harchive)

/-- A place that is no archive does not need the archives. -/
theorem readEntry_of_no_archive
    (h : ¬∃ content, content? fs entry = some content ∧ entry.namesArchive = true) :
    ∃ found, ∀ archives, readEntry fs member archives entry = (found, archives) := by
  cases hfile : content? fs entry with
  | some content =>
      refine ⟨.ok none, fun archives => ?_⟩
      rw [readEntry_of_file hfile, readFile, if_neg fun hnames => h ⟨content, hfile, hnames⟩]
  | none =>
      unfold content? at hfile
      unfold readEntry
      split at hfile
      · cases hfile
      · cases hfile
      · rename_i hnode
        rw [hnode]
        exact ⟨_, fun _ => rfl⟩
      · rename_i hnode
        rw [hnode]
        exact ⟨_, fun _ => rfl⟩
      · rename_i hnode
        rw [hnode]
        exact ⟨_, fun _ => rfl⟩

/-- A place gives the same, whichever archives were opened. -/
theorem readEntry_congr (h : SameArchives fs a b) (member : String) (entry : Path) :
    (readEntry fs member a entry).1 = (readEntry fs member b entry).1 ∧
      SameArchives fs a (readEntry fs member a entry).2 := by
  by_cases harchive : ∃ content, content? fs entry = some content ∧ entry.namesArchive = true
  · obtain ⟨content, hfile, hnames⟩ := harchive
    rw [readEntry_of_archive hfile hnames, readEntry_of_archive hfile hnames, h entry content hfile]
    exact ⟨rfl, sameArchives_openArchive hfile⟩
  · obtain ⟨found, hfound⟩ := @readEntry_of_no_archive fs entry member harchive
    rw [hfound, hfound]
    exact ⟨rfl, .refl fs a⟩

theorem readFirst_of_none (entries : List Path)
    (h : (readEntry fs member a entry).1 = .ok none) :
    readFirst fs member a (entry :: entries) =
      readFirst fs member (readEntry fs member a entry).2 entries := by
  rw [readFirst]
  split
  · rename_i heq
    rw [heq]
  · rename_i hne
    exact (hne _ (Prod.ext h rfl)).elim

theorem readFirst_of_found (entries : List Path)
    (h : (readEntry fs member a entry).1 ≠ .ok none) :
    readFirst fs member a (entry :: entries) = readEntry fs member a entry := by
  rw [readFirst]
  split
  · rename_i heq
    exact absurd (congrArg Prod.fst heq) h
  · rfl

/-- A search gives the same, whichever archives were opened. -/
theorem readFirst_congr (h : SameArchives fs a b) (member : String) (entries : List Path) :
    (readFirst fs member a entries).1 = (readFirst fs member b entries).1 ∧
      SameArchives fs a (readFirst fs member a entries).2 := by
  induction entries generalizing a b with
  | nil => exact ⟨rfl, .refl fs a⟩
  | cons entry entries ih =>
      obtain ⟨hfound, hopened⟩ := readEntry_congr h member entry
      obtain ⟨-, hopened'⟩ := readEntry_congr h.symm member entry
      by_cases hnone : (readEntry fs member a entry).1 = .ok none
      · rw [readFirst_of_none entries hnone, readFirst_of_none entries (hfound ▸ hnone)]
        obtain ⟨hrest, hmore⟩ := ih ((hopened.symm.trans h).trans hopened')
        exact ⟨hrest, hopened.trans hmore⟩
      · rw [readFirst_of_found entries hnone, readFirst_of_found entries (hfound ▸ hnone)]
        exact ⟨hfound, hopened⟩

/-- A search that fails has failed in one of the places. -/
theorem exists_of_readFirst_eq_error {fault : Fault} {entries : List Path}
    (h : (readFirst fs member a entries).1 = .error fault) :
    ∃ entry ∈ entries, (readEntry fs member a entry).1 = .error fault := by
  induction entries generalizing a with
  | nil => cases h
  | cons entry entries ih =>
      by_cases hnone : (readEntry fs member a entry).1 = .ok none
      · rw [readFirst_of_none entries hnone] at h
        obtain ⟨other, hmem, herror⟩ := ih h
        -- what was opened on the way makes no difference to the other place
        have hopened := (readEntry_congr (.refl fs a) member entry).2
        exact ⟨other, List.mem_cons_of_mem _ hmem,
          (readEntry_congr hopened member other).1.trans herror⟩
      · rw [readFirst_of_found entries hnone] at h
        exact ⟨entry, List.mem_cons_self, h⟩

end SearchPath

/-- Every class that is held as an object is without defect. -/
def Content.Sound : Content → Prop
  | .memory classes => ∀ name o, classes.get? name = some (.object o) → o.decl.Sound
  | .places _ => True

theorem Name.toInternal_eq_empty_iff {name : String} : toInternal name = "" ↔ name = "" := by
  rw [← String.toList_inj, ← String.toList_inj, toInternal, String.toList_map]
  exact List.map_eq_nil_iff

namespace Repository

/-! ## Classes that were read -/

theorem eq_of_checkName {source internal : String} {c d : ClassDecl}
    (h : checkName source internal c = .ok d) : d = c ∧ c.name = internal := by
  unfold checkName at h
  split at h
  · rename_i hname
    cases h
    exact ⟨rfl, hname⟩
  · cases h

theorem checkName_eq_error {source internal : String} {c : ClassDecl} {fault : Fault}
    (h : checkName source internal c = .error fault) : ∃ e, fault = .failure e := by
  unfold checkName at h
  split at h
  · cases h
  · cases h
    exact ⟨_, rfl⟩

/-- A class that was read has no defect and is the one that was asked for. -/
theorem sound_of_readChecked {depth : Nat} {source internal : String} {bytes : Bytes}
    {c : ClassDecl} (h : readChecked depth source internal bytes = .ok c) :
    c.Sound ∧ c.name = internal := by
  obtain ⟨d, hread, hcheck⟩ := bind_eq_ok_iff.mp h
  obtain ⟨rfl, hname⟩ := eq_of_checkName hcheck
  obtain ⟨_, -, -, -, -, hsound⟩ :=
    ClassFile.exists_readable_of_readDecl (mapError_eq_ok_iff.mp hread)
  exact ⟨hsound, hname⟩

/-- Bytes from which no class is read are no class file, declare another class, or have values that
are nested too deep. -/
theorem readChecked_eq_error {depth : Nat} {source internal : String} {bytes : Bytes}
    {fault : Fault} (h : readChecked depth source internal bytes = .error fault) :
    (∃ e, fault = .failure e) ∨
      fault = .misuse .nestedTooDeep ∧ ClassFile.readDecl depth bytes = .error .tooDeep := by
  unfold readChecked at h
  cases hread : ClassFile.readDecl depth bytes with
  | error refusal =>
      rw [ClassDecl.ofBytes, hread] at h
      cases h
      cases refusal with
      | tooDeep => exact .inr ⟨rfl, rfl⟩
      | truncated need offset left => exact .inl ⟨_, rfl⟩
      | refused cause => exact .inl ⟨_, rfl⟩
  | ok c =>
      rw [ClassDecl.ofBytes, hread] at h
      exact .inl (checkName_eq_error h)

theorem readChecked_of_tooDeep {depth : Nat} {bytes : Bytes}
    (h : ClassFile.readDecl depth bytes = .error .tooDeep) (source internal : String) :
    readChecked depth source internal bytes = .error (.misuse .nestedTooDeep) := by
  rw [readChecked, ClassDecl.ofBytes, h]
  rfl

/-! ## What a load gives -/

variable {r s : Repository} {fs : FileSystem} {host : Host} {depth : Nat} {name : String}

/-- What stands under an internal name, with where it comes from, before it is looked into. -/
def stored? (r : Repository) (fs : FileSystem) (internal : String) :
    Except Fault (Option (Stored × String)) :=
  match r.content with
  | .memory classes =>
    .ok ((classes.get? internal).map (·, memoryPlace ++ "/" ++ internal ++ ".class"))
  | .places path =>
    (SearchPath.readFirst fs (internal ++ ".class") r.archives path.entries).1.map
      (Option.map fun found => (.bytes found.1, found.2))

/-- The class that a load for a name gives, or the fault with which it fails. -/
def declared (r : Repository) (host : Host) (name : String) : Except Fault ClassDecl :=
  (r.load host name).1.map Loaded.decl

theorem declared_of_load {o : Loaded} (h : (r.load host name).1 = .ok o) :
    r.declared host name = .ok o.decl :=
  map_eq_ok_iff.mpr ⟨o, h, rfl⟩

/-- A load finds what is stored and checks its name. -/
theorem declared_eq (r : Repository) (host : Host) (name : String) :
    r.declared host name =
      match r.stored? host.files (Name.toInternal name) with
      | .error fault => .error fault
      | .ok none => .error (.failure (.classNotFound name r.scope))
      | .ok (some (.object o, source)) => checkName source (Name.toInternal name) o.decl
      | .ok (some (.bytes b, source)) =>
        readChecked host.depth source (Name.toInternal name) b := by
  -- the identity that bytes get when they are loaded is no part of what they declare
  have hread : ∀ source b, ((readChecked host.depth source (Name.toInternal name) b).map
      (Loaded.mk r.nextId)).map Loaded.decl =
        readChecked host.depth source (Name.toInternal name) b := by
    intro source b
    cases readChecked host.depth source (Name.toInternal name) b <;> rfl
  unfold declared load stored?
  cases r.content with
  | memory classes =>
      simp only
      cases hget : classes.get? (Name.toInternal name) with
      | none => rfl
      | some stored =>
          cases stored with
          | bytes b => exact hread _ b
          | object o =>
              show ((checkName _ _ o.decl).map _).map _ = checkName _ _ o.decl
              cases hcheck : checkName (memoryPlace ++ "/" ++ Name.toInternal name ++ ".class")
                  (Name.toInternal name) o.decl with
              | error fault => rfl
              | ok d =>
                  rw [(eq_of_checkName hcheck).1]
                  rfl
  | places path =>
      simp only
      rcases SearchPath.readFirst host.files (Name.toInternal name ++ ".class") r.archives
        path.entries with ⟨fault | _ | ⟨bytes, source⟩, archives⟩
      · rfl
      · rfl
      · exact hread source bytes

/-- Archives that were opened meanwhile make no difference to what is found. -/
theorem declared_congr (hcontent : s.content = r.content)
    (h : SearchPath.SameArchives host.files r.archives s.archives) (name : String) :
    s.declared host name = r.declared host name := by
  have hstored : s.stored? host.files (Name.toInternal name) =
      r.stored? host.files (Name.toInternal name) := by
    unfold stored?
    rw [hcontent]
    cases r.content with
    | memory classes => rfl
    | places path => simp only [(SearchPath.readFirst_congr h _ _).1]
  have hscope : s.scope = r.scope := by
    unfold scope
    rw [hcontent]
  rw [declared_eq, declared_eq, hstored, hscope]

theorem sameArchives_load (r : Repository) (host : Host) (name : String) :
    SearchPath.SameArchives host.files r.archives (r.load host name).2 := by
  unfold load
  cases r.content with
  | memory classes => exact .refl host.files _
  | places path =>
      simp only
      have hopened := (SearchPath.readFirst_congr (.refl host.files r.archives)
        (Name.toInternal name ++ ".class") path.entries).2
      split
      all_goals
        rename_i heq
        rw [heq] at hopened
        exact hopened

/-- Both spellings of a name lead to the same class. -/
theorem declared_of_spelling {other : String} {c : ClassDecl}
    (hname : Name.toInternal other = Name.toInternal name) (h : r.declared host name = .ok c) :
    r.declared host other = .ok c := by
  rw [declared_eq] at h ⊢
  rw [hname]
  split at h
  · cases h
  · cases h
  · exact h
  · exact h

theorem sound_of_stored? {internal source : String} {o : Loaded} (hcontent : r.content.Sound)
    (h : r.stored? host.files internal = .ok (some (.object o, source))) : o.decl.Sound := by
  unfold stored? at h
  cases hr : r.content with
  | memory classes =>
      rw [hr] at h hcontent
      obtain ⟨stored, hget, heq⟩ := Option.map_eq_some_iff.mp (Except.ok.inj h)
      rw [(Prod.mk.inj heq).1] at hget
      exact hcontent internal o hget
  | places path =>
      -- in places there are no objects
      rw [hr] at h
      obtain ⟨found, -, hfound⟩ := map_eq_ok_iff.mp h
      obtain ⟨_, -, heq⟩ := Option.map_eq_some_iff.mp hfound
      cases heq

/-- **A class that is found has the name that was asked for, and no defect.** -/
theorem sound_of_declared {c : ClassDecl} (h : r.declared host name = .ok c) :
    c.name = Name.toInternal name ∧ (r.content.Sound → c.Sound) := by
  rw [declared_eq] at h
  split at h
  · cases h
  · cases h
  · rename_i o source hstored
    obtain ⟨rfl, hname⟩ := eq_of_checkName h
    exact ⟨hname, fun hcontent => sound_of_stored? hcontent hstored⟩
  · obtain ⟨hsound, hname⟩ := sound_of_readChecked h
    exact ⟨hname, fun _ => hsound⟩

/-- **A load that succeeds gives a class of the name it is for.** -/
theorem name_of_load {o : Loaded} (h : (r.load host name).1 = .ok o) :
    o.decl.name = Name.toInternal name :=
  (sound_of_declared (declared_of_load h)).1

/-! ## How a load fails -/

/-- Whatever goes wrong in the places while the class of a name is looked for, is a failure of the
analysis. -/
def Handles (r : Repository) (fs : FileSystem) (name : String) : Prop :=
  match r.content with
  | .memory _ => True
  | .places path => ∀ entry ∈ path.entries, ∀ fault,
      (SearchPath.readEntry fs (Name.toInternal name ++ ".class") r.archives entry).1
        = .error fault → ∃ e, fault = .failure e

theorem stored?_eq_error (hhandles : r.Handles fs name) {fault : Fault}
    (h : r.stored? fs (Name.toInternal name) = .error fault) : ∃ e, fault = .failure e := by
  unfold stored? at h
  unfold Handles at hhandles
  cases hr : r.content with
  | memory classes =>
      rw [hr] at h
      cases h
  | places path =>
      rw [hr] at h hhandles
      cases hfirst : (SearchPath.readFirst fs (Name.toInternal name ++ ".class") r.archives
          path.entries).1 with
      | error fault' =>
          simp only [hfirst] at h
          cases h
          obtain ⟨entry, hmem, herror⟩ := SearchPath.exists_of_readFirst_eq_error hfirst
          exact hhandles entry hmem fault herror
      | ok found =>
          simp only [hfirst] at h
          cases h

/-- What is stored under an internal name are bytes with values that are nested too deep. -/
def StoresTooDeep (r : Repository) (host : Host) (internal : String) : Prop :=
  ∃ bytes source, r.stored? host.files internal = .ok (some (.bytes bytes, source)) ∧
    ClassFile.readDecl host.depth bytes = .error .tooDeep

/-- A load that fails has found no such class, or none that is in order, or has come to values that
are nested too deep. -/
theorem declared_eq_error (hhandles : r.Handles host.files name) {fault : Fault}
    (h : r.declared host name = .error fault) :
    (∃ e, fault = .failure e) ∨
      fault = .misuse .nestedTooDeep ∧ r.StoresTooDeep host (Name.toInternal name) := by
  rw [declared_eq] at h
  split at h
  · rename_i hstored
    cases h
    exact .inl (stored?_eq_error hhandles hstored)
  · cases h
    exact .inl ⟨_, rfl⟩
  · exact .inl (checkName_eq_error h)
  · rename_i bytes source hstored
    rcases readChecked_eq_error h with hfailure | ⟨hdeep, hread⟩
    · exact .inl hfailure
    · exact .inr ⟨hdeep, bytes, source, hstored, hread⟩

theorem StoresTooDeep.declared_eq (h : r.StoresTooDeep host (Name.toInternal name)) :
    r.declared host name = .error (.misuse .nestedTooDeep) := by
  obtain ⟨bytes, source, hstored, hread⟩ := h
  rw [Repository.declared_eq, hstored]
  exact readChecked_of_tooDeep hread source (Name.toInternal name)

end Repository

end JvmDeps
