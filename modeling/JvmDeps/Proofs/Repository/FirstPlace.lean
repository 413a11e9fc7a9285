import JvmDeps.Proofs.Repository.Confinement
import JvmDeps.Proofs.Repository.History

set_option autoImplicit false

/-! # The first place decides

The places of a search path are asked for a class one after the other. A place lacks the class
(`SearchPath.Lacks`), and the search goes on; or it is a hit (`SearchPath.Hit`), and the search
ends there, also if what is found is damaged, or is a class file or an archive that cannot be read
(`Repository.found_of_unreadable`). Each place is one of the two and not both
(`SearchPath.hit_iff`).

So what a name leads to is what its first hit gives, and neither the places before it nor those
after it make a difference (`resolve_first_hit`). Archives that are opened on the way are opened
once for all, so it must be shown that none of them changes what is read later
(`SearchPath.SameArchives`).
-/

namespace JvmDeps

/-- An archive does not have a name exactly if it has no member of that name. -/
theorem Archive.read?_eq_ok_none_iff {a : Archive} {name : String} :
    a.read? name = .ok none ↔ ∀ m ∈ a.members, m.name ≠ name := by
  rw [read?]
  cases hfind : a.members.zipIdx.reverse.find? (·.1.name == name) with
  | none =>
      refine iff_of_true rfl fun m hm hname => ?_
      obtain ⟨i, hi⟩ := List.mem_iff_getElem?.mp hm
      have hmem : (m, i) ∈ a.members.zipIdx.reverse :=
        List.mem_reverse.mpr (List.mk_mem_zipIdx_iff_getElem?.mpr hi)
      exact List.find?_eq_none.mp hfind _ hmem (beq_iff_eq.mpr hname)
  | some found =>
      obtain ⟨m, index⟩ := found
      refine iff_of_false ?_ fun hnone => ?_
      · rw [map_eq_ok_iff]
        rintro ⟨_, -, ⟨⟩⟩
      · have hmem := List.mem_reverse.mp (List.mem_of_find?_eq_some hfind)
        have hm : m ∈ a.members :=
          List.mem_of_getElem? (List.mk_mem_zipIdx_iff_getElem?.mp hmem)
        have hname := List.find?_some hfind
        exact hnone m hm (beq_iff_eq.mp hname)

namespace SearchPath

variable {fs fs' : FileSystem} {a b : OpenArchives} {name : String} {entry e : Path}
  {entries : List Path}

/-! ## Places that lack a class -/

/-- The place does not have the class. -/
inductive Lacks (fs : FileSystem) (a : OpenArchives) (name : String) (entry : Path) : Prop
  | nothing (hentry : fs entry = none)
  /-- A file that is no archive, which need not be readable. -/
  | otherFile {content : FileContent} (hfile : content? fs entry = some content)
      (hnames : entry.namesArchive = false)
  /-- A directory without the file of the class. -/
  | noFile (hdirectory : fs entry = some .directory)
      (hfile : fs (entry.join (.ofClass name)) = none ∨
        fs (entry.join (.ofClass name)) = some .directory)
  /-- An archive without the member of the class. -/
  | noMember {content : FileContent} {archive : Archive} (hfile : content? fs entry = some content)
      (hnames : entry.namesArchive = true) (hopen : (openArchive a entry content).1 = .ok archive)
      (hmember : ∀ m ∈ archive.members, m.name ≠ Name.toInternal name ++ ".class")

/-- The place has the class, or something that keeps it from being read. -/
inductive Hit (fs : FileSystem) (a : OpenArchives) (name : String) (entry : Path) : Prop
  /-- A directory with the file of the class. -/
  | file {bytes : Bytes} (hdirectory : fs entry = some .directory)
      (hfile : fs (entry.join (.ofClass name)) = some (.file bytes))
  /-- A directory with the file of the class, which cannot be read. -/
  | unreadableFile {reason : String} (hdirectory : fs entry = some .directory)
      (hfile : fs (entry.join (.ofClass name)) = some (.unreadable reason))
  /-- An archive with a member of the class, which is whole or damaged. -/
  | member {content : FileContent} {archive : Archive} {m : Archive.Member}
      (hfile : content? fs entry = some content) (hnames : entry.namesArchive = true)
      (hopen : (openArchive a entry content).1 = .ok archive) (hmem : m ∈ archive.members)
      (hname : m.name = Name.toInternal name ++ ".class")
  /-- A file that should be an archive and is not. -/
  | noArchive {bytes : Bytes} {fault : Fault} (hfile : fs entry = some (.file bytes))
      (hnames : entry.namesArchive = true)
      (hopen : (openArchive a entry (.ok bytes)).1 = .error fault)
  /-- A file that should be an archive, cannot be read, and was not opened before. -/
  | unreadableArchive {reason : String} (hfile : fs entry = some (.unreadable reason))
      (hnames : entry.namesArchive = true) (hclosed : a.get? entry = none)
  /-- The path of the place cannot be followed. -/
  | unreachable (hentry : fs entry = some .overlong)
  /-- The path of the file cannot be followed. -/
  | unreachableFile (hdirectory : fs entry = some .directory)
      (hfile : fs (entry.join (.ofClass name)) = some .overlong)

theorem readDirectory_eq (fs : FileSystem) (entry : Path) (name : String) :
    readDirectory fs entry (Name.toInternal name ++ ".class") =
      match fs (entry.join (.ofClass name)) with
      | some (.file bytes) => .ok (some (bytes, (entry.join (.ofClass name)).text))
      | some (.unreadable reason) =>
        .error (.failure (.badClassFile (entry.join (.ofClass name)).text
          ("cannot read class file: " ++ reason)))
      | some .overlong => .error (.misuse (.nameTooLong (entry.join (.ofClass name)).text))
      | some .directory | none => .ok none :=
  rfl

theorem readMember_eq_ok_none_iff {archive : Archive} {member : String} :
    readMember entry archive member = .ok none ↔ ∀ m ∈ archive.members, m.name ≠ member := by
  rw [← Archive.read?_eq_ok_none_iff, readMember]
  cases archive.read? member with
  | error f => exact iff_of_false nofun nofun
  | ok data =>
      cases data with
      | none => exact iff_of_true rfl rfl
      | some bytes => exact iff_of_false nofun nofun

theorem Lacks.readEntry_eq (h : Lacks fs a name entry) :
    (readEntry fs (Name.toInternal name ++ ".class") a entry).1 = .ok none := by
  cases h with
  | nothing hentry => simp only [readEntry, hentry]
  | otherFile hfile hnames => simp [readEntry_of_file hfile, readFile, hnames]
  | noFile hdirectory hfile =>
      simp only [readEntry, hdirectory, readDirectory_eq]
      rcases hfile with hfile | hfile
      · rw [hfile]
      · rw [hfile]
  | noMember hfile hnames hopen hmember =>
      rw [readEntry_of_archive hfile hnames, hopen]
      exact readMember_eq_ok_none_iff.mpr hmember

theorem Hit.readEntry_ne (h : Hit fs a name entry) :
    (readEntry fs (Name.toInternal name ++ ".class") a entry).1 ≠ .ok none := by
  cases h with
  | file hdirectory hfile => simp [readEntry, hdirectory, readDirectory_eq, hfile]
  | unreadableFile hdirectory hfile => simp [readEntry, hdirectory, readDirectory_eq, hfile]
  | member hfile hnames hopen hmem hname =>
      rw [readEntry_of_archive hfile hnames, hopen]
      exact fun hnone => readMember_eq_ok_none_iff.mp hnone _ hmem hname
  | noArchive hfile hnames hopen =>
      rw [readEntry_of_archive (content?_of_file hfile) hnames, hopen]
      intro hnone
      cases hnone
  | unreadableArchive hfile hnames hclosed =>
      rw [readEntry_of_archive (content?_of_unreadable hfile) hnames,
        openArchive_error hclosed]
      intro hnone
      cases hnone
  | unreachable hentry => simp [readEntry, hentry]
  | unreachableFile hdirectory hfile => simp [readEntry, hdirectory, readDirectory_eq, hfile]

/-- An archive lacks a class or has a member of it. -/
theorem lacks_or_hit_of_opened {content : FileContent} {archive : Archive}
    (hfile : content? fs entry = some content) (hnames : entry.namesArchive = true)
    (hopen : (openArchive a entry content).1 = .ok archive) :
    Lacks fs a name entry ∨ Hit fs a name entry := by
  by_cases hmember : ∃ m ∈ archive.members, m.name = Name.toInternal name ++ ".class"
  · obtain ⟨m, hmem, hname⟩ := hmember
    exact Or.inr (.member hfile hnames hopen hmem hname)
  · refine Or.inl (.noMember hfile hnames hopen fun m hmem hname => ?_)
    exact hmember ⟨m, hmem, hname⟩

/-- A place lacks a class or is a hit. -/
theorem lacks_or_hit (fs : FileSystem) (a : OpenArchives) (name : String) (entry : Path) :
    Lacks fs a name entry ∨ Hit fs a name entry := by
  cases hentry : fs entry with
  | none => exact Or.inl (.nothing hentry)
  | some node =>
      cases node with
      | overlong => exact Or.inr (.unreachable hentry)
      | directory =>
          cases hfile : fs (entry.join (.ofClass name)) with
          | none => exact Or.inl (.noFile hentry (Or.inl hfile))
          | some node =>
              cases node with
              | directory => exact Or.inl (.noFile hentry (Or.inr hfile))
              | file bytes => exact Or.inr (.file hentry hfile)
              | unreadable reason => exact Or.inr (.unreadableFile hentry hfile)
              | overlong => exact Or.inr (.unreachableFile hentry hfile)
      | file bytes =>
          have hcontent := content?_of_file hentry
          cases hnames : entry.namesArchive with
          | false => exact Or.inl (.otherFile hcontent hnames)
          | true =>
              cases hopen : (openArchive a entry (.ok bytes)).1 with
              | error fault => exact Or.inr (.noArchive hentry hnames hopen)
              | ok archive => exact lacks_or_hit_of_opened hcontent hnames hopen
      | unreadable reason =>
          have hcontent := content?_of_unreadable hentry
          cases hnames : entry.namesArchive with
          | false => exact Or.inl (.otherFile hcontent hnames)
          | true =>
              cases hget : a.get? entry with
              | none => exact Or.inr (.unreadableArchive hentry hnames hget)
              | some archive =>
                  exact lacks_or_hit_of_opened hcontent hnames
                    (congrArg Prod.fst (openArchive_of_get? hget))

/-- A place lacks a class exactly if reading it gives nothing. -/
theorem lacks_iff : Lacks fs a name entry ↔
    (readEntry fs (Name.toInternal name ++ ".class") a entry).1 = .ok none := by
  refine ⟨Lacks.readEntry_eq, fun hnone => ?_⟩
  exact (lacks_or_hit fs a name entry).resolve_right fun hhit => hhit.readEntry_ne hnone

/-- A place is a hit exactly if it does not lack the class. -/
theorem hit_iff : Hit fs a name entry ↔ ¬ Lacks fs a name entry :=
  ⟨fun hhit hlacks => hhit.readEntry_ne hlacks.readEntry_eq,
    (lacks_or_hit fs a name entry).resolve_left⟩

/-- Whichever archives were opened, the same places lack a class. -/
theorem lacks_congr (h : SameArchives fs a b) : Lacks fs a name entry ↔ Lacks fs b name entry := by
  rw [lacks_iff, lacks_iff, (readEntry_congr h _ entry).1]

/-! ## The first hit -/

/-- A place is a hit, and all the places before it lack the class. -/
structure FirstHit (fs : FileSystem) (a : OpenArchives) (name : String) (entries : List Path)
    (e : Path) : Prop where
  split : ∃ before after, entries = before ++ e :: after ∧ ∀ entry ∈ before, Lacks fs a name entry
  hit : Hit fs a name e

/-- There is a first hit, or all places lack the class. -/
theorem forall_lacks_of_no_hit (h : ¬ ∃ e, FirstHit fs a name entries e) :
    ∀ entry ∈ entries, Lacks fs a name entry := by
  induction entries with
  | nil => exact List.forall_mem_nil _
  | cons entry entries ih =>
      rcases lacks_or_hit fs a name entry with hlacks | hhit
      · -- a first hit of the rest would be one of all, since this place lacks the class
        refine List.forall_mem_cons.mpr ⟨hlacks, ih ?_⟩
        rintro ⟨e, ⟨before, after, rfl, hbefore⟩, hhit⟩
        refine h ⟨e, ⟨entry :: before, after, rfl, ?_⟩, hhit⟩
        exact List.forall_mem_cons.mpr ⟨hlacks, hbefore⟩
      · exact absurd ⟨entry, ⟨[], entries, rfl, List.forall_mem_nil _⟩, hhit⟩ h

/-- Places that lack the class are passed over. -/
theorem readFirst_append {before : List Path} (h : ∀ entry ∈ before, Lacks fs a name entry)
    (rest : List Path) :
    (readFirst fs (Name.toInternal name ++ ".class") a (before ++ rest)).1 =
      (readFirst fs (Name.toInternal name ++ ".class") a rest).1 := by
  induction before generalizing a with
  | nil => rfl
  | cons entry before ih =>
      obtain ⟨hentry, hbefore⟩ := List.forall_mem_cons.mp h
      -- what was opened at this place shows in the others what they would have shown before
      have hopened := (readEntry_congr (.refl fs a) (Name.toInternal name ++ ".class") entry).2
      rw [List.cons_append, readFirst_of_none _ hentry.readEntry_eq,
        ih fun other hother => (lacks_congr hopened).mp (hbefore other hother)]
      exact (readFirst_congr hopened _ rest).1.symm

/-- A search gives what its first hit gives. -/
theorem FirstHit.readFirst_eq (h : FirstHit fs a name entries e) :
    (readFirst fs (Name.toInternal name ++ ".class") a entries).1 =
      (readEntry fs (Name.toInternal name ++ ".class") a e).1 := by
  obtain ⟨before, after, rfl, hbefore⟩ := h.split
  rw [readFirst_append hbefore, readFirst_of_found after h.hit.readEntry_ne]

theorem readFirst_of_forall_lacks (h : ∀ entry ∈ entries, Lacks fs a name entry) :
    (readFirst fs (Name.toInternal name ++ ".class") a entries).1 = .ok none := by
  have hall := readFirst_append h []
  rwa [List.append_nil] at hall

/-- The search path of a single place. -/
abbrev single (e : Path) : SearchPath := ⟨[e], List.cons_ne_nil _ _⟩

end SearchPath

/-! ## Repositories -/

namespace Repository

variable {r s : Repository} {path path' : SearchPath} {host : Host} {fs fs' : FileSystem}
  {name : String}
  {e : Path}

/-- What is read from a place when a class is looked for. -/
def reads (r : Repository) (fs : FileSystem) (name : String) (entry : Path) :
    Except Fault SearchPath.Found :=
  (SearchPath.readEntry fs (Name.toInternal name ++ ".class") r.archives entry).1

/-- The repository on a single place. -/
abbrev onPlace (e : Path) : Repository := ofSearchPath (.single e)

/-- The repository with one place instead of its search path. -/
def only (r : Repository) (e : Path) : Repository := { r with content := .places (.single e) }

theorem refusal?_of_open (hcontent : r.content = .places path) (hopen : r.closed = false)
    (hname : name ≠ "") : r.refusal? name = none := by
  simp [refusal?, hcontent, hopen, hname]

/-- A name leads to what is read at its first hit. -/
theorem found_of_firstHit (hcontent : r.content = .places path) (hopen : r.closed = false)
    (hname : name ≠ "") (hfree : r.leases.get? (Name.toInternal name) = none)
    (hfirst : SearchPath.FirstHit host.files r.archives name path.entries e) :
    r.found host name =
      match r.reads host.files name e with
      | .error fault => .error fault
      | .ok none => .error (notFound name r.scope)
      | .ok (some (bytes, source)) =>
        readChecked host.depth source (Name.toInternal name) bytes := by
  have hstored : r.stored? host.files (Name.toInternal name) =
      (r.reads host.files name e).map (Option.map fun found => (.bytes found.1, found.2)) := by
    simp only [stored?, hcontent, hfirst.readFirst_eq, reads]
  rw [found_of_free (refusal?_of_open hcontent hopen hname) hfree, declared_eq, hstored]
  rcases r.reads host.files name e with fault | _ | found <;> rfl

/-- A first hit that cannot be read is a malformed class file, which tells why: in a directory it is
the file of the class, and otherwise the archive. -/
theorem found_of_unreadable (hcontent : r.content = .places path) (hopen : r.closed = false)
    (hname : name ≠ "") (hfree : r.leases.get? (Name.toInternal name) = none)
    (hfirst : SearchPath.FirstHit host.files r.archives name path.entries e) (reason : String) :
    (host.files e = some .directory →
      host.files (e.join (.ofClass name)) = some (.unreadable reason) →
      r.found host name = .error (.failure (.badClassFile (e.join (.ofClass name)).text
        ("cannot read class file: " ++ reason)))) ∧
    (host.files e = some (.unreadable reason) → e.namesArchive = true →
      r.archives.get? e = none →
      r.found host name = .error (.failure (.badClassFile e.text
        ("not a valid archive: " ++ reason)))) := by
  rw [found_of_firstHit hcontent hopen hname hfree hfirst, reads]
  constructor
  · intro hdirectory hfile
    simp only [SearchPath.readEntry, hdirectory, SearchPath.readDirectory_eq, hfile]
  · intro hfile hnames hclosed
    rw [SearchPath.readEntry_of_archive (SearchPath.content?_of_unreadable hfile) hnames,
      SearchPath.openArchive_error hclosed]
    rfl

/-- **Repositories with the same first hit lead to the same class or fault**, if they read the same
there. -/
theorem found_eq_of_firstHit (hname : name ≠ "")
    (hcontent : r.content = .places path) (hopen : r.closed = false)
    (hfree : r.leases.get? (Name.toInternal name) = none)
    (hfirst : SearchPath.FirstHit host.files r.archives name path.entries e)
    (hcontent' : s.content = .places path') (hopen' : s.closed = false)
    (hfree' : s.leases.get? (Name.toInternal name) = none)
    (hfirst' : SearchPath.FirstHit fs' s.archives name path'.entries e)
    (hreads : s.reads fs' name e = r.reads host.files name e) :
    s.found ⟨fs', host.depth⟩ name = r.found host name := by
  have hsome : r.reads host.files name e ≠ .ok none := hfirst.hit.readEntry_ne
  rw [found_of_firstHit hcontent hopen hname hfree hfirst,
    found_of_firstHit hcontent' hopen' hname hfree' hfirst', hreads]
  -- the search paths show only in the fault of a class that is nowhere
  split
  · rfl
  · rename_i hnone
    exact absurd hnone hsome
  · rfl

/-- A class that no place has is not found, and neither is the empty name, for which no place is
asked. -/
theorem found_of_no_hit (hcontent : r.content = .places path) (hopen : r.closed = false)
    (hfree : r.leases.get? (Name.toInternal name) = none)
    (h : name = "" ∨ ¬ ∃ e, SearchPath.FirstHit host.files r.archives name path.entries e) :
    r.found host name = .error (notFound name path.scope) := by
  have hscope : r.scope = path.scope := by
    rw [scope, hcontent]
  by_cases hname : name = ""
  · refine found_of_refused ?_ host
    simp [refusal?, hcontent, hopen, hname, hscope]
  · have hlacks := SearchPath.forall_lacks_of_no_hit (h.resolve_left hname)
    have hstored : r.stored? host.files (Name.toInternal name) = .ok none := by
      simp only [stored?, hcontent, SearchPath.readFirst_of_forall_lacks hlacks]
      rfl
    rw [found_of_free (refusal?_of_open hcontent hopen hname) hfree, declared_eq, hstored, hscope]

/-- The first hit of a search path is that of the place alone. -/
theorem firstHit_only (h : SearchPath.FirstHit host.files r.archives name path.entries e) :
    SearchPath.FirstHit host.files (r.only e).archives name [e] e :=
  ⟨⟨[], [], rfl, List.forall_mem_nil _⟩, h.hit⟩

end Repository

open Repository in
/-- **The first hit decides.** Take an open repository on a search path, in any state, and a name of
which no lease is open.

If the name is not empty and a place is the first hit for it, the name leads to what it leads to if
this is the only place: in a repository that has the same archives open, and also in a new one, if
the archives that were opened are still as they were. It is the class that is declared by the bytes
read there, or the fault of reading them. In whatever search path and whatever files the same is
read from this place and all places before it lack the class, the name leads to the same.

If there is no hit, the class is not found, and the fault tells the name and all places in order. So
it does for the empty name, for which no place is asked. Whatever the fault is, the leases stay as
they were. -/
theorem resolve_first_hit {r : Repository} {path : SearchPath} (hcontent : r.content = .places path)
    (hopen : r.closed = false) (host : Host) {name : String}
    (hfree : r.leases.get? (Name.toInternal name) = none) :
    (∀ e, name ≠ "" → SearchPath.FirstHit host.files r.archives name path.entries e →
      r.found host name = (r.only e).found host name ∧
      (SearchPath.SameArchives host.files r.archives ∅ →
        r.found host name = (onPlace e).found host name) ∧
      (∀ bytes source, r.reads host.files name e = .ok (some (bytes, source)) →
        r.found host name = readChecked host.depth source (Name.toInternal name) bytes) ∧
      (∀ fault, r.reads host.files name e = .error fault → r.found host name = .error fault) ∧
      ∀ (s : Repository) (path' : SearchPath) (fs' : FileSystem), s.content = .places path' →
        s.closed = false → s.leases.get? (Name.toInternal name) = none →
        SearchPath.FirstHit fs' s.archives name path'.entries e →
        s.reads fs' name e = r.reads host.files name e →
        s.found ⟨fs', host.depth⟩ name = r.found host name) ∧
    ((name = "" ∨ ¬ ∃ e, SearchPath.FirstHit host.files r.archives name path.entries e) →
      (r.resolve host name).1 = .error (notFound name path.scope)) ∧
    ∀ fault, (r.resolve host name).1 = .error fault →
      (r.resolve host name).2.leases = r.leases := by
  refine ⟨fun e hname hfirst => ⟨?_, fun hsame => ?_, ?_, ?_, ?_⟩, fun hnone => ?_,
    fun fault hfault => ?_⟩
  · exact found_eq_of_firstHit hname rfl hopen hfree (firstHit_only hfirst) hcontent hopen hfree
      hfirst rfl
  · have halone : SearchPath.FirstHit host.files ∅ name [e] e := by
      refine ⟨⟨[], [], rfl, List.forall_mem_nil _⟩, SearchPath.hit_iff.mpr ?_⟩
      rw [← SearchPath.lacks_congr hsame]
      exact SearchPath.hit_iff.mp hfirst.hit
    refine found_eq_of_firstHit (r := onPlace e) hname rfl rfl rfl halone hcontent hopen hfree
      hfirst ?_
    exact (SearchPath.readEntry_congr hsame _ e).1
  · intro bytes source hreads
    rw [found_of_firstHit hcontent hopen hname hfree hfirst, hreads]
  · intro fault hreads
    rw [found_of_firstHit hcontent hopen hname hfree hfirst, hreads]
  · intro s path' fs' hcontent' hopen' hfree' hfirst' hreads
    exact found_eq_of_firstHit hname hcontent hopen hfree hfirst hcontent' hopen' hfree' hfirst'
      hreads
  · exact map_eq_error_iff.mp (found_of_no_hit hcontent hopen hfree hnone)
  · have hresolves := resolves r host name
    rw [hfault] at hresolves
    exact hresolves.leases_of_error

open Repository Schedule in
/-- Of three places the first is missing, the second is a directory with the class, and the third is
there in one search path and not in the other. -/
theorem resolve_first_hit_packaged :
    let classes : Path := ⟨.relative, ["classes"]⟩
    let missing : Path := ⟨.relative, ["missing"]⟩
    let r := ofSearchPath ⟨[missing, classes, missing], by simp⟩
    r.closed = false ∧ r.leases.get? (Name.toInternal "a.B") = none ∧
      SearchPath.FirstHit packagedHost.files r.archives "a.B" [missing, classes, missing] classes ∧
      (packagedClasses.found packagedHost "a.B").map (·.name) = .ok "a/B" ∧
      r.found packagedHost "a.B" = packagedClasses.found packagedHost "a.B" := by
  intro classes missing r
  have hfree : r.leases.get? (Name.toInternal "a.B") = none := rfl
  have hfirst : SearchPath.FirstHit packagedHost.files r.archives "a.B" [missing, classes, missing]
      classes := by
    have hclass : packagedFiles (classes.join (.ofClass "a.B")) =
        some (.file packagedLayout.bytes) := by decide +kernel
    refine ⟨⟨[missing], [missing], rfl, ?_⟩, .file (by decide +kernel) hclass⟩
    exact List.forall_mem_singleton.mpr (.nothing (by decide))
  refine ⟨rfl, hfree, hfirst, by decide +kernel, ?_⟩
  have hplace := (resolve_first_hit rfl rfl packagedHost hfree).1 classes (by decide) hfirst
  exact hplace.2.1 (.refl _ _)

/-- A directory with a file that has the ending of a class file and no name. -/
def unnamedFiles : FileSystem :=
  emptyDirectory.put ⟨.relative, ["classes", ".class"]⟩ (.file [])

open Repository in
/-- **The empty name is not looked for.** The first place has the file to which the empty name would
lead, but the fault tells all the places, and not that place alone. -/
theorem resolve_emptyName_tells_all :
    let classes : Path := ⟨.relative, ["classes"]⟩
    let library : Path := ⟨.relative, ["lib"]⟩
    let r := ofSearchPath ⟨[classes, library], by simp⟩
    r.closed = false ∧ r.leases.get? (Name.toInternal "") = none ∧
      SearchPath.FirstHit unnamedFiles r.archives "" [classes, library] classes ∧
      (r.resolve ⟨unnamedFiles, 1⟩ "").1 = .error (notFound "" ["classes", "lib"]) ∧
      ((ofSearchPath ⟨[classes], by simp⟩).resolve ⟨unnamedFiles, 1⟩ "").1 =
        .error (notFound "" ["classes"]) := by
  intro classes library r
  have hunnamed : unnamedFiles (classes.join (.ofClass "")) = some (.file []) := by decide +kernel
  refine ⟨rfl, rfl, ⟨⟨[], [library], rfl, List.forall_mem_nil _⟩, .file ?_ hunnamed⟩, ?_, ?_⟩
  · decide +kernel
  · decide +kernel
  · decide +kernel

end JvmDeps
