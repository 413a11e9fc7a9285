import JvmDeps.Proofs.Repository.Schedule

set_option autoImplicit false

/-! # Confinement to the search path

A class is looked for in the places of the search path. `resolve_congr` says at which paths: at the
places themselves, and where the name leads from each of them. From a directory, a name leads
downwards (`Path.below_join`), since every dot in it becomes a slash, so that no component has two
dots. But a name that starts with a separator is an absolute path, and leads to the same file from
wherever one is (`Path.join_of_rooted`).

So what a name leads to depends on nothing outside of the search path exactly if the name does not
start with a separator (`resolve_confined`).
-/

namespace JvmDeps

/-! ## Paths of class files -/

namespace Text

/-- The pieces are what is left without the characters at which a text is cut. -/
theorem flatten_cutWhere (p : Char → Bool) (cs : List Char) :
    (cutWhere p cs).flatten = cs.filter (!p ·) := by
  induction cs with
  | nil => rfl
  | cons c cs ih =>
      rw [cutWhere]
      cases hc : p c with
      | true => simp [hc, ih]
      | false =>
          cases hcut : cutWhere p cs with
          | nil => exact absurd hcut (cutWhere_ne_nil p cs)
          | cons piece pieces =>
              rw [hcut, List.flatten_cons] at ih
              simp [hc, ← ih]

end Text

/-- The name starts with a separator. -/
def Name.Rooted (name : String) : Prop :=
  name.toList.head? = some '.' ∨ name.toList.head? = some '/'

instance (name : String) : Decidable (Name.Rooted name) :=
  inferInstanceAs (Decidable (_ ∨ _))

/-- Of the dots of a name none is left. -/
theorem Name.dot_not_mem_toInternal (name : String) : '.' ∉ (toInternal name).toList := by
  rw [toInternal, String.toList_map, List.mem_map]
  rintro ⟨c, -, hc⟩
  split at hc
  · cases hc
  · contradiction

namespace Path

/-- The path is `base`, or leads downwards from it. -/
def Below (base p : Path) : Prop :=
  ∃ rest, ".." ∉ rest ∧ p = ⟨base.root, base.parts ++ rest⟩

theorem below_refl (base : Path) : base.Below base :=
  ⟨[], List.not_mem_nil, by rw [List.append_nil]⟩

/-- The file of a class, from a directory on. -/
def ofClass (name : String) : Path := .ofText (Name.toInternal name ++ ".class")

theorem sublist_of_mem_partsOf {cs : List Char} {part : String} (h : part ∈ partsOf cs) :
    part.toList.Sublist cs := by
  obtain ⟨piece, hpiece, rfl⟩ := List.mem_map.mp (List.mem_filter.mp h).1
  rw [String.toList_ofList]
  refine (List.sublist_flatten_of_mem hpiece).trans ?_
  rw [Text.flatten_cutWhere]
  exact List.filter_sublist

/-- No component of the file of a class leads upwards. -/
theorem not_mem_parts_ofClass (name : String) : ".." ∉ (ofClass name).parts := by
  intro hmem
  have hdots := (sublist_of_mem_partsOf hmem).count_le '.'
  -- the only dot is that of the ending
  have hinternal : (Name.toInternal name).toList.count '.' = 0 :=
    List.count_eq_zero.mpr (Name.dot_not_mem_toInternal name)
  rw [String.toList_append, List.count_append, hinternal] at hdots
  exact absurd hdots (by decide)

theorem rootOf_eq_relative_iff {cs : List Char} :
    rootOf cs = .relative ↔ cs.head? ≠ some '/' := by
  have hslashes : (cs.takeWhile (· = '/')).length = 0 ↔ cs.head? ≠ some '/' := by
    cases cs with
    | nil => simp
    | cons c cs => simp [List.takeWhile_cons]
  rw [← hslashes, rootOf]
  split
  · rename_i hzero
    exact iff_of_true rfl hzero
  · rename_i htwo
    exact iff_of_false nofun (by rw [htwo]; decide)
  · rename_i hzero _
    exact iff_of_false nofun hzero

theorem isAbsolute_ofClass_iff {name : String} :
    (ofClass name).isAbsolute = true ↔ Name.Rooted name := by
  have hhead : (Name.toInternal name ++ ".class").toList.head? = some '/' ↔ Name.Rooted name := by
    rw [String.toList_append, Name.toInternal, String.toList_map, Name.Rooted]
    cases name.toList with
    | nil => decide
    | cons c cs =>
        by_cases hc : c = '.'
        · simp [hc]
        · simp [hc]
  rw [isAbsolute, decide_eq_true_iff, ← hhead]
  exact (not_congr rootOf_eq_relative_iff).trans not_not

/-- A name that does not start with a separator leads downwards. -/
theorem below_join {name : String} (hname : ¬ Name.Rooted name) (base : Path) :
    base.Below (base.join (ofClass name)) := by
  refine ⟨(ofClass name).parts, not_mem_parts_ofClass name, ?_⟩
  rw [join, if_neg (mt isAbsolute_ofClass_iff.mp hname)]

/-- A name that starts with a separator leads to the same file from wherever one is. -/
theorem join_of_rooted {name : String} (hname : Name.Rooted name) (base : Path) :
    base.join (ofClass name) = ofClass name :=
  if_pos (isAbsolute_ofClass_iff.mpr hname)

end Path

/-! ## What a search looks at -/

/-- The file system with something at a path, whatever was there. -/
def FileSystem.put (fs : FileSystem) (p : Path) (node : Node) : FileSystem :=
  Function.update fs p (some node)

namespace SearchPath

/-- The file systems have the same in the places of the search path and below them. -/
def Agree (path : SearchPath) (fs fs' : FileSystem) : Prop :=
  ∀ entry ∈ path.entries, ∀ p, entry.Below p → fs p = fs' p

variable {path : SearchPath} {fs fs' fs'' : FileSystem} {name : String} {a : OpenArchives}

theorem Agree.trans (h : path.Agree fs fs') (h' : path.Agree fs' fs'') : path.Agree fs fs'' :=
  fun entry hentry p hp => (h entry hentry p hp).trans (h' entry hentry p hp)

/-- What is put under another root is not below a place. -/
theorem agree_put (fs : FileSystem) {p : Path} (node : Node)
    (hroot : ∀ entry ∈ path.entries, entry.root ≠ p.root) : path.Agree fs (fs.put p node) := by
  rintro entry hentry _ ⟨rest, -, rfl⟩
  have hne : (⟨entry.root, entry.parts ++ rest⟩ : Path) ≠ p := by
    rintro rfl
    exact hroot entry hentry rfl
  exact (Function.update_of_ne hne _ fs).symm

/-- A place is searched at its path and, if it is a directory, where the name leads from it. -/
def SameReads (fs fs' : FileSystem) (name : String) (entry : Path) : Prop :=
  fs entry = fs' entry ∧ (fs entry = some .directory →
    fs (entry.join (.ofClass name)) = fs' (entry.join (.ofClass name)))

theorem SameReads.readEntry_eq {entry : Path} (h : SameReads fs fs' name entry) :
    readEntry fs (Name.toInternal name ++ ".class") a entry =
      readEntry fs' (Name.toInternal name ++ ".class") a entry := by
  obtain ⟨hentry, hfile⟩ := h
  rw [readEntry, readEntry, ← hentry]
  split
  · rename_i hdirectory
    have hfile := hfile hdirectory
    rw [Path.ofClass] at hfile
    rw [readDirectory, readDirectory, hfile]
  · rfl
  · rfl
  · rfl
  · rfl

theorem readFirst_eq_of_sameReads {entries : List Path}
    (h : ∀ entry ∈ entries, SameReads fs fs' name entry) :
    readFirst fs (Name.toInternal name ++ ".class") a entries =
      readFirst fs' (Name.toInternal name ++ ".class") a entries := by
  induction entries generalizing a with
  | nil => rfl
  | cons entry entries ih =>
      obtain ⟨hentry, hentries⟩ := List.forall_mem_cons.mp h
      rw [readFirst, readFirst, hentry.readEntry_eq]
      split
      · exact ih hentries
      · rfl

end SearchPath

namespace Repository

variable {r : Repository} {path : SearchPath} {fs fs' : FileSystem} {depth : Nat} {name : String}

/-- **A class is looked for at the places, and where its name leads from the directories among
them**, and nowhere else. -/
theorem resolve_congr (hcontent : r.content = .places path)
    (h : ∀ entry ∈ path.entries, SearchPath.SameReads fs fs' name entry) (depth : Nat) :
    r.resolve ⟨fs, depth⟩ name = r.resolve ⟨fs', depth⟩ name := by
  have hload : r.load ⟨fs, depth⟩ name = r.load ⟨fs', depth⟩ name := by
    rw [load, load, hcontent]
    simp only [SearchPath.readFirst_eq_of_sameReads h]
  rw [resolve, resolve, hload]

/-- In a single directory, the class is what stands where its name leads. -/
theorem found_in_directory (fs : FileSystem) (depth : Nat) (entry : Path) (hname : name ≠ "")
    (hdirectory : fs entry = some .directory) :
    (ofSearchPath ⟨[entry], List.cons_ne_nil _ _⟩).found ⟨fs, depth⟩ name =
      match fs (entry.join (.ofClass name)) with
      | some (.file bytes) =>
        readChecked depth (entry.join (.ofClass name)).text (Name.toInternal name) bytes
      | some (.unreadable reason) =>
        .error (.failure (.badClassFile (entry.join (.ofClass name)).text
          ("cannot read class file: " ++ reason)))
      | some .overlong => .error (.misuse (.nameTooLong (entry.join (.ofClass name)).text))
      | some .directory | none => .error (.failure (.classNotFound name [entry.text])) := by
  have hopen : (ofSearchPath ⟨[entry], List.cons_ne_nil _ _⟩).refusal? name = none := if_neg hname
  rw [found_of_free hopen rfl, declared_eq]
  simp only [stored?, ofSearchPath, SearchPath.readFirst, SearchPath.readEntry, hdirectory,
    SearchPath.readDirectory]
  rw [← Path.ofClass]
  rcases fs (entry.join (.ofClass name)) with _ | _ | bytes | reason | _ <;> rfl

end Repository

/-! ## Confinement -/

/-- What the name leads to is a matter of the search path alone: nothing outside of its places makes
a difference. -/
def Name.Confined (name : String) : Prop :=
  ∀ (r : Repository) (path : SearchPath) (fs fs' : FileSystem) (depth : Nat),
    r.content = .places path → path.Agree fs fs' →
      r.resolve ⟨fs, depth⟩ name = r.resolve ⟨fs', depth⟩ name

/-- An empty directory, and nothing else. -/
def emptyDirectory : FileSystem := fun p =>
  if p = ⟨.relative, ["classes"]⟩ then some .directory else none

/-- A name that starts with a separator is looked for outside of an empty directory. -/
theorem not_confined_of_rooted {name : String} (hname : Name.Rooted name) :
    ¬ Name.Confined name := by
  intro hconfined
  let entry : Path := ⟨.relative, ["classes"]⟩
  have hroot : entry.root ≠ (Path.ofClass name).root := fun h =>
    of_decide_eq_true (Path.isAbsolute_ofClass_iff.mpr hname) h.symm
  have hentry : entry ≠ Path.ofClass name := fun h => hroot (congrArg Path.root h)
  have hne : name ≠ "" := by
    rintro rfl
    exact absurd hname (by decide)
  -- where the name leads, there is nothing, or a file that is no class file
  let outside := emptyDirectory.put (.ofClass name) (.file [])
  have hdirectory : emptyDirectory entry = some .directory := if_pos rfl
  have hinside := Repository.found_in_directory emptyDirectory 0 entry hne hdirectory
  have houtside := Repository.found_in_directory outside 0 entry hne
    ((Function.update_of_ne hentry _ _).trans hdirectory)
  have hnothing : emptyDirectory (.ofClass name) = none := if_neg hentry.symm
  have hfile : outside (.ofClass name) = some (.file []) := Function.update_self _ _ _
  rw [Path.join_of_rooted hname, hnothing] at hinside
  rw [Path.join_of_rooted hname, hfile] at houtside
  have hsame := hconfined (.ofSearchPath ⟨[entry], List.cons_ne_nil _ _⟩) _ emptyDirectory outside
    0 rfl (SearchPath.agree_put _ _ (List.forall_mem_singleton.mpr hroot))
  rw [Repository.found, hsame] at hinside
  cases hinside.symm.trans houtside

/-- **A name is confined to the search path exactly if it does not start with a separator.**

If it does, there is one path outside of the search path that makes a difference, namely the name
itself as an absolute path, and this only if there is a directory among the places. -/
theorem resolve_confined (name : String) :
    (Name.Confined name ↔ ¬ Name.Rooted name) ∧
      ∀ (r : Repository) (path : SearchPath) (fs fs' : FileSystem) (depth : Nat),
        r.content = .places path → path.Agree fs fs' →
        ((∃ entry ∈ path.entries, fs entry = some .directory) →
          fs (.ofClass name) = fs' (.ofClass name)) →
        r.resolve ⟨fs, depth⟩ name = r.resolve ⟨fs', depth⟩ name := by
  refine ⟨⟨?_, ?_⟩, ?_⟩
  · intro hconfined hname
    exact not_confined_of_rooted hname hconfined
  · intro hname r path fs fs' depth hcontent hagree
    refine Repository.resolve_congr hcontent (fun entry hentry => ⟨?_, fun _ => ?_⟩) depth
    · exact hagree entry hentry entry entry.below_refl
    · exact hagree entry hentry _ (Path.below_join hname entry)
  · intro r path fs fs' depth hcontent hagree houtside
    refine Repository.resolve_congr hcontent (fun entry hentry => ⟨?_, fun hdirectory => ?_⟩) depth
    · exact hagree entry hentry entry entry.below_refl
    · by_cases hname : Name.Rooted name
      · rw [Path.join_of_rooted hname]
        exact houtside ⟨entry, hentry, hdirectory⟩
      · exact hagree entry hentry _ (Path.below_join hname entry)

open Schedule (packagedClasses packagedFiles) in
/-- A file outside of the directory makes no difference to a class in it. -/
theorem resolve_confined_packaged :
    let outside := packagedFiles.put ⟨.single, ["a", "B.class"]⟩ (.file [])
    (packagedClasses.resolve ⟨outside, 1⟩ "a.B").1.map (·.decl.name) = .ok "a/B" := by
  intro outside
  have hsame := (resolve_confined "a.B").1.mpr (by decide) packagedClasses _ packagedFiles outside
    1 rfl (SearchPath.agree_put _ _ (by decide))
  rw [← hsame]
  decide +kernel

open Schedule (packagedLayout) in
/-- The file of a class whose name starts with a separator. -/
def strayLayout : ClassFile :=
  { packagedLayout with constants := [.text (ModifiedUtf8.encode "/a/B") "/a/B", .classRef 1] }

/-- The file stands in a directory. -/
def strayFiles : FileSystem :=
  (emptyDirectory.put ⟨.relative, ["classes", "a"]⟩ .directory).put
    ⟨.relative, ["classes", "a", "B.class"]⟩ (.file strayLayout.bytes)

/-- **A class can be found outside of the search path.** Its file stands in the directory, but the
name starts with a separator, so that it is not looked for there. It is found once the file stands
at the same place from the root on. -/
theorem resolve_escapes_stray :
    let path : SearchPath := ⟨[⟨.relative, ["classes"]⟩], by simp⟩
    let r := Repository.ofSearchPath path
    let outside := (strayFiles.put ⟨.single, ["a"]⟩ .directory).put ⟨.single, ["a", "B.class"]⟩
      (.file strayLayout.bytes)
    path.Agree strayFiles outside ∧
      (r.resolve ⟨strayFiles, 1⟩ ".a.B").1 = .error (.failure (.classNotFound ".a.B" ["classes"])) ∧
      (r.resolve ⟨outside, 1⟩ ".a.B").1.map (·.decl.name) = .ok "/a/B" := by
  intro path r outside
  refine ⟨?_, by decide +kernel, by decide +kernel⟩
  exact (SearchPath.agree_put _ _ (by decide)).trans (SearchPath.agree_put _ _ (by decide))

end JvmDeps
