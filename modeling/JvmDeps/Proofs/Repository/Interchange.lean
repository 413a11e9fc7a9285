import JvmDeps.Proofs.Repository.FirstPlace

set_option autoImplicit false

/-! # Directories and archives

The same files can stand in a directory or in an archive. From a directory the path of a class is
followed component by component, and in an archive it is looked up as it is written. The two agree
on the paths that are written like they are read (`Path.Normal`), and the path of a class is such a
path if no segment of its name is empty (`Path.clear_ofClass`).

So both places answer what the files say (`Bundle.answer`), and the answers differ only in what
messages call the place and the file (`SameAnswer`). There is one exception: a path that is too long
cannot be followed from a directory, but nothing keeps it from being looked up in an archive
(`directory_interchange`). Values that are nested too deep are a fault in both.
-/

namespace JvmDeps

/-! ## Pieces of a text -/

namespace Text

theorem cutWhere_eq_splitOnP (p : Char → Bool) (cs : List Char) :
    cutWhere p cs = cs.splitOnP p := by
  induction cs with
  | nil => rfl
  | cons c cs ih =>
      rw [cutWhere, List.splitOnP_cons_eq_if_modifyHead, ih]
      cases hsplit : cs.splitOnP p with
      | nil => exact absurd (ih.trans hsplit) (cutWhere_ne_nil p cs)
      | cons piece pieces => rfl

/-- A text is its pieces with the separator between them. -/
theorem intercalate_cutWhere (c : Char) (cs : List Char) :
    [c].intercalate (cutWhere (· = c) cs) = cs := by
  rw [cutWhere_eq_splitOnP]
  exact List.intercalate_splitOn c

/-- An ending without separators goes to the last piece. -/
theorem exists_cutWhere_append {p : Char → Bool} {ending : List Char}
    (hending : ∀ c ∈ ending, p c = false) (cs : List Char) :
    ∃ pieces last, cutWhere p cs = pieces ++ [last] ∧
      cutWhere p (cs ++ ending) = pieces ++ [last ++ ending] := by
  induction cs with
  | nil =>
      refine ⟨[], [], rfl, ?_⟩
      rw [cutWhere_eq_splitOnP]
      exact List.splitOnP_eq_singleton hending
  | cons c cs ih =>
      obtain ⟨pieces, last, hcut, happend⟩ := ih
      rw [List.cons_append, cutWhere, cutWhere, hcut, happend]
      cases hc : p c with
      | true => exact ⟨[] :: pieces, last, rfl, rfl⟩
      | false =>
          -- the character goes to the first piece, which may be the last one as well
          cases pieces with
          | nil => exact ⟨[], c :: last, rfl, rfl⟩
          | cons piece pieces => exact ⟨(c :: piece) :: pieces, last, rfl, rfl⟩

theorem subset_of_mem_cutWhere {p : Char → Bool} {cs piece : List Char}
    (h : piece ∈ cutWhere p cs) : piece ⊆ cs := by
  have hflatten : piece.Sublist (cutWhere p cs).flatten := List.sublist_flatten_of_mem h
  rw [flatten_cutWhere] at hflatten
  exact List.Subset.trans hflatten.subset List.filter_sublist.subset

end Text

/-! ## Normal paths -/

/-- No segment of the name is empty. -/
def Name.Segmented (name : String) : Prop :=
  ∀ segment ∈ Text.cutWhere (· = '/') (toInternal name).toList, segment ≠ []

instance (name : String) : Decidable (Name.Segmented name) :=
  List.decidableBAll _ _

theorem Name.Segmented.ne_empty {name : String} (h : Segmented name) : name ≠ "" := by
  rintro rfl
  exact absurd h (by decide +kernel)

namespace Path

theorem not_isAbsolute {p : Path} (h : p.root = .relative) : ¬ p.isAbsolute = true := by
  rw [isAbsolute, h]
  decide

/-- The text is how a path is written that leads downwards. -/
structure Normal (text : String) : Prop where
  relative : (ofText text).root = .relative
  nonempty : (ofText text).parts ≠ []
  downwards : ".." ∉ (ofText text).parts
  text_eq : (ofText text).text = text

/-- Different texts that are normal lead to different places. -/
theorem Normal.eq_of_parts {text text' : String} (h : Normal text) (h' : Normal text')
    (hparts : (ofText text).parts = (ofText text').parts) : text = text' := by
  have hpath : ofText text = ofText text' := by
    show (⟨(ofText text).root, (ofText text).parts⟩ : Path) = ofText text'
    rw [h.relative, hparts, ← h'.relative]
  rw [← h.text_eq, hpath, h'.text_eq]

theorem Normal.join_eq {text : String} (h : Normal text) (base : Path) :
    base.join (.ofText text) = ⟨base.root, base.parts ++ (ofText text).parts⟩ := by
  rw [join, if_neg (not_isAbsolute h.relative)]

/-- The pieces between the slashes of a text can all be components: none of them is empty or made of
dots. -/
def Clear (text : String) : Prop :=
  ∀ piece ∈ Text.cutWhere (· = '/') text.toList, piece ≠ [] ∧ piece ≠ ['.'] ∧ piece ≠ ['.', '.']

instance (text : String) : Decidable (Clear text) :=
  List.decidableBAll _ _

theorem Clear.parts_eq {text : String} (h : Clear text) :
    (ofText text).parts = (Text.cutWhere (· = '/') text.toList).map String.ofList := by
  show partsOf text.toList = _
  rw [partsOf, List.filter_eq_self]
  intro part hpart
  obtain ⟨piece, hpiece, rfl⟩ := List.mem_map.mp hpart
  obtain ⟨hempty, hdot, -⟩ := h piece hpiece
  simp [← String.toList_inj, hempty, hdot]

/-- A text with clear pieces is read and written without change. -/
theorem Clear.normal {text : String} (h : Clear text) : Normal text := by
  have hnonempty : (ofText text).parts ≠ [] := by
    rw [h.parts_eq, ne_eq, List.map_eq_nil_iff]
    exact Text.cutWhere_ne_nil _ _
  have hrelative : (ofText text).root = .relative := by
    refine rootOf_eq_relative_iff.mpr fun hhead => ?_
    -- in front of a slash at the beginning there is an empty piece
    obtain ⟨cs, hcs⟩ := List.head?_eq_some_iff.mp hhead
    rw [Clear, hcs] at h
    exact (h [] List.mem_cons_self).1 rfl
  refine ⟨hrelative, hnonempty, fun hdots => ?_, ?_⟩
  · rw [h.parts_eq] at hdots
    obtain ⟨piece, hpiece, heq⟩ := List.mem_map.mp hdots
    rw [← String.toList_inj, String.toList_ofList] at heq
    exact (h piece hpiece).2.2 heq
  · have hpieces : (Text.cutWhere (· = '/') text.toList).map (String.toList ∘ String.ofList) =
        Text.cutWhere (· = '/') text.toList := by
      simp [Function.comp_def]
    rw [Path.text, hrelative]
    simp only [List.isEmpty_iff, hnonempty, if_false]
    rw [← String.toList_inj, String.toList_intercalate, h.parts_eq, List.map_map, hpieces]
    exact Text.intercalate_cutWhere '/' text.toList

/-- The ending of class files goes to the last segment of a name. -/
theorem exists_segments (name : String) :
    ∃ segments last,
      Text.cutWhere (· = '/') (Name.toInternal name).toList = segments ++ [last] ∧
      Text.cutWhere (· = '/') (Name.toInternal name ++ ".class").toList =
        segments ++ [last ++ ".class".toList] := by
  have hending : ∀ c ∈ ".class".toList, decide (c = '/') = false := by simp
  rw [String.toList_append]
  exact Text.exists_cutWhere_append hending (Name.toInternal name).toList

/-- **The path of a class is normal**, if no segment of its name is empty. -/
theorem clear_ofClass {name : String} (hname : Name.Segmented name) :
    Clear (Name.toInternal name ++ ".class") := by
  obtain ⟨segments, last, hcut, happend⟩ := exists_segments name
  rw [Clear, happend]
  intro piece hpiece
  rcases List.mem_append.mp hpiece with hfront | hlast
  · -- a segment in front of the last is not empty and has no dot
    have hsegment : piece ∈ Text.cutWhere (· = '/') (Name.toInternal name).toList := by
      rw [hcut]
      exact List.mem_append_left _ hfront
    have hdot : '.' ∉ piece := fun hmem =>
      Name.dot_not_mem_toInternal name (Text.subset_of_mem_cutWhere hsegment hmem)
    refine ⟨hname piece hsegment, ?_, ?_⟩
    · rintro rfl
      exact hdot List.mem_cons_self
    · rintro rfl
      exact hdot List.mem_cons_self
  · -- the last one has the ending
    have hlength : 6 ≤ piece.length := by
      rw [List.mem_singleton.mp hlast, List.length_append]
      exact Nat.le_add_left _ _
    refine ⟨?_, ?_, ?_⟩
    all_goals
      rintro rfl
      exact absurd hlength (by decide)

end Path

/-! ## The same files in two places -/

/-- Files under normal paths. -/
structure Bundle where
  files : OrderedMap String Bytes
  normal : ∀ text ∈ files.keys, Path.Normal text

namespace Bundle

variable {b : Bundle} {fs : FileSystem} {z : Path} {archive : Archive}

/-- The directory has exactly these files, and they can be read. -/
structure InDirectory (b : Bundle) (fs : FileSystem) (d : Path) : Prop where
  directory : fs d = some .directory
  files : ∀ text, Path.Normal text → ∀ bytes,
    fs (d.join (.ofText text)) = some (.file bytes) ↔ b.files.get? text = some bytes
  readable : ∀ text, Path.Normal text → ∀ reason,
    fs (d.join (.ofText text)) ≠ some (.unreadable reason)

/-- The file is an archive, of which the members are exactly these files and can be read. -/
structure InArchive (b : Bundle) (fs : FileSystem) (z : Path) (archive : Archive) : Prop where
  names : z.namesArchive = true
  opened : ∃ bytes, fs z = some (.file bytes) ∧ Archive.ofBytes bytes = .ok archive
  members : ∀ m ∈ archive.members, m.name ∈ b.files.keys
  intact : ∀ text bytes, b.files.get? text = some bytes → archive.read? text = .ok (some bytes)

/-- What the files say about the class of a name, if messages call their place `place` and the file
of the class `source`. -/
def answer (b : Bundle) (depth : Nat) (name place source : String) : Except Fault ClassDecl :=
  match b.files.get? (Name.toInternal name ++ ".class") with
  | none => .error (Repository.notFound name [place])
  | some bytes => Repository.readChecked depth source (Name.toInternal name) bytes

/-- The file of the class has values that are nested too deep. -/
def TooDeep (b : Bundle) (depth : Nat) (name : String) : Prop :=
  ∃ bytes, b.files.get? (Name.toInternal name ++ ".class") = some bytes ∧
    ClassFile.readDecl depth bytes = .error .tooDeep

/-- An archive is asked for a file by its path as it is written. -/
theorem InArchive.read?_eq (h : b.InArchive fs z archive) (text : String) :
    archive.read? text = .ok (b.files.get? text) := by
  cases hget : b.files.get? text with
  | some bytes => exact h.intact text bytes hget
  | none =>
      refine Archive.read?_eq_ok_none_iff.mpr fun m hm hname => ?_
      exact OrderedMap.get?_eq_none_iff.mp hget (hname ▸ h.members m hm)

end Bundle

/-! ## Paths that are too long -/

/-- The path is too long, or one of the names in it. -/
def Path.Long (p : Path) : Prop :=
  FileTree.maxPath < p.text.utf8ByteSize ∨ ∃ part ∈ p.parts, FileTree.maxName < part.utf8ByteSize

namespace FileTree

variable {t : FileTree} {place parts : List String} {node : Node}

/-- What can stand in a tree where components lead: a directory, one of the files of the tree, or
nothing that can be reached because of a long name. -/
inductive Leads (t : FileTree) (parts : List String) : Node → Prop
  | directory : Leads t parts .directory
  | file {place : List String} {bytes : Bytes} (hfile : t.files.get? place = some bytes) :
      Leads t parts (.file bytes)
  | overlong {part : String} (hmem : part ∈ parts) (hpart : maxName < part.utf8ByteSize) :
      Leads t parts .overlong

theorem Leads.cons (h : t.Leads parts node) (part : String) : t.Leads (part :: parts) node := by
  cases h with
  | directory => exact .directory
  | file hfile => exact .file hfile
  | overlong hmem hpart => exact .overlong (List.mem_cons_of_mem _ hmem) hpart

theorem leads_of_followOutside (h : followOutside parts = some node) : t.Leads parts node := by
  induction parts with
  | nil =>
      cases h
      exact .directory
  | cons part parts ih =>
      rw [followOutside] at h
      split at h
      · rename_i hpart
        cases h
        exact .overlong List.mem_cons_self hpart
      · split at h
        · exact (ih h).cons part
        · cases h

theorem leads_of_node? (h : t.node? place = some node) : t.Leads parts node := by
  rw [node?] at h
  split at h
  · cases h
    exact .directory
  · obtain ⟨bytes, hfile, rfl⟩ := Option.map_eq_some_iff.mp h
    exact .file hfile

theorem leads_of_follow (h : t.follow place parts = some node) : t.Leads parts node := by
  induction parts generalizing place with
  | nil => exact leads_of_node? h
  | cons part parts ih =>
      rw [follow] at h
      split at h
      · cases h
      · split at h
        · rename_i hpart
          cases h
          exact .overlong List.mem_cons_self hpart
        · split at h
          · split at h
            · exact (leads_of_followOutside h).cons part
            · exact (ih h).cons part
          · exact (ih h).cons part

/-- A path leads where its components lead, if it is not too long as a whole. -/
theorem leads_of_fileSystem {p : Path} (h : t.fileSystem p = some node) :
    t.Leads p.parts node ∨ node = .overlong ∧ p.Long := by
  rw [fileSystem] at h
  split at h
  · cases h
  · split at h
    · rename_i hlong
      cases h
      exact Or.inr ⟨rfl, Or.inl hlong⟩
    · split at h
      · exact Or.inl (leads_of_followOutside h)
      · exact Or.inl (leads_of_follow h)

/-- A relative path that is not too long leads where its components lead. -/
theorem fileSystem_of_relative {p : Path} (hroot : p.root = .relative)
    (hnull : ∀ part ∈ p.parts, '\x00' ∉ part.toList) (hsize : p.text.utf8ByteSize ≤ maxPath) :
    t.fileSystem p = t.follow [] p.parts := by
  have hany : p.parts.any (·.contains '\x00') = false := by
    simp only [List.any_eq_false, String.contains_char_eq, decide_eq_true_eq]
    exact hnull
  rw [fileSystem, hany, if_neg Bool.false_ne_true, if_neg (Nat.not_lt.mpr hsize),
    if_neg (Path.not_isAbsolute hroot)]

/-- In a tree, every path can be followed that is not too long. -/
theorem long_of_overlong {p : Path} (h : t.fileSystem p = some .overlong) : p.Long := by
  rcases leads_of_fileSystem h with hleads | ⟨-, hlong⟩
  · cases hleads with
    | overlong hmem hpart => exact Or.inr ⟨_, hmem, hpart⟩
  · exact hlong

/-- In a tree without files there are none. -/
theorem ne_file_of_no_files (ht : t.files = ∅) (p : Path) (bytes : Bytes) :
    t.fileSystem p ≠ some (.file bytes) := by
  intro hfile
  rcases leads_of_fileSystem hfile with hleads | ⟨hoverlong, -⟩
  · cases hleads with
    | file hget =>
        rw [ht] at hget
        cases hget
  · cases hoverlong

/-- In a tree, every file can be read. -/
theorem ne_unreadable (p : Path) (reason : String) :
    t.fileSystem p ≠ some (.unreadable reason) := by
  intro hnode
  rcases leads_of_fileSystem hnode with hleads | ⟨hoverlong, -⟩
  · cases hleads
  · cases hoverlong

end FileTree

/-! ## Answers -/

/-- The two answers are the same class, or that there is no such class, or that its file is
malformed for the same reason. Messages call the places `place` and `place'`, and the files
`source` and `source'`. -/
inductive SameAnswer (name place source place' source' : String) :
    Except Fault ClassDecl → Except Fault ClassDecl → Prop
  | found (c : ClassDecl) : SameAnswer name place source place' source' (.ok c) (.ok c)
  | missing : SameAnswer name place source place' source'
      (.error (Repository.notFound name [place])) (.error (Repository.notFound name [place']))
  | malformed (reason : String) : SameAnswer name place source place' source'
      (.error (.failure (.badClassFile source reason)))
      (.error (.failure (.badClassFile source' reason)))

theorem SameAnswer.ok_iff {name place source place' source' : String}
    {x y : Except Fault ClassDecl} (h : SameAnswer name place source place' source' x y)
    (c : ClassDecl) : x = .ok c ↔ y = .ok c := by
  cases h with
  | found c' => exact Iff.rfl
  | missing => exact iff_of_false nofun nofun
  | malformed reason => exact iff_of_false nofun nofun

/-- Where bytes come from shows only in the message that they are malformed. -/
theorem sameAnswer_readChecked (name place source place' source' : String) {depth : Nat}
    {bytes : Bytes} (h : ClassFile.readDecl depth bytes ≠ .error .tooDeep) :
    SameAnswer name place source place' source'
      (Repository.readChecked depth source (Name.toInternal name) bytes)
      (Repository.readChecked depth source' (Name.toInternal name) bytes) := by
  simp only [Repository.readChecked, ClassDecl.ofBytes]
  cases hread : ClassFile.readDecl depth bytes with
  | error refusal =>
      cases refusal with
      | tooDeep => exact absurd hread h
      | truncated need offset left => exact .malformed _
      | refused cause => exact .malformed _
  | ok c =>
      show SameAnswer name place source place' source'
        (Repository.checkName source (Name.toInternal name) c)
        (Repository.checkName source' (Name.toInternal name) c)
      by_cases hc : c.name = Name.toInternal name
      · rw [Repository.checkName, Repository.checkName, if_pos hc, if_pos hc]
        exact .found c
      · rw [Repository.checkName, Repository.checkName, if_neg hc, if_neg hc]
        exact .malformed _

namespace Bundle

variable {b : Bundle} {depth : Nat} {name : String}

theorem sameAnswer_answer (h : ¬ b.TooDeep depth name) (place source place' source' : String) :
    SameAnswer name place source place' source' (b.answer depth name place source)
      (b.answer depth name place' source') := by
  rw [answer, answer]
  cases hget : b.files.get? (Name.toInternal name ++ ".class") with
  | none => exact .missing
  | some bytes =>
      exact sameAnswer_readChecked name place source place' source' fun hread =>
        h ⟨bytes, hget, hread⟩

theorem TooDeep.answer_eq (h : b.TooDeep depth name) (place source : String) :
    b.answer depth name place source = .error (.misuse .nestedTooDeep) := by
  obtain ⟨bytes, hget, hread⟩ := h
  rw [answer, hget]
  exact Repository.readChecked_of_tooDeep hread source (Name.toInternal name)

end Bundle

/-! ## Repositories on one place -/

theorem SearchPath.readFirst_singleton (fs : FileSystem) (member : String) (a : OpenArchives)
    (entry : Path) : (readFirst fs member a [entry]).1 = (readEntry fs member a entry).1 := by
  by_cases hnone : (readEntry fs member a entry).1 = .ok none
  · rw [readFirst_of_none [] hnone, hnone]
    rfl
  · rw [readFirst_of_found [] hnone]

namespace Repository

variable {b : Bundle} {fs : FileSystem} {d z : Path} {archive : Archive} {name : String}
  {depth : Nat}

/-- **From a directory, a name leads to what the files say**, if its path can be followed. -/
theorem found_onPlace_directory (h : b.InDirectory fs d) (hname : Name.Segmented name)
    (hlong : fs (d.join (.ofClass name)) ≠ some .overlong) :
    (onPlace d).found ⟨fs, depth⟩ name =
      b.answer depth name d.text (d.join (.ofClass name)).text := by
  have hfile := h.files _ (Path.clear_ofClass hname).normal
  have hreadable := h.readable _ (Path.clear_ofClass hname).normal
  rw [← Path.ofClass] at hfile hreadable
  rw [found_in_directory fs depth d hname.ne_empty h.directory, Bundle.answer]
  cases hget : b.files.get? (Name.toInternal name ++ ".class") with
  | some bytes => rw [(hfile bytes).mpr hget]
  | none =>
      -- there is no file, so there is a directory or nothing
      cases hnode : fs (d.join (.ofClass name)) with
      | none => rfl
      | some node =>
          cases node with
          | directory => rfl
          | overlong => exact absurd hnode hlong
          | unreadable reason => exact absurd hnode (hreadable reason)
          | file bytes =>
              have hsome := (hfile bytes).mp hnode
              rw [hget] at hsome
              cases hsome

/-- **In an archive, a name leads to what the files say.** -/
theorem found_onPlace_archive (h : b.InArchive fs z archive) (hname : name ≠ "") :
    (onPlace z).found ⟨fs, depth⟩ name =
      b.answer depth name z.text (z.text ++ "!/" ++ (Name.toInternal name ++ ".class")) := by
  obtain ⟨bytes, hfile, hopened⟩ := h.opened
  have hopen : (SearchPath.openArchive (onPlace z).archives z (.ok bytes)).1 = .ok archive := by
    have hnew : (onPlace z).archives.get? z = none := rfl
    simp only [SearchPath.openArchive, hnew, hopened]
  have hstored : (onPlace z).stored? fs (Name.toInternal name) =
      .ok ((b.files.get? (Name.toInternal name ++ ".class")).map fun content =>
        (.bytes content, z.text ++ "!/" ++ (Name.toInternal name ++ ".class"))) := by
    show (SearchPath.readFirst fs _ (onPlace z).archives [z]).1.map _ = _
    rw [SearchPath.readFirst_singleton,
      SearchPath.readEntry_of_archive (SearchPath.content?_of_file hfile) h.names, hopen]
    show (SearchPath.readMember z archive _).map _ = _
    rw [SearchPath.readMember, h.read?_eq]
    exact congrArg Except.ok (Option.map_map _ _ _)
  have hrefusal : (onPlace z).refusal? name = none := refusal?_of_open rfl rfl hname
  rw [found_of_free hrefusal rfl, declared_eq, hstored, Bundle.answer]
  cases b.files.get? (Name.toInternal name ++ ".class") <;> rfl

end Repository

/-! ## A class in both places -/

/-- The bytes of a number in an archive. -/
def Archive.digits : (size : Nat) → Nat → Bytes
  | 0, _ => []
  | size + 1, n => UInt8.ofNat (n % 256) :: digits size (n / 256)

/-- An archive with a single member, which is stored as it is. -/
def Archive.ofMember (name content : Bytes) : Bytes :=
  -- from the version on, the header and the entry of the directory say the same
  let description := digits 2 20 ++ digits 8 0 ++ digits 4 (Crc32.ofBytes content).toNat ++
    digits 4 content.length ++ digits 4 content.length ++ digits 2 name.length ++ digits 2 0
  let member := headerMagic ++ description ++ name ++ content
  let entry := entryMagic ++ digits 2 20 ++ description ++ digits 14 0 ++ name
  member ++ entry ++ endMagic ++ digits 4 0 ++ digits 2 1 ++ digits 2 1 ++
    digits 4 entry.length ++ digits 4 member.length ++ digits 2 0

namespace Schedule

/-- The file of the class in its package. -/
def packagedBundle : Bundle where
  files := .ofList [("a/B.class", packagedLayout.bytes)]
  normal := by
    have hclear : Path.Clear "a/B.class" := by decide +kernel
    exact List.forall_mem_singleton.mpr hclear.normal

theorem get?_packagedBundle {text : String} {bytes : Bytes} :
    packagedBundle.files.get? text = some bytes ↔
      text = "a/B.class" ∧ bytes = packagedLayout.bytes := by
  rw [OrderedMap.get?_eq_some_iff]
  show (text, bytes) ∈ [("a/B.class", packagedLayout.bytes)] ↔ _
  rw [List.mem_singleton, Prod.mk.injEq]

/-- The file stands in the directory. -/
theorem packagedBundle_inDirectory :
    packagedBundle.InDirectory packagedFiles ⟨.relative, ["classes"]⟩ := by
  refine ⟨by decide, fun text hnormal bytes => ?_, fun text _ => packagedFiles_readable _⟩
  have hother : Path.Normal "a/B.class" := packagedBundle.normal _ List.mem_cons_self
  have hparts : (Path.ofText "a/B.class").parts = ["a", "B.class"] := by decide +kernel
  rw [get?_packagedBundle, hnormal.join_eq, packagedFiles]
  simp only [Path.mk.injEq, true_and, List.cons_append, List.nil_append, List.cons.injEq,
    hnormal.nonempty, if_false, ← hparts]
  constructor
  · intro hfile
    split at hfile
    · rename_i heq
      cases hfile
      exact ⟨hnormal.eq_of_parts hother heq, rfl⟩
    · cases hfile
  · rintro ⟨rfl, rfl⟩
    rw [if_pos rfl]

/-- The file is the member of an archive. -/
def archivedFiles : FileSystem := fun p =>
  if p = ⟨.relative, ["lib.jar"]⟩ then
    some (.file (Archive.ofMember ("a/B.class".toList.map fun c => UInt8.ofNat c.toNat)
      packagedLayout.bytes))
  else none

theorem packagedBundle_inArchive :
    ∃ archive, packagedBundle.InArchive archivedFiles ⟨.relative, ["lib.jar"]⟩ archive := by
  have hread : (Archive.ofBytes (Archive.ofMember
      ("a/B.class".toList.map fun c => UInt8.ofNat c.toNat) packagedLayout.bytes)).map
        (fun a => (a.members.map (·.name), a.read? "a/B.class")) =
      .ok (["a/B.class"], .ok (some packagedLayout.bytes)) := by
    decide +kernel
  obtain ⟨archive, hopened, hmembers⟩ := map_eq_ok_iff.mp hread
  obtain ⟨hnames, hmember⟩ := Prod.mk.inj hmembers
  refine ⟨archive, by decide +kernel, ⟨_, rfl, hopened⟩, fun m hm => ?_, ?_⟩
  · have hname : m.name ∈ archive.members.map (·.name) := List.mem_map_of_mem hm
    rw [hnames] at hname
    exact hname
  · intro text bytes hget
    obtain ⟨rfl, rfl⟩ := get?_packagedBundle.mp hget
    exact hmember

end Schedule

/-! ## A name that is too long -/

/-- A name without separators, as classes have that are in no package. -/
structure Name.Plain (name : String) : Prop where
  ne_empty : name ≠ ""
  plain : ∀ c ∈ name.toList, c ≠ '.' ∧ c ≠ '/'

namespace Name.Plain

variable {name : String}

theorem toInternal_eq (h : Plain name) : toInternal name = name := by
  apply String.toList_inj.mp
  rw [toInternal, String.toList_map]
  calc name.toList.map (fun c => if c = '.' then '/' else c)
      = name.toList.map id := List.map_congr_left fun c hc => if_neg (h.plain c hc).1
    _ = name.toList := List.map_id _

theorem cutWhere_eq (h : Plain name) :
    Text.cutWhere (· = '/') (toInternal name).toList = [name.toList] := by
  rw [h.toInternal_eq]
  exact Text.cutWhere_of_none fun c hc => decide_eq_false (h.plain c hc).2

theorem segmented (h : Plain name) : Segmented name := by
  rw [Segmented, h.cutWhere_eq, List.forall_mem_singleton]
  exact mt String.toList_eq_nil_iff.mp h.ne_empty

/-- The path of the class is a single name. -/
theorem ofClass_eq (h : Plain name) : Path.ofClass name = ⟨.relative, [name ++ ".class"]⟩ := by
  have hclear := Path.clear_ofClass h.segmented
  have hparts : (Path.ofClass name).parts = [name ++ ".class"] := by
    obtain ⟨segments, last, hcut, happend⟩ := Path.exists_segments name
    rw [h.cutWhere_eq] at hcut
    obtain ⟨rfl, rfl⟩ : segments = [] ∧ last = name.toList := by
      simpa [List.append_eq_singleton_iff] using hcut.symm
    rw [Path.ofClass, hclear.parts_eq, happend, ← String.toList_append]
    exact congrArg (fun part => [part]) String.ofList_toList
  show (⟨(Path.ofClass name).root, (Path.ofClass name).parts⟩ : Path) = _
  rw [hparts, Path.ofClass, hclear.normal.relative]

end Name.Plain

/-- A directory without files. -/
def emptyClasses : FileTree := .ofLists ["classes"] []

/-- A name that is too long with the ending of class files cannot be followed, even though there is
nothing in the directory. -/
theorem overlong_in_emptyClasses {name : String} (hname : Name.Plain name)
    (hnull : '\x00' ∉ name.toList) (hlong : FileTree.maxName < name.utf8ByteSize + 6)
    (hsize : name.utf8ByteSize + 14 ≤ FileTree.maxPath) :
    emptyClasses.fileSystem ((⟨.relative, ["classes"]⟩ : Path).join (.ofClass name)) =
      some .overlong := by
  have hjoin : (⟨.relative, ["classes"]⟩ : Path).join (.ofClass name) =
      ⟨.relative, ["classes", name ++ ".class"]⟩ := by
    rw [hname.ofClass_eq]
    rfl
  have hmember : (name ++ ".class").utf8ByteSize = name.utf8ByteSize + 6 :=
    String.utf8ByteSize_append
  have htext : (⟨.relative, ["classes", name ++ ".class"]⟩ : Path).text =
      "classes" ++ "/" ++ (name ++ ".class") := rfl
  rw [hjoin, FileTree.fileSystem_of_relative rfl]
  · -- the directory is there, and then comes the name
    show (if FileTree.maxName < (name ++ ".class").utf8ByteSize then some Node.overlong else _) = _
    rw [hmember, if_pos hlong]
  · simp [hnull, String.toList_append]
  · rw [htext, String.utf8ByteSize_append, String.utf8ByteSize_append, hmember]
    show 7 + 1 + (name.utf8ByteSize + 6) ≤ FileTree.maxPath
    omega

/-- A name of some letters. -/
def letters (n : Nat) : String := String.ofList (List.replicate n 'a')

theorem utf8ByteSize_letters (n : Nat) : (letters n).utf8ByteSize = n := by
  induction n with
  | zero => rfl
  | succ n ih =>
      have hsplit : letters (n + 1) = String.singleton 'a' ++ letters n := by
        rw [letters, List.replicate_succ, ← List.singleton_append, String.ofList_append,
          String.singleton_eq_ofList, letters]
      rw [hsplit, String.utf8ByteSize_append, ih, String.utf8ByteSize_singleton, Nat.add_comm]
      rfl

theorem eq_of_mem_letters {n : Nat} {c : Char} (h : c ∈ (letters n).toList) : c = 'a' := by
  rw [letters, String.toList_ofList] at h
  exact List.eq_of_mem_replicate h

theorem plain_letters {n : Nat} (hn : n ≠ 0) : Name.Plain (letters n) where
  ne_empty hempty := by
    have hsize := congrArg String.utf8ByteSize hempty
    rw [utf8ByteSize_letters] at hsize
    exact hn hsize
  plain c hc := by
    rw [eq_of_mem_letters hc]
    decide

/-- The bytes of an archive without members. -/
def Archive.ofNothing : Bytes := endMagic ++ digits 18 0

/-- An archive without members. -/
def emptyLibrary : FileTree := .ofLists [] [("lib.jar", Archive.ofNothing)]

/-! ## Interchange -/

open Repository in
/-- **Directories and archives are interchangeable, except for paths that are too long.** Take a
directory and an archive with exactly the same files, a repository on each of them, in whatever
later states, and a name of which no segment is empty.

The two answers are the same class, or in both there is no such class, or in both its file is
malformed for the same reason, exactly if the path of the class can be followed in the directory and
the values in its file are not nested too deep. Both are what the files say if the path can be
followed; the archive answers so in any case. If the path cannot be followed, the directory answers
with a fault that is no failure of the analysis, where the archive has no such class. This happens
only to a path that is too long, or has a name that is too long. If the values are nested too deep,
both have the same fault. -/
theorem directory_interchange {b : Bundle} {fs fs' : FileSystem} {d z : Path} {archive : Archive}
    (hd : b.InDirectory fs d) (hz : b.InArchive fs' z archive) {name : String}
    (hname : Name.Segmented name) {depth : Nat} {r s : Repository}
    (hr : (onPlace d).Later ⟨fs, depth⟩ r) (hs : (onPlace z).Later ⟨fs', depth⟩ s) :
    let path := d.join (.ofClass name)
    let member := z.text ++ "!/" ++ (Name.toInternal name ++ ".class")
    let inDirectory := r.found ⟨fs, depth⟩ name
    let inArchive := s.found ⟨fs', depth⟩ name
    (SameAnswer name d.text path.text z.text member inDirectory inArchive ↔
      fs path ≠ some .overlong ∧ ¬ b.TooDeep depth name) ∧
    (fs path ≠ some .overlong → inDirectory = b.answer depth name d.text path.text) ∧
    inArchive = b.answer depth name z.text member ∧
    (fs path = some .overlong →
      inDirectory = .error (.misuse (.nameTooLong path.text)) ∧
      inArchive = .error (notFound name [z.text])) ∧
    (∀ t : FileTree, fs = t.fileSystem → fs path = some .overlong → path.Long) ∧
    (b.TooDeep depth name →
      inDirectory = .error (.misuse .nestedTooDeep) ∧
      inArchive = .error (.misuse .nestedTooDeep)) := by
  intro path member inDirectory inArchive
  have harchive : inArchive = b.answer depth name z.text member :=
    (hs.found_eq (.places _) name).trans (found_onPlace_archive hz hname.ne_empty)
  have hsame : fs path ≠ some .overlong → inDirectory = b.answer depth name d.text path.text :=
    fun hfollowed =>
      (hr.found_eq (.places _) name).trans (found_onPlace_directory hd hname hfollowed)
  have hnone : fs path = some .overlong →
      b.files.get? (Name.toInternal name ++ ".class") = none := by
    intro hoverlong
    refine Option.eq_none_iff_forall_ne_some.mpr fun bytes hget => ?_
    have hfile := (hd.files _ (Path.clear_ofClass hname).normal bytes).mpr hget
    cases hfile.symm.trans hoverlong
  have hlong : fs path = some .overlong →
      inDirectory = .error (.misuse (.nameTooLong path.text)) ∧
        inArchive = .error (notFound name [z.text]) := by
    intro hoverlong
    refine ⟨(hr.found_eq (.places _) name).trans ?_, ?_⟩
    · rw [found_in_directory fs depth d hname.ne_empty hd.directory, hoverlong]
    · rw [harchive, Bundle.answer, hnone hoverlong]
  have hdeep : b.TooDeep depth name → inDirectory = .error (.misuse .nestedTooDeep) ∧
      inArchive = .error (.misuse .nestedTooDeep) := by
    intro hdeep
    -- a file that was read is one to which its path can be followed
    have hfollowed : fs path ≠ some .overlong := by
      intro hoverlong
      obtain ⟨bytes, hget, -⟩ := hdeep
      rw [hnone hoverlong] at hget
      cases hget
    rw [hsame hfollowed, harchive, hdeep.answer_eq, hdeep.answer_eq]
    exact ⟨rfl, rfl⟩
  refine ⟨⟨fun hanswer => ⟨fun hoverlong => ?_, fun htooDeep => ?_⟩, ?_⟩, hsame, harchive, hlong,
    ?_, hdeep⟩
  · -- no way to agree has a directory that fails otherwise than as an analysis
    rw [(hlong hoverlong).1] at hanswer
    cases hanswer
  · rw [(hdeep htooDeep).1] at hanswer
    cases hanswer
  · rintro ⟨hfollowed, hnotDeep⟩
    rw [hsame hfollowed, harchive]
    exact b.sameAnswer_answer hnotDeep _ _ _ _
  · rintro t rfl hoverlong
    exact FileTree.long_of_overlong hoverlong

open Repository Schedule in
/-- The class is found in both places, while somebody holds it from the directory. -/
theorem directory_interchange_packaged :
    let classes : Path := ⟨.relative, ["classes"]⟩
    let library : Path := ⟨.relative, ["lib.jar"]⟩
    let r := ((onPlace classes).resolve packagedHost "a.B").2
    packagedBundle.InDirectory packagedFiles classes ∧
      (∃ archive, packagedBundle.InArchive archivedFiles library archive) ∧
      Name.Segmented "a.B" ∧ (onPlace classes).Later packagedHost r ∧ r.leases.size = 1 ∧
      (r.found packagedHost "a.B").map (·.name) = .ok "a/B" ∧
      (onPlace library).found ⟨archivedFiles, 1⟩ "a.B" = r.found packagedHost "a.B" := by
  intro classes library r
  obtain ⟨archive, harchive⟩ := packagedBundle_inArchive
  have hname : Name.Segmented "a.B" := by decide +kernel
  have hlater : (onPlace classes).Later packagedHost r := Later.start.resolve "a.B"
  have hfound : (r.found packagedHost "a.B").map (·.name) = .ok "a/B" := by decide +kernel
  have hfollowed : packagedFiles (classes.join (.ofClass "a.B")) ≠ some .overlong := by
    decide +kernel
  refine ⟨packagedBundle_inDirectory, ⟨archive, harchive⟩, hname, hlater, by decide +kernel, hfound,
    ?_⟩
  have hdeep : ¬ packagedBundle.TooDeep 1 "a.B" := by
    rintro ⟨bytes, hget, hread⟩
    rw [(get?_packagedBundle.mp hget).2] at hread
    exact absurd hread (by decide +kernel)
  have hsame := (directory_interchange packagedBundle_inDirectory harchive hname hlater
    .start).1.mpr ⟨hfollowed, hdeep⟩
  obtain ⟨c, hdirectory, -⟩ := map_eq_ok_iff.mp hfound
  rw [hdirectory]
  exact (hsame.ok_iff c).mp hdirectory

open Repository in
/-- **A long name tells an empty directory from an empty archive.** There is no such class in the
archive, but from the directory the path cannot be followed, whatever messages call the two. -/
theorem found_letters_differs :
    let nothing : Bundle := ⟨∅, nofun⟩
    let classes : Path := ⟨.relative, ["classes"]⟩
    let library : Path := ⟨.relative, ["lib.jar"]⟩
    nothing.InDirectory emptyClasses.fileSystem classes ∧
      (∃ archive, nothing.InArchive emptyLibrary.fileSystem library archive) ∧
      Name.Segmented (letters 300) ∧
      (∃ path, (onPlace classes).found ⟨emptyClasses.fileSystem, 1⟩ (letters 300) =
        .error (.misuse (.nameTooLong path))) ∧
      (onPlace library).found ⟨emptyLibrary.fileSystem, 1⟩ (letters 300) =
        .error (notFound (letters 300) ["lib.jar"]) ∧
      ∀ place source place' source', ¬ SameAnswer (letters 300) place source place' source'
        ((onPlace classes).found ⟨emptyClasses.fileSystem, 1⟩ (letters 300))
        ((onPlace library).found ⟨emptyLibrary.fileSystem, 1⟩ (letters 300)) := by
  intro nothing classes library
  have hname : Name.Plain (letters 300) := plain_letters (by decide)
  have hclasses : emptyClasses.fileSystem classes = some .directory := by
    rw [FileTree.fileSystem_of_relative rfl (by decide +kernel) (by decide +kernel)]
    decide +kernel
  have hlibrary : emptyLibrary.fileSystem library = some (.file Archive.ofNothing) := by
    rw [FileTree.fileSystem_of_relative rfl (by decide +kernel) (by decide +kernel)]
    decide +kernel
  have hdirectory : nothing.InDirectory emptyClasses.fileSystem classes := by
    refine ⟨hclasses, fun text _ bytes => iff_of_false ?_ nofun, fun text _ reason => ?_⟩
    · exact FileTree.ne_file_of_no_files rfl _ bytes
    · exact FileTree.ne_unreadable _ reason
  have hempty : (Archive.ofBytes Archive.ofNothing).map (·.members.map (·.name)) = .ok [] := by
    decide +kernel
  obtain ⟨archive, hopened, hmembers⟩ := map_eq_ok_iff.mp hempty
  have harchive : nothing.InArchive emptyLibrary.fileSystem library archive := by
    refine ⟨by decide +kernel, ⟨_, hlibrary, hopened⟩, ?_, nofun⟩
    rw [List.map_eq_nil_iff.mp hmembers]
    exact List.forall_mem_nil _
  have hoverlong : emptyClasses.fileSystem (classes.join (.ofClass (letters 300))) =
      some .overlong := by
    refine overlong_in_emptyClasses hname (fun hnull => ?_) ?_ ?_
    · exact absurd (eq_of_mem_letters hnull) (by decide)
    · rw [utf8ByteSize_letters]
      decide
    · rw [utf8ByteSize_letters]
      decide
  have hlong := found_in_directory emptyClasses.fileSystem 1 classes hname.ne_empty hclasses
  rw [hoverlong] at hlong
  refine ⟨hdirectory, ⟨archive, harchive⟩, hname.segmented, ⟨_, hlong⟩, ?_, ?_⟩
  · rw [found_onPlace_archive harchive hname.ne_empty]
    rfl
  · intro place source place' source' hsame
    rw [hlong] at hsame
    cases hsame

end JvmDeps
