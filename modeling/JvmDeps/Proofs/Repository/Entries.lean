import JvmDeps.Proofs.Repository.Interchange
import Mathlib.Data.List.TakeWhile

set_option autoImplicit false

/-! # Two ways to write a search path

A search path is written as one text with a separator between its entries, or as a list of entries
in a setting. The text is cut at the separators, and its entries are taken one by one; the entries
of a setting are first asked whether there is any that is not blank, then cleared of the blank ones,
and made absolute last. `SearchPath.ofSetting_agrees_ofText` says that both come to the same places
in the same order, whatever the separator, a blank one included.

What they have in common is `SearchPath.writtenPlaces`, the places that some entries stand for; it
asks for characters that are not blank, where the two ask whether anything is left of an entry
without the blanks at its ends (`Text.trim_eq_empty_iff`).
-/

namespace JvmDeps

namespace Text

/-- All characters of the text are blank. -/
def Blank (s : String) : Prop := ∀ c ∈ s.toList, isBlank c = true

instance (s : String) : Decidable (Blank s) := List.decidableBAll _ s.toList

/-- Nothing is left of a text without the blanks at its ends exactly if it is blank. -/
theorem trim_eq_empty_iff (s : String) : trim s = "" ↔ Blank s := by
  have hempty : trim s = "" ↔ trimChars s.toList = [] := by
    rw [trim, ← String.toList_inj, String.toList_ofList]
    rfl
  rw [hempty, trimChars, trimEnd, List.reverse_eq_nil_iff, List.dropWhile_eq_nil_iff]
  constructor
  · -- what stands behind the blanks in front would be empty or start with a character that is not
    -- blank
    intro h
    by_contra hblank
    have hne : s.toList.dropWhile isBlank ≠ [] := fun h => hblank (List.dropWhile_eq_nil_iff.mp h)
    have hhead := List.head_dropWhile_not isBlank hne
    rw [h _ (List.mem_reverse.mpr (List.head_mem hne))] at hhead
    cases hhead
  · intro h c hc
    exact h c ((List.dropWhile_sublist isBlank).subset (List.mem_reverse.mp hc))

/-- A separator of one character cuts a text at that character. -/
theorem splitFrom_singleton (c : Char) (cs : List Char) :
    splitFrom [c] 0 cs = cutWhere (· = c) cs := by
  induction cs with
  | nil => rfl
  | cons d cs ih =>
      have hhere : [c].isPrefixOf (d :: cs) = decide (d = c) := by
        rw [List.isPrefixOf_cons_cons, List.isPrefixOf_nil_left, Bool.and_true]
        exact Bool.beq_comm
      rw [splitFrom, cutWhere, hhere]
      simp only [List.length_singleton, Nat.sub_self, ih]
      rfl

/-- A text that was put together with a separator is cut into the parts again, if the separator is
in none of them. -/
theorem split?_intercalate {c : Char} {parts : List String} (h : ∀ s ∈ parts, c ∉ s.toList)
    (hparts : parts ≠ []) :
    split? (String.singleton c) ((String.singleton c).intercalate parts) = some parts := by
  have hsep : String.singleton c ≠ "" := by
    intro hempty
    have htoList := congrArg String.toList hempty
    rw [String.toList_singleton] at htoList
    cases htoList
  have hcut : cutWhere (· = c) ([c].intercalate (parts.map String.toList)) =
      parts.map String.toList := by
    rw [cutWhere_eq_splitOnP]
    apply List.splitOn_intercalate c
    · intro l hl
      obtain ⟨s, hs, rfl⟩ := List.mem_map.mp hl
      exact h s hs
    · rwa [Ne, List.map_eq_nil_iff]
  rw [split?, if_neg hsep, String.toList_singleton, splitFrom_singleton, String.toList_intercalate,
    String.toList_singleton, hcut, List.map_map]
  exact congrArg some (List.map_id'' (fun s => String.ofList_toList) parts)

end Text

namespace SearchPath

/-- The places that some entries stand for: those that are not blank, from a directory on. -/
def writtenPlaces (root : Path) (entries : List String) : List Path :=
  (entries.filter fun s => ¬ Text.Blank s).map fun s => root.join (.ofText (Text.trim s))

/-- Going on from a directory leaves an absolute path alone by itself. -/
theorem ite_isAbsolute_join (root path : Path) :
    (if path.isAbsolute then path else root.join path) = root.join path := by
  rw [Path.join]
  split <;> rfl

/-- The entries of a text are read one by one to the places they stand for. -/
theorem placesOf_eq (root : Path) (entries : List String) :
    placesOf (some root) entries = writtenPlaces root entries := by
  induction entries with
  | nil => rfl
  | cons entry entries ih =>
      rw [placesOf, writtenPlaces]
      by_cases hblank : Text.Blank entry
      · rw [if_pos ((Text.trim_eq_empty_iff entry).mpr hblank), ih,
          List.filter_cons_of_neg (by simp [hblank])]
        rfl
      · rw [if_neg (mt (Text.trim_eq_empty_iff entry).mp hblank), ih,
          List.filter_cons_of_pos (by simp [hblank]), List.map_cons]
        simp only [ite_isAbsolute_join, writtenPlaces]

/-- The paths in a setting lead to the places its entries stand for. -/
theorem map_settingPaths_eq (root : Path) (entries : List String) :
    ((settingPaths entries).map fun path => if path.isAbsolute then path else root.join path) =
      writtenPlaces root entries := by
  simp only [settingPaths, writtenPlaces, ite_isAbsolute_join, List.map_map, ne_eq,
    Text.trim_eq_empty_iff, Function.comp_def]

theorem writtenPlaces_eq_nil_iff (root : Path) (entries : List String) :
    writtenPlaces root entries = [] ↔ ∀ s ∈ entries, Text.Blank s := by
  simp [writtenPlaces]

/-- **A search path can be written either way.** Take a list of entries and a character that is in
none of them. If some entry is not blank, the setting with the list and the text of the entries
with the character between them are read to the same search path: that of the entries that are not
blank, in their order, without the blanks at their ends, the relative ones from the root on. If all
are blank, or there are none, the setting is a usage error and the text a value error. -/
theorem ofSetting_agrees_ofText (root : Path) (separator : Char) (entries : List String)
    (h : ∀ s ∈ entries, separator ∉ s.toList) :
    let setting := ofSetting (.list (entries.map .text)) root
    let text := ofText ((String.singleton separator).intercalate entries)
      (String.singleton separator) (some root)
    ((∃ s ∈ entries, ¬ Text.Blank s) →
      ∃ path : SearchPath, setting = .ok path ∧ text = .ok path ∧
        path.entries = writtenPlaces root entries) ∧
    ((∀ s ∈ entries, Text.Blank s) →
      (∃ m, setting = .error (.misuse m) ∧ m.kindName = "UsageError") ∧
      ∃ m, text = .error (.misuse m) ∧ m.kindName = "ValueError") := by
  have hentries : settingEntries (.list (entries.map .text)) = entries := by
    rw [settingEntries, List.map_map]
    exact List.map_id'' (fun _ => rfl) entries
  have hany : (entries.any fun s => decide (Text.trim s ≠ "")) = true ↔
      ∃ s ∈ entries, ¬ Text.Blank s := by
    simp [Text.trim_eq_empty_iff]
  have hsetting : ofSetting (.list (entries.map .text)) root =
      if ∃ s ∈ entries, ¬ Text.Blank s then ofEntries (writtenPlaces root entries)
      else .error (.misuse .notConfigured) := by
    simp only [ofSetting, hentries, map_settingPaths_eq, hany]
  have htext : ofText ((String.singleton separator).intercalate entries)
      (String.singleton separator) (some root) = ofEntries (writtenPlaces root entries) := by
    rw [ofText]
    cases entries with
    | nil =>
        -- no entries make the empty text, which is cut into one blank entry
        have hsplit : Text.split? (String.singleton separator)
            ((String.singleton separator).intercalate [""]) = some [""] :=
          Text.split?_intercalate (List.forall_mem_singleton.mpr List.not_mem_nil)
            (List.cons_ne_nil _ _)
        rw [String.intercalate_singleton] at hsplit
        rw [String.intercalate_nil, hsplit]
        rfl
    | cons entry entries =>
        rw [Text.split?_intercalate h (List.cons_ne_nil _ _)]
        simp only [placesOf_eq]
  refine ⟨fun hsome => ?_, fun hnone => ?_⟩
  · have hplaces : writtenPlaces root entries ≠ [] := by
      rw [Ne, writtenPlaces_eq_nil_iff]
      push Not
      exact hsome
    refine ⟨⟨writtenPlaces root entries, hplaces⟩, ?_, ?_, rfl⟩
    · show ofSetting _ _ = _
      rw [hsetting, if_pos hsome, ofEntries, dif_neg hplaces]
    · show ofText _ _ _ = _
      rw [htext, ofEntries, dif_neg hplaces]
  · have hnot : ¬ ∃ s ∈ entries, ¬ Text.Blank s := by
      push Not
      exact hnone
    refine ⟨⟨.notConfigured, ?_, rfl⟩, .emptySearchPath, ?_, rfl⟩
    · show ofSetting _ _ = _
      rw [hsetting, if_neg hnot]
    · show ofText _ _ _ = _
      rw [htext, ofEntries, dif_pos ((writtenPlaces_eq_nil_iff root entries).mpr hnone)]

/-- The blank between the entries is a separator of its own; one entry is blank, one is absolute. -/
theorem ofSetting_agrees_ofText_blank :
    ∃ path : SearchPath,
      ofSetting (.list [.text "\tlib", .text "\u2003", .text "/opt/a.jar"]) ⟨.single, ["root"]⟩ =
        .ok path ∧
      ofText "\tlib \u2003 /opt/a.jar" " " (some ⟨.single, ["root"]⟩) = .ok path ∧
      path.entries = [⟨.single, ["root", "lib"]⟩, ⟨.single, ["opt", "a.jar"]⟩] := by
  obtain ⟨path, hsetting, htext, hentries⟩ :=
    (ofSetting_agrees_ofText ⟨.single, ["root"]⟩ ' ' ["\tlib", "\u2003", "/opt/a.jar"]
      (by decide)).1 (by decide +kernel)
  exact ⟨path, hsetting, htext, hentries.trans (by decide +kernel)⟩

end SearchPath

end JvmDeps
