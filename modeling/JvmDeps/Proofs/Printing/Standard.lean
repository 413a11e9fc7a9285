import JvmDeps.Printing.Standard
import JvmDeps.Proofs.Data.Paired
import JvmDeps.Proofs.Printing.Columns
import JvmDeps.Proofs.Printing.Tags

set_option autoImplicit false

/-! # The standard printer is lawful

`Printer.lawful_standard`: the standard printer keeps to the laws of printers. What it reads of
markup is put together from its tags (`markup_of_stands`, `markup_of_unmatched`); how it lays out a
table, from what its columns show (`laysOut_bareTable`).
-/

namespace JvmDeps

open Text

namespace Printer

/-! ## Markup -/

theorem markup_standard_eq_ok_iff {s shown : String} :
    standard.markup s = .ok shown ↔
      ∃ text, readMarkup s = .ok text ∧ String.ofList text.chars = shown :=
  map_eq_ok_iff

theorem reads_standard_iff {s : String} :
    standard.Reads s ↔ ∃ text, readMarkup s = .ok text := by
  simp only [Reads, markup_standard_eq_ok_iff]
  constructor
  · rintro ⟨_, text, htext, -⟩
    exact ⟨text, htext⟩
  · rintro ⟨text, htext⟩
    exact ⟨_, text, htext, rfl⟩

theorem markup_of_render {s shown : String} {spans : List Span}
    (h : Markup.render s = .ok ⟨shown.toList, spans⟩) : standard.markup s = .ok shown := by
  rw [markup_standard_eq_ok_iff]
  refine ⟨⟨shown.toList, spans⟩, ?_, String.ofList_toList⟩
  rw [readMarkup, h]
  rfl

/-- **Tags are consumed as styles.** -/
theorem markup_of_stands {s shown : String} (h : Markup.Stands s shown) :
    standard.markup s = .ok shown := by
  cases h with
  | inert h =>
      have hrender := Markup.render_of_plain (Markup.plain_of_inert h)
      rw [String.ofList_toList] at hrender
      exact markup_of_render hrender
  | @styled style front rest hstyle h hrest =>
      obtain ⟨name, hopens⟩ : ∃ name, Markup.Opens style name := by
        rcases List.mem_pair.mp hstyle with rfl | rfl
        · exact ⟨_, Markup.opens_boldCyan⟩
        · have htag : Markup.IsTag "dim" := ⟨by decide, by decide⟩
          obtain ⟨name, hopens, -⟩ := Markup.exists_opens htag
          exact ⟨name, hopens⟩
      obtain ⟨spans, hrender⟩ := hopens.render_styled h.fronts (Markup.plain_of_inert hrest)
      rw [← String.toList_append] at hrender
      refine @markup_of_render _ _ spans ?_
      rw [Markup.render, ← hrender]
      simp
  | @tagged front tag rest h htag hrest =>
      obtain ⟨name, hopens, -⟩ := Markup.exists_opens htag
      obtain ⟨spans, hrender⟩ := hopens.render_tagged h.fronts (Markup.plain_of_inert hrest)
      rw [← String.toList_append] at hrender
      refine @markup_of_render _ _ spans ?_
      rw [Markup.render, ← hrender]
      simp

/-- **A closing tag that closes nothing is refused.** -/
theorem markup_of_unmatched {s : String} (h : Markup.Unmatched s) :
    standard.markup s = .error (.misuse .badMarkup) ∧
      standard.markup ("[bold cyan]" ++ s) = .error (.misuse .badMarkup) := by
  obtain ⟨front, tag, rest, hfront, htag, rfl⟩ := h
  obtain ⟨name, hopens, hne⟩ := Markup.exists_opens htag
  have hrefused {s : String} (hrender : Markup.render s = .error .malformed) :
      standard.markup s = .error (.misuse .badMarkup) := by
    simp only [standard, readMarkup, hrender]
    rfl
  constructor
  · apply hrefused
    rw [Markup.render, ← hopens.render_unmatched hfront.fronts rest.toList
      (show Markup.take? name [] = none from rfl)]
    simp
  · apply hrefused
    have htags : Markup.take? name [⟨0, "bold cyan", none⟩] = none := by
      simp [Markup.take?, Ne.symm hne]
    rw [Markup.render, ← hopens.render_unmatched hfront.fronts rest.toList htags,
      ← Markup.opens_boldCyan.render_opened]
    simp

/-! ## Cells -/

/-- The cells of one character are those that it takes by itself. -/
theorem cells_singleton (c : Char) : Text.cells [c] = charCells c := by
  by_cases hacting : isActing c = false
  · have hindependent : Independent [c] := List.forall_mem_singleton.mpr hacting
    rw [cells_eq_cellSum hindependent, cellSum_cons, cellSum_nil, Nat.add_zero]
  · have hchars : c = '\u200d' ∨ c = '\ufe0f' ∨ c = '\n' ∨ c = '\t' := by
      rw [Bool.not_eq_false] at hacting
      simpa [isActing, or_assoc] using hacting
    rcases hchars with rfl | rfl | rfl | rfl <;> decide +kernel

theorem uniform_standard_iff {cs : List Char} : standard.Uniform cs ↔ Text.Uniform cs := by
  simp only [Printer.Uniform, Text.Uniform, standard, cells_singleton]

theorem fits_standard_iff {room : Nat} {cs : List Char} :
    standard.Fits room cs ↔ Text.Fits room cs :=
  and_congr_left fun _ => uniform_standard_iff

/-- The printable characters of ASCII take one cell each. -/
theorem cells_ascii {cs : List Char} (h : Ascii cs) : Text.cells cs = cs.length := by
  rw [cells_eq_cellSum h.independent]
  apply cellSum_of_one
  intro c hc
  obtain ⟨hlow, hhigh⟩ := h c hc
  simp [charCells, hlow, hhigh]

/-- What a cut leaves of a text is its beginning, and perhaps a blank. -/
theorem exists_takeCells (total : Nat) (gs : List Grapheme) :
    ∃ front blanks, takeCells total gs = front ++ blanks ∧
      front <+: gs.flatMap Grapheme.chars ∧ ∀ c ∈ blanks, isBlank c = true := by
  induction gs generalizing total with
  | nil => exact ⟨[], [], by rw [takeCells]; rfl, List.nil_prefix, by simp⟩
  | cons g gs ih =>
      cases total with
      | zero => exact ⟨[], [], by rw [takeCells]; rfl, List.nil_prefix, by simp⟩
      | succ total =>
          rw [takeCells]
          split
          · obtain ⟨front, blanks, htake, hfront, hblanks⟩ := ih (total + 1 - g.cells)
            refine ⟨g.chars ++ front, blanks, ?_, ?_, hblanks⟩
            · rw [htake, List.append_assoc]
            · rw [List.flatMap_cons]
              exact (List.prefix_append_right_inj _).mpr hfront
          · exact ⟨[], [' '], rfl, List.nil_prefix, List.forall_mem_singleton.mpr (by decide)⟩

/-- A word that is cut shows its beginning and an ellipsis. -/
theorem exists_inked_clip {room : Nat} {cs : List Char} (h : Solid cs)
    (hwide : room < Text.cells cs) :
    ∃ front, front <+: cs ∧ inked (clip room cs) = front ++ ['…'] := by
  obtain ⟨front, blanks, htake, hfront, hblanks⟩ := exists_takeCells (room - 1) (graphemes cs)
  rw [flatMap_graphemes] at hfront
  refine ⟨front, hfront, ?_⟩
  have hsolid : Solid front := fun c hc => h c (hfront.subset hc)
  have hdots : inked ['…'] = ['…'] := by decide
  rw [clip, if_neg (by omega), fit, if_neg (by omega), htake, inked_append, inked_append,
    inked_of_solid hsolid, inked_of_blank hblanks, List.append_nil, hdots]

/-- A word that fits has room as a whole. -/
theorem cells_le_of_fits {room : Nat} {cs : List Char} (hsolid : Solid cs)
    (h : Text.Fits room cs) : Text.cells cs ≤ room := by
  by_cases hne : cs = []
  · rw [hne]
    exact Nat.zero_le room
  · have hword := h.2 cs (by rw [lineWords_of_solid hne hsolid]; simp)
    rwa [trimEnd_of_solid hsolid] at hword

/-- **The lines of a cell show an orderly text**: as a whole if it fits, otherwise cut. -/
theorem exists_lays {room : Nat} {content : StyledText}
    (h : standard.Orderly room content.chars)
    (hroom : Solid content.chars → 0 < room ∨ Text.cells content.chars ≤ room) :
    ∃ ink, Console.Lays room content ink ∧ standard.Shows room content.chars ink := by
  obtain ⟨hindependent, hkind⟩ := h
  by_cases hfits : Text.Fits room content.chars
  · refine ⟨_, Console.lays_of_fits hindependent hfits, fun _ => rfl, fun hsolid hwide => ?_⟩
    exact absurd (cells_le_of_fits hsolid hfits) (Nat.not_le.mpr hwide)
  · have hsolid : Solid content.chars :=
      hkind.resolve_left fun h => hfits (fits_standard_iff.mp h)
    refine ⟨_, Console.lays_of_word hindependent hsolid (hroom hsolid), fun h => ?_,
      exists_inked_clip⟩
    exact absurd (fits_standard_iff.mp h) hfits

theorem sideBySide_standard {widths : Nat × Nat} {left right : List Char}
    {lines : List (List Char)} (h : Console.SideBySide widths left right lines) :
    standard.SideBySide widths left right lines := by
  obtain ⟨ls, rs, hlength, hlines, hleft, hright⟩ := h
  exact ⟨ls, rs, hlength, hlines, ⟨fun line hline => (hleft.cells line hline).2, hleft.ink⟩,
    ⟨fun line hline => (hright.cells line hline).2, hright.ink⟩⟩

/-! ## Tables -/

/-- The content is what a row of texts stands for. -/
def IsRead (row : String × String) (content : Console.Row) : Prop :=
  readMarkup row.1 = .ok content.1 ∧ readMarkup row.2 = .ok content.2

theorem IsRead.chars {row : String × String} {content : Console.Row} (h : IsRead row content)
    {first second : String} (hfirst : standard.markup row.1 = .ok first)
    (hsecond : standard.markup row.2 = .ok second) :
    first.toList = content.1.chars ∧ second.toList = content.2.chars := by
  obtain ⟨left, hleft, rfl⟩ := markup_standard_eq_ok_iff.mp hfirst
  obtain ⟨right, hright, rfl⟩ := markup_standard_eq_ok_iff.mp hsecond
  rw [h.1] at hleft
  rw [h.2] at hright
  cases hleft
  cases hright
  exact ⟨String.toList_ofList, String.toList_ofList⟩

section Table

variable {console : Console} (hwide : 20 ≤ console.width) {contents : List Console.Row}

/-- The widths of the columns. -/
def widthsOf (console : Console) (contents : List Console.Row) : Nat × Nat :=
  Console.narrow console.width (Console.columnWidths contents)

include hwide

/-- The columns have room for the blanks, and some more where a content needs it. -/
theorem room_of_mem {content : Console.Row} (h : content ∈ contents) :
    2 ≤ (widthsOf console contents).1 ∧ 2 ≤ (widthsOf console contents).2 ∧
      (Solid content.1.chars → 0 < (widthsOf console contents).1 - 2 ∨
        Text.cells content.1.chars ≤ (widthsOf console contents).1 - 2) ∧
      (Solid content.2.chars → 0 < (widthsOf console contents).2 - 2 ∨
        Text.cells content.2.chars ≤ (widthsOf console contents).2 - 2) := by
  have htotal : 0 < console.width := by omega
  obtain ⟨-, hfirst, hsecond⟩ := Console.narrow_spec htotal (Console.columnWidths contents)
  have hfirstRoom : 2 + Console.textWidth content.1 ≤ (Console.columnWidths contents).1 :=
    Console.le_columnWidth (List.mem_map_of_mem h)
  have hsecondRoom : 2 + Console.textWidth content.2 ≤ (Console.columnWidths contents).2 :=
    Console.le_columnWidth (List.mem_map_of_mem h)
  rw [widthsOf]
  refine ⟨by omega, by omega, fun hsolid => ?_, fun hsolid => ?_⟩
  · rw [← Console.textWidth_of_uniform (.inl hsolid)]
    omega
  · rw [← Console.textWidth_of_uniform (.inl hsolid)]
    omega

theorem within_widthsOf (contents : List Console.Row) :
    (widthsOf console contents).1 + (widthsOf console contents).2 ≤ console.width :=
  (Console.narrow_spec (by omega) _).1

/-- **A row shows what its texts stand for.** -/
theorem showsRow_of_mem (styles : Style × Style) {row : String × String} {content : Console.Row}
    (hmem : content ∈ contents) (hread : IsRead row content) {first second : String}
    (hfirst : standard.markup row.1 = .ok first) (hsecond : standard.markup row.2 = .ok second)
    (hleft : standard.Orderly ((widthsOf console contents).1 - 2) first.toList)
    (hright : standard.Orderly ((widthsOf console contents).2 - 2) second.toList) :
    standard.ShowsRow (widthsOf console contents) first.toList second.toList
      (console.bareRow styles (widthsOf console contents) content) := by
  obtain ⟨hfirstChars, hsecondChars⟩ := hread.chars hfirst hsecond
  obtain ⟨htwoFirst, htwoSecond, hfirstRoom, hsecondRoom⟩ := room_of_mem hwide hmem
  rw [hfirstChars] at hleft ⊢
  rw [hsecondChars] at hright ⊢
  obtain ⟨leftInk, hlaysLeft, hshowsLeft⟩ := exists_lays hleft hfirstRoom
  obtain ⟨rightInk, hlaysRight, hshowsRight⟩ := exists_lays hright hsecondRoom
  exact ⟨leftInk, rightInk, sideBySide_standard (Console.bareRow_sideBySide
    (within_widthsOf hwide contents) htwoFirst htwoSecond styles hlaysLeft hlaysRight),
    hshowsLeft, hshowsRight⟩

end Table

/-- The contents of a column that the markup of a text stands for. -/
theorem textWidth_le_of_within {room : Nat} {markup : String} {text : StyledText}
    (h : standard.Within room markup) (hread : readMarkup markup = .ok text) :
    Console.textWidth text ≤ room := by
  obtain ⟨-, huniform, hcells⟩ :=
    h _ (markup_standard_eq_ok_iff.mpr ⟨text, hread, rfl⟩)
  rw [String.toList_ofList] at huniform hcells
  rw [Console.textWidth_of_uniform (uniform_standard_iff.mp huniform)]
  exact hcells

/-- A text that is no wider than its column has room there. -/
theorem hasRoom_of_within {room width : Nat} {markup : String} {text : StyledText}
    (h : standard.Within room markup) (hread : readMarkup markup = .ok text)
    (hwidth : 2 + Console.textWidth text ≤ width) : standard.HasRoom (width - 2) markup := by
  intro shown hshown
  obtain ⟨hindependent, huniform, -⟩ := h shown hshown
  obtain ⟨other, hother, rfl⟩ := markup_standard_eq_ok_iff.mp hshown
  rw [hread] at hother
  cases hother
  rw [String.toList_ofList] at hindependent huniform ⊢
  rw [uniform_standard_iff] at huniform
  rw [Console.textWidth_of_uniform huniform] at hwidth
  exact fits_standard_iff.mpr (fits_of_cells_le hindependent huniform (by omega))

/-- The blocks of lines of a table without colors. -/
def bareTable (console : Console) (headingStyle : Style) (styles : Style × Style)
    (headings : Console.Row) (rows : List Console.Row) : List (List (List Char)) :=
  let widths := widthsOf console (headings :: rows)
  console.bareRow (headingStyle, headingStyle) widths headings ::
    rows.map (console.bareRow styles widths)

theorem tableLines_eq {console : Console} (hcolor : console.color = false) (headingStyle : Style)
    (styles : Style × Style) (headings : Console.Row) (rows : List Console.Row) :
    console.tableLines headingStyle styles headings rows =
      unlines (bareTable console headingStyle styles headings rows).flatten := by
  have hrows (styles : Style × Style) (widths : Nat × Nat) :
      console.rowLines styles widths = unlines ∘ console.bareRow styles widths :=
    funext fun row => Console.rowLines_eq hcolor styles widths row
  simp only [Console.tableLines, bareTable, widthsOf, hrows, Function.comp_apply,
    List.flatten_cons, unlines_append, Console.unlines_flatten, List.map_map]

/-- Columns that have room for their widest contents are not narrowed. -/
theorem hasRoom_of_mem {console : Console} {table : Table} {contents : List Console.Row}
    (h : List.Forall₂ IsRead table.grid contents) {first second : Nat}
    (hroom : first + second + 4 ≤ console.width)
    (hwithin : ∀ row ∈ table.grid, standard.Within first row.1 ∧ standard.Within second row.2)
    {row : String × String} (hrow : row ∈ table.grid) :
    standard.HasRoom ((widthsOf console contents).1 - 2) row.1 ∧
      standard.HasRoom ((widthsOf console contents).2 - 2) row.2 := by
  have hasked : ∀ content ∈ contents,
      Console.textWidth content.1 ≤ first ∧ Console.textWidth content.2 ≤ second := by
    intro content hcontent
    obtain ⟨row, hrow, hread⟩ := exists_left_of_forall₂ h hcontent
    obtain ⟨hfirst, hsecond⟩ := hwithin row hrow
    exact ⟨textWidth_le_of_within hfirst hread.1, textWidth_le_of_within hsecond hread.2⟩
  have hfirst : (Console.columnWidths contents).1 ≤ 2 + first :=
    Console.columnWidth_le (List.forall_mem_map.mpr fun content hcontent =>
      (hasked content hcontent).1)
  have hsecond : (Console.columnWidths contents).2 ≤ 2 + second :=
    Console.columnWidth_le (List.forall_mem_map.mpr fun content hcontent =>
      (hasked content hcontent).2)
  have hwidths : widthsOf console contents = Console.columnWidths contents :=
    Console.narrow_of_le (by omega)
  obtain ⟨content, hcontent, hread⟩ := exists_right_of_forall₂ h hrow
  rw [hwidths]
  exact ⟨hasRoom_of_within (hwithin row hrow).1 hread.1
      (Console.le_columnWidth (List.mem_map_of_mem hcontent)),
    hasRoom_of_within (hwithin row hrow).2 hread.2
      (Console.le_columnWidth (List.mem_map_of_mem hcontent))⟩

/-- **A table is laid out in columns.** -/
theorem laysOut_bareTable {console : Console} (hwide : 20 ≤ console.width) {table : Table}
    (headingStyle : Style) (styles : Style × Style) {headings : Console.Row}
    {rows : List Console.Row} (h : List.Forall₂ IsRead table.grid (headings :: rows)) :
    standard.LaysOut console table (widthsOf console (headings :: rows))
      (bareTable console headingStyle styles headings rows) := by
  constructor
  · exact within_widthsOf hwide _
  · obtain ⟨hheadings, hrows⟩ := List.forall₂_cons.mp h
    refine .cons ?_ (List.forall₂_map_right_iff.mpr (forall₂_imp_of_mem hrows ?_))
    · intro first second hfirst hsecond hleft hright
      exact showsRow_of_mem hwide _ (by simp) hheadings hfirst hsecond hleft hright
    · intro row content hcontent hread first second hfirst hsecond hleft hright
      exact showsRow_of_mem hwide _ (List.mem_cons_of_mem _ hcontent) hread hfirst hsecond hleft
        hright
  · intro first second hroom hwithin row hrow
    exact hasRoom_of_mem h hroom hwithin hrow

/-- What is printed of a table was read row by row. -/
theorem printTable_eq_ok_iff {console : Console} {table : Table} {text : String} :
    printTable console table = .ok text ↔
      ∃ headings rows, List.Forall₂ IsRead table.grid (headings :: rows) ∧
        console.tableLines (styleNamed table.headingStyle)
          (styleNamed table.first.style, styleNamed table.second.style) headings rows = text := by
  rw [printTable]
  simp only [bind_eq_ok_iff, pure_eq_ok_iff, mapM_eq_ok_iff, Table.grid]
  constructor
  · rintro ⟨firstHeading, hfirst, first, hfirsts, secondHeading, hsecond, second, hseconds, rfl⟩
    exact ⟨(firstHeading, secondHeading), first.zip second,
      .cons ⟨hfirst, hsecond⟩ (forall₂_zip hfirsts hseconds), rfl⟩
  · rintro ⟨headings, rows, hgrid, rfl⟩
    obtain ⟨⟨hfirst, hsecond⟩, hrows⟩ := List.forall₂_cons.mp hgrid
    refine ⟨headings.1, hfirst, rows.map Prod.fst, ?_, headings.2, hsecond, rows.map Prod.snd,
      ?_, ?_⟩
    · exact List.forall₂_map_right_iff.mpr (hrows.imp fun _ _ h => h.1)
    · exact List.forall₂_map_right_iff.mpr (hrows.imp fun _ _ h => h.2)
    · rw [List.zip_map', List.map_id']

/-- A table is printed if all its texts can be read. -/
theorem exists_printTable_iff {console : Console} {table : Table} :
    (∃ text, printTable console table = .ok text) ↔
      ∀ row ∈ table.grid, standard.Reads row.1 ∧ standard.Reads row.2 := by
  simp only [reads_standard_iff]
  constructor
  · rintro ⟨text, htext⟩ row hrow
    obtain ⟨headings, rows, hgrid, -⟩ := printTable_eq_ok_iff.mp htext
    obtain ⟨content, -, hfirst, hsecond⟩ := exists_right_of_forall₂ hgrid hrow
    exact ⟨⟨_, hfirst⟩, ⟨_, hsecond⟩⟩
  · intro h
    have hread : ∀ row ∈ table.grid, ∃ content, IsRead row content := by
      intro row hrow
      obtain ⟨⟨first, hfirst⟩, ⟨second, hsecond⟩⟩ := h row hrow
      exact ⟨(first, second), hfirst, hsecond⟩
    obtain ⟨contents, hgrid⟩ := exists_forall₂ hread
    -- the grid starts with the headings, and so do the contents
    obtain ⟨headings, rows, -, -, rfl⟩ := List.forall₂_cons_left_iff.mp hgrid
    exact ⟨_, printTable_eq_ok_iff.mpr ⟨headings, rows, hgrid, rfl⟩⟩

/-- **The standard printer keeps to the laws of printers.** -/
theorem lawful_standard : standard.Lawful where
  stands := markup_of_stands
  unmatched := markup_of_unmatched
  ascii := cells_ascii
  newline _ := rfl
  unreadable console markup fault hfault := map_eq_error_iff.mpr (map_eq_error_iff.mp hfault)
  text console markup shown hcolor hwide hshown := by
    obtain ⟨text, htext, rfl⟩ := markup_standard_eq_ok_iff.mp hshown
    refine ⟨console.bareText text, ?_, fun hvisible => ?_⟩
    · simp only [standard, printCall, htext, Except.map, Console.textLines_eq hcolor]
    · rw [Printer.Visible, String.toList_ofList] at hvisible
      rw [String.toList_ofList]
      exact Console.inked_bareText (by omega) hvisible.1
  table_iff _ _ := exists_printTable_iff
  table console table text hcolor hwide htext := by
    obtain ⟨headings, rows, hgrid, rfl⟩ := printTable_eq_ok_iff.mp htext
    exact ⟨_, _, tableLines_eq hcolor _ _ _ _, laysOut_bareTable hwide _ _ hgrid⟩

end Printer

end JvmDeps
