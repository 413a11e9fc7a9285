import JvmDeps.Proofs.Data.Outcome
import JvmDeps.Proofs.Dependency.Semilattice
import JvmDeps.Proofs.Printing.Standard
import JvmDeps.Report.Reporter

set_option autoImplicit false

/-! # What a terminal report lists

Names are handed to the printer as markup, so a report is made exactly if every name of the table
can be read as markup (`exists_report_iff`), and it shows what the markup of a name stands for. Of
names in which nothing is markup the report without colors lists all, category by category, as far
as the columns have room for them; a tag in a name is not shown, and a closing tag in a name leaves
no report (`report_terminal_shows`).

All this holds of every printer that keeps to the laws of `Printer.Lawful`.
-/

namespace JvmDeps

open Markup Text

namespace Terminal

/-! ## The line about a class -/

/-- The number of dependencies, behind the name of a class. -/
def countText (n : Nat) : String := " (" ++ toString n ++ " dependencies)"

/-- The line about a class as it is to be read. -/
def titleText (table : DependencyTable) : String := table.className ++ countText table.size

/-- The characters of a count are printable, and none takes part in markup. -/
theorem mem_countText {n : Nat} {c : Char} (hc : c ∈ (countText n).toList) :
    isInert c = true ∧ 0x20 ≤ c.toNat ∧ c.toNat < 0x7f := by
  have hword {s : String} (hs : s ∈ [" (", " dependencies)"]) (hc : c ∈ s.toList) :
      isInert c = true ∧ 0x20 ≤ c.toNat ∧ c.toNat < 0x7f := by
    have hplain : ∀ s ∈ [" (", " dependencies)"], Inert s ∧ Ascii s.toList := by decide
    exact ⟨List.all_eq_true.mp (hplain s hs).1 c hc, (hplain s hs).2 c hc⟩
  simp only [countText, String.toList_append, Nat.toString_eq_repr, Nat.toList_repr,
    List.mem_append] at hc
  rcases hc with (hc | hc) | hc
  · exact hword (by decide) hc
  · have hdigit : c.isDigit = true := Nat.isDigit_of_mem_toDigits (by decide) (by decide) hc
    obtain ⟨hlow, hhigh⟩ : 48 ≤ c.toNat ∧ c.toNat ≤ 57 := Char.isDigit_iff_toNat.mp hdigit
    have hne {d : Char} (hd : 57 < d.toNat) : c ≠ d := by
      rintro rfl
      omega
    have hbracket : c ≠ '[' := hne (by decide)
    have hcolon : c ≠ ':' := hne (by decide)
    have hcontrol : c.toNat ∉ [7, 8, 11, 12, 13] := by
      simp only [List.mem_cons, List.not_mem_nil, or_false, not_or]
      omega
    exact ⟨by simpa [isInert, hbracket, hcolon] using hcontrol, by omega, by omega⟩
  · exact hword (by decide) hc

theorem inert_countText (n : Nat) : Inert (countText n) :=
  List.all_eq_true.mpr fun _ hc => (mem_countText hc).1

theorem ascii_countText (n : Nat) : Ascii (countText n).toList :=
  fun _ hc => (mem_countText hc).2

theorem titleMarkup_eq (table : DependencyTable) :
    titleMarkup table = "[bold cyan]" ++ (table.className ++ "[/bold cyan]" ++
      countText table.size) := by
  have hclosing : "[/bold cyan] (".toList = "[/bold cyan]".toList ++ " (".toList := by decide
  rw [← String.toList_inj]
  simp only [titleMarkup, countText, String.toList_append, hclosing, List.append_assoc]

/-- The line about a class with an inert name stands for the name and the count. -/
theorem stands_titleMarkup {table : DependencyTable} (h : Leading table.className) :
    Stands (titleMarkup table) (titleText table) := by
  have hstyle : "bold cyan" ∈ ["bold cyan", "dim"] := by decide
  have hstyled := Stands.styled hstyle h (inert_countText table.size)
  have hmarkup : titleMarkup table = "[" ++ "bold cyan" ++ "]" ++ table.className ++
      ("[/" ++ "bold cyan" ++ "]") ++ countText table.size := by
    have hopening : "[" ++ "bold cyan" ++ "]" = "[bold cyan]" := by decide
    have hclosing : "[/" ++ "bold cyan" ++ "]" = "[/bold cyan]" := by decide
    rw [titleMarkup_eq, hopening, hclosing, ← String.append_assoc, ← String.append_assoc]
  rw [hmarkup, titleText]
  simpa only [String.append_assoc] using hstyled

theorem Unmatched.append {s : String} (h : Unmatched s) (more : String) :
    Unmatched (s ++ more) := by
  obtain ⟨front, tag, rest, hfront, htag, rfl⟩ := h
  exact ⟨front, tag, rest ++ more, hfront, htag, by rw [String.append_assoc]⟩

/-! ## Rows -/

/-- The text in front of a name: the word of a category, or nothing. -/
def IsLabel (s : String) : Prop := s = "" ∨ ∃ category : Category, s = category.word

/-- A label is one word of printable characters, none of which takes part in markup. -/
theorem IsLabel.plain {s : String} (h : IsLabel s) :
    Inert s ∧ Solid s.toList ∧ Ascii s.toList := by
  rcases h with rfl | ⟨category, rfl⟩
  · decide
  · cases category <;> decide

theorem map_labelled (label : String) (names : List String) :
    (labelled label names).map Prod.snd = names := by
  induction names generalizing label with
  | nil => rfl
  | cons name names ih => rw [labelled, List.map_cons, ih]

theorem isLabel_of_mem_labelled {label : String} (h : IsLabel label) {names : List String} :
    ∀ entry ∈ labelled label names, IsLabel entry.1 := by
  induction names generalizing label with
  | nil => simp [labelled]
  | cons name names ih => exact List.forall_mem_cons.mpr ⟨h, ih (.inl rfl)⟩

theorem mem_rows_iff {t : Terminal} {table : DependencyTable} {entry : String × String} :
    entry ∈ t.rows table ↔ ∃ category names, table.get? category = some names ∧
      entry ∈ t.categoryRows category names := by
  rw [rows, List.mem_flatMap]
  constructor
  · rintro ⟨category, -, hentry⟩
    cases hget : table.get? category with
    | none => simp [hget] at hentry
    | some names => exact ⟨category, names, hget, by simpa [hget] using hentry⟩
  · rintro ⟨category, names, hget, hentry⟩
    exact ⟨category, category.mem_all, by simpa [hget] using hentry⟩

/-- Every row has a label, and the name of a dependency or a dash. -/
theorem of_mem_rows {t : Terminal} {table : DependencyTable} {entry : String × String}
    (h : entry ∈ t.rows table) :
    IsLabel entry.1 ∧ (entry.2 ∈ table.merged ∨ entry.2 = "[dim]-[/dim]") := by
  obtain ⟨category, names, hget, hentry⟩ := mem_rows_iff.mp h
  have hlabel : IsLabel category.word := .inr ⟨category, rfl⟩
  rw [categoryRows] at hentry
  split at hentry
  · split at hentry
    · obtain rfl := List.mem_singleton.mp hentry
      exact ⟨hlabel, .inr rfl⟩
    · cases hentry
  · refine ⟨isLabel_of_mem_labelled hlabel entry hentry, .inl ?_⟩
    have hname := List.mem_map_of_mem (f := Prod.snd) hentry
    rw [map_labelled] at hname
    exact DependencyTable.mem_merged_iff_get?.mpr ⟨category, names, hget, hname⟩

/-- **The names of a computed category stand one below the other, in their order**, behind the word
of the category. -/
theorem labelled_infix_rows (t : Terminal) {table : DependencyTable} {category : Category}
    {names : NameSet} (hget : table.get? category = some names) (hne : names.toList ≠ []) :
    labelled category.word names.toList <:+: t.rows table := by
  have hrows : labelled category.word names.toList =
      (table.get? category).elim [] (t.categoryRows category) := by
    rw [hget, Option.elim_some, categoryRows, if_neg (by simpa using hne)]
  rw [hrows, rows, List.flatMap_def]
  exact List.infix_of_mem_flatten (List.mem_map_of_mem (category.mem_all))

/-- Every name has a row. -/
theorem exists_mem_rows (t : Terminal) {table : DependencyTable} {name : String}
    (h : name ∈ table.merged) : ∃ label, (label, name) ∈ t.rows table := by
  obtain ⟨category, names, hget, hname⟩ := DependencyTable.mem_merged_iff_get?.mp h
  have hinfix := labelled_infix_rows t hget (List.ne_nil_of_mem hname)
  have hmem : name ∈ (labelled category.word names.toList).map Prod.snd := by
    rw [map_labelled]
    exact hname
  obtain ⟨⟨label, _⟩, hentry, rfl⟩ := List.mem_map.mp hmem
  exact ⟨label, hinfix.subset hentry⟩

/-! ## Printing -/

section Lawful

variable {p : Printer} (hp : p.Lawful) {t : Terminal} (hcolor : t.color = false)
include hp

/-- What stands for itself is read as itself. -/
theorem markup_of_isLabel {s : String} (h : IsLabel s) : p.markup s = .ok s :=
  hp.stands (.inert h.plain.1)

theorem markup_dash : p.markup "[dim]-[/dim]" = .ok "-" := by
  have hstands : Stands ("[" ++ "dim" ++ "]" ++ "-" ++ "[/" ++ "dim" ++ "]" ++ "") ("-" ++ "") :=
    .styled (by decide) ⟨by decide, by decide⟩ (by decide)
  have hmarkup : "[" ++ "dim" ++ "]" ++ "-" ++ "[/" ++ "dim" ++ "]" ++ "" = "[dim]-[/dim]" := by
    decide
  rw [hmarkup] at hstands
  exact hp.stands hstands

/-- The table of the names can be read if the names can be. -/
theorem reads_listing_iff {table : DependencyTable} :
    (∀ row ∈ (t.listing table).grid, p.Reads row.1 ∧ p.Reads row.2) ↔
      ∀ name ∈ table.merged, p.Reads name := by
  rw [Table.grid, List.forall_mem_cons]
  constructor
  · rintro ⟨-, h⟩ name hname
    obtain ⟨label, hrow⟩ := exists_mem_rows t hname
    exact (h _ hrow).2
  · intro h
    have hfirst : Inert "Category" := by decide
    have hsecond : Inert "Type" := by decide
    refine ⟨⟨⟨_, hp.stands (.inert hfirst)⟩, ⟨_, hp.stands (.inert hsecond)⟩⟩, fun row hrow => ?_⟩
    · obtain ⟨hlabel, hname⟩ := of_mem_rows hrow
      refine ⟨⟨_, markup_of_isLabel hp hlabel⟩, ?_⟩
      rcases hname with hname | hdash
      · exact h _ hname
      · rw [hdash]
        exact ⟨_, markup_dash hp⟩

include hcolor

/-- A text is printed if it can be read. -/
theorem exists_print_markup_iff {s : String} :
    (∃ text, p.print t.console (.markup s) = .ok text) ↔ p.Reads s := by
  cases hread : p.markup s with
  | error fault =>
      refine iff_of_false ?_ ?_
      · rintro ⟨text, htext⟩
        rw [hp.unreadable _ _ _ hread] at htext
        cases htext
      · rintro ⟨shown, hshown⟩
        rw [hread] at hshown
        cases hshown
  | ok shown =>
      obtain ⟨lines, hprint, -⟩ := hp.text t.console s shown hcolor t.wide hread
      exact iff_of_true ⟨_, hprint⟩ ⟨shown, hread⟩

/-- **A report is made exactly if all its names can be read.** -/
theorem exists_report_iff {table : DependencyTable} :
    (∃ text, Reporter.report (.terminal p t) table = .ok text) ↔
      p.Reads (titleMarkup table) ∧ ∀ name ∈ table.merged, p.Reads name := by
  rw [← reads_listing_iff hp (t := t), ← hp.table_iff t.console,
    ← exists_print_markup_iff hp hcolor]
  simp only [Reporter.report, classCalls, Printer.printAll, bind_eq_ok_iff, pure_eq_ok_iff,
    hp.newline]
  constructor
  · rintro ⟨_, title, htitle, -, ⟨rows, hrows, -⟩, -⟩
    exact ⟨⟨title, htitle⟩, ⟨rows, hrows⟩⟩
  · rintro ⟨⟨title, htitle⟩, ⟨rows, hrows⟩⟩
    exact ⟨_, title, htitle, _, ⟨rows, hrows, _, ⟨_, rfl, _, rfl, rfl⟩, rfl⟩, rfl⟩

end Lawful

/-- The lines of a report, taken apart. -/
structure Layout where
  title : List (List Char)
  heading : List (List Char)
  /-- The lines of each row. -/
  rows : List (List (List Char))
  /-- The widths of the two columns. -/
  widths : Nat × Nat

namespace Layout

/-- The report. -/
def text (layout : Layout) : String :=
  unlines (layout.title ++ layout.heading ++ layout.rows.flatten ++ [[]])

/-- What a report without colors shows of a table. -/
structure Shows (layout : Layout) (p : Printer) (t : Terminal) (table : DependencyTable) :
    Prop where
  /-- The columns keep to the terminal. -/
  within : layout.widths.1 + layout.widths.2 ≤ t.width
  /-- The line about the class is there as a whole. -/
  title : Leading table.className → p.Visible table.className.toList →
    inked layout.title.flatten = inked (titleText table).toList
  heading : p.ShowsRow layout.widths "Category".toList "Type".toList layout.heading
  /-- There is a row for each entry, in order, with what its markup stands for. -/
  rows : List.Forall₂ (fun entry lines => ∀ shown, Stands entry.2 shown →
      p.Orderly (layout.widths.2 - 2) shown.toList →
        p.ShowsRow layout.widths entry.1.toList shown.toList lines)
    (t.rows table) layout.rows
  /-- If the terminal is wide enough for the widest entries, every name has room. -/
  roomy : ∀ first second, 8 ≤ first → 4 ≤ second → first + second + 4 ≤ t.width →
    (∀ entry ∈ t.rows table, entry.1.length ≤ first ∧ ∃ shown, Stands entry.2 shown ∧
      Independent shown.toList ∧ p.Uniform shown.toList ∧ p.cells shown.toList ≤ second) →
        ∀ entry ∈ t.rows table, ∀ shown, Stands entry.2 shown →
          p.Fits (layout.widths.2 - 2) shown.toList

end Layout

section Lawful

variable {p : Printer} (hp : p.Lawful) {t : Terminal}
include hp

/-- What the markup stands for takes the cells of the text. -/
theorem within_of_stands {room : Nat} {markup shown : String} (h : Stands markup shown)
    (hindependent : Independent shown.toList) (huniform : p.Uniform shown.toList)
    (hcells : p.cells shown.toList ≤ room) : p.Within room markup := by
  intro other hother
  rw [hp.stands h] at hother
  cases hother
  exact ⟨hindependent, huniform, hcells⟩

theorem within_of_word {room : Nat} {s : String} (hinert : Inert s) (hsolid : Solid s.toList)
    (hascii : Ascii s.toList) (hlength : s.length ≤ room) : p.Within room s := by
  refine within_of_stands hp (.inert hinert) hascii.independent (.inl hsolid) ?_
  rw [hp.ascii hascii]
  exact hlength

/-- The line about a class shows its name. -/
theorem visible_titleText {table : DependencyTable} (h : p.Visible table.className.toList) :
    p.Visible (titleText table).toList := by
  have hcount := ascii_countText table.size
  rw [titleText, String.toList_append]
  refine ⟨h.1.append hcount.independent, fun c hc => ?_⟩
  rcases List.mem_append.mp hc with hc | hc
  · exact h.2 c hc
  · have hascii : Ascii [c] := List.forall_mem_singleton.mpr (hcount c hc)
    rw [hp.ascii hascii]
    exact Nat.one_pos

theorem shows_of_laysOut {table : DependencyTable} {title : List (List Char)} {shown : String}
    (hread : p.markup (titleMarkup table) = .ok shown)
    (htitle : p.Visible shown.toList → inked title.flatten = inked shown.toList)
    {widths : Nat × Nat} {heading : List (List Char)} {rows : List (List (List Char))}
    (h : p.LaysOut t.console (t.listing table) widths (heading :: rows)) :
    Layout.Shows ⟨title, heading, rows, widths⟩ p t table := by
  obtain ⟨hheading, hrows⟩ := List.forall₂_cons.mp h.rows
  constructor
  · exact h.within
  · intro hleading hvisible
    rw [hp.stands (stands_titleMarkup hleading)] at hread
    cases hread
    exact htitle (visible_titleText hp hvisible)
  · have horderly {room : Nat} {s : String} (hs : Independent s.toList ∧ Solid s.toList) :
        p.Orderly room s.toList := ⟨hs.1, .inr hs.2⟩
    have hfirst : Inert "Category" := by decide
    have hsecond : Inert "Type" := by decide
    exact hheading "Category" "Type" (hp.stands (.inert hfirst)) (hp.stands (.inert hsecond))
      (horderly (by decide)) (horderly (by decide))
  · have hlabels : ∀ entry ∈ t.rows table, IsLabel entry.1 := fun entry hentry =>
      (of_mem_rows hentry).1
    refine ((List.forall₂_and_left _ _).mpr ⟨hlabels, hrows⟩).imp ?_
    rintro entry lines ⟨hlabel, hlines⟩ shown hstands horderly
    obtain ⟨-, hsolid, hascii⟩ := hlabel.plain
    exact hlines entry.1 shown (markup_of_isLabel hp hlabel) (hp.stands hstands)
      ⟨hascii.independent, .inr hsolid⟩ horderly
  · intro first second hfirst hsecond hwide hentries entry hentry shown hstands
    have hwithin : ∀ row ∈ (t.listing table).grid,
        p.Within first row.1 ∧ p.Within second row.2 := by
      refine List.forall_mem_cons.mpr ⟨⟨?_, ?_⟩, fun row hrow => ?_⟩
      · exact within_of_word hp (s := "Category") (by decide) (by decide) (by decide) hfirst
      · exact within_of_word hp (s := "Type") (by decide) (by decide) (by decide) hsecond
      · obtain ⟨hlength, shown, hstands, hindependent, huniform, hcells⟩ := hentries row hrow
        obtain ⟨hinert, hsolid, hascii⟩ := (of_mem_rows hrow).1.plain
        exact ⟨within_of_word hp hinert hsolid hascii hlength,
          within_of_stands hp hstands hindependent huniform hcells⟩
    have hroom := h.roomy first second hwide hwithin entry (List.mem_cons_of_mem _ hentry)
    exact hroom.2 shown (hp.stands hstands)

end Lawful

end Terminal

/-- A terminal of forty cells without colors. -/
def bareTerminal : Terminal := ⟨false, false, 40, by decide⟩

/-- Two plain names, in no order. -/
def twoNames : DependencyTable where
  className := "app.Main"
  byCategory := .ofList [(.superClass, .ofList ["x.C", "x.A"])]
  named := by decide
  valid := by decide +kernel

/-- Two names, one of them with a tag at its end. -/
def taggedNames : DependencyTable where
  className := "app.Main"
  byCategory := .ofList [(.superClass, .ofList ["x.A[b]", "x.C"])]
  named := by decide
  valid := by decide +kernel

/-- A class whose name closes a tag. -/
def closingName : DependencyTable where
  className := "a[/b]"
  byCategory := ∅
  named := by decide
  valid := by decide +kernel

end JvmDeps
