import JvmDeps.Printing.Layout
import JvmDeps.Proofs.Printing.Breaking
import JvmDeps.Proofs.Report.Laws

set_option autoImplicit false

/-! # Columns of a table

What a row of a table shows, without colors. The lines of its two cells are filled up to the widths
of the columns and stand side by side (`SideBySide`); nothing of them is cut off, because the widths
together keep to the console (`narrow_spec`). So a row shows what its two cells show
(`bareRow_sideBySide`): a text of fitting words as a whole, any other word cut (`lays_of_fits`,
`lays_of_word`).
-/

namespace JvmDeps

open Text

/-! ## Pieces -/

namespace Piece

/-- The characters of some pieces. -/
def text (pieces : List Piece) : List Char := pieces.flatMap Piece.chars

@[simp] theorem text_append (ps qs : List Piece) : text (ps ++ qs) = text ps ++ text qs :=
  List.flatMap_append

@[simp] theorem text_cons (p : Piece) (ps : List Piece) : text (p :: ps) = p.chars ++ text ps :=
  List.flatMap_cons

@[simp] theorem text_overStyle (base : Style) (pieces : List Piece) :
    text (overStyle base pieces) = text pieces := by
  simp [text, overStyle, List.flatMap_map]

theorem totalCells_eq {pieces : List Piece} (h : Independent (text pieces)) :
    totalCells pieces = cellSum (text pieces) := by
  have hfold (n : Nat) : pieces.foldl (fun n piece => n + cells piece.chars) n =
      n + cellSum (text pieces) := by
    induction pieces generalizing n with
    | nil => rfl
    | cons piece pieces ih =>
        rw [text_cons] at h
        rw [List.foldl_cons, ih (h.of_subset (List.subset_append_right _ _)), text_cons,
          cellSum_append, cells_eq_cellSum (h.of_subset (List.subset_append_left _ _)),
          Nat.add_assoc]
  rw [totalCells, hfold, Nat.zero_add]

/-- Pieces that keep to the width are not cut. -/
theorem crop_of_le {width : Nat} {pieces : List Piece} (h : Independent (text pieces))
    (hroom : cellSum (text pieces) ≤ width) : crop width pieces = pieces := by
  rw [crop, totalCells_eq h, if_pos hroom]

/-- Pieces that fill the width stay as they are. -/
theorem fit_of_eq {width : Nat} {pieces : List Piece} (h : Independent (text pieces))
    (hroom : cellSum (text pieces) = width) : fit width pieces = pieces := by
  rw [fit, totalCells_eq h, if_neg (by omega), crop_of_le h (by omega)]

end Piece

namespace Console

theorem unlines_flatten (blocks : List (List (List Char))) :
    unlines blocks.flatten = String.join (blocks.map unlines) := by
  induction blocks with
  | nil => rfl
  | cons lines blocks ih =>
      rw [List.flatten_cons, unlines_append, ih]
      simp

variable {console : Console}

theorem line_eq (hcolor : console.color = false) (pieces : List Piece) :
    console.line pieces = String.ofList (Piece.text pieces) ++ "\n" := by
  rw [line, hcolor, Piece.text, ← Piece.toList_renderAll_false, String.ofList_toList]

/-- The lines of a text without colors. -/
def bareText (console : Console) (text : StyledText) : List (List Char) :=
  (text.wrap .chopped console.width).map fun part =>
    Piece.text (Piece.crop console.width part.pieces)

theorem textLines_eq (hcolor : console.color = false) (text : StyledText) :
    console.textLines text = unlines (console.bareText text) := by
  simp only [textLines, line_eq hcolor, bareText, unlines, List.map_map]
  rfl

/-- **A text across the console is shown as a whole.** -/
theorem inked_bareText (hwidth : 2 ≤ console.width) {text : StyledText}
    (h : Independent text.chars) : inked (console.bareText text).flatten = inked text.chars := by
  obtain ⟨hink, hlines⟩ := StyledText.wrap_shows h (Or.inl ⟨rfl, hwidth⟩)
  have htexts : console.bareText text =
      (text.wrap .chopped console.width).map StyledText.chars := by
    refine List.map_congr_left fun part hpart => ?_
    obtain ⟨hcells, hindependent⟩ := hlines part hpart
    have hpieces : Piece.text part.pieces = part.chars := part.flatMap_pieces
    rw [Piece.crop_of_le (by rwa [hpieces]) (by rwa [hpieces]), hpieces]
  rw [htexts, ← List.flatMap_def, hink]

/-! ## Cells -/

/-- The lines of a column leave some ink, and each of them fills its width. -/
structure Filled (width : Nat) (ink : List Char) (lines : List (List Char)) : Prop where
  cells : ∀ line ∈ lines, Independent line ∧ Text.cells line = width
  ink : inked lines.flatten = ink

/-- Lines show two texts side by side, in columns of the given widths. -/
def SideBySide (widths : Nat × Nat) (first second : List Char) (lines : List (List Char)) : Prop :=
  ∃ left right, left.length = right.length ∧ lines = List.zipWith (· ++ ·) left right ∧
    Filled widths.1 first left ∧ Filled widths.2 second right

/-- The lines of a row without colors. -/
def bareRow (console : Console) (styles : Style × Style) (widths : Nat × Nat) (row : Row) :
    List (List Char) :=
  (besides (blanks styles.1 widths.1) (blanks styles.2 widths.2)
    (cellLines styles.1 widths.1 row.1) (cellLines styles.2 widths.2 row.2)).map fun pieces =>
      Piece.text (Piece.crop console.width pieces)

theorem rowLines_eq (hcolor : console.color = false) (styles : Style × Style)
    (widths : Nat × Nat) (row : Row) :
    console.rowLines styles widths row = unlines (console.bareRow styles widths row) := by
  simp only [rowLines, line_eq hcolor, bareRow, unlines, List.map_map]
  rfl

/-- The lines of a cell show a text and keep to the room. -/
structure Lays (room : Nat) (content : StyledText) (ink : List Char) : Prop where
  cells : ∀ line ∈ content.wrap .ellipsis room, cellSum line.chars ≤ room ∧ Independent line.chars
  ink : inked ((content.wrap .ellipsis room).flatMap StyledText.chars) = ink

/-- **A text of fitting words is shown as a whole.** -/
theorem lays_of_fits {room : Nat} {content : StyledText} (h : Independent content.chars)
    (hfits : Fits room content.chars) : Lays room content (inked content.chars) := by
  obtain ⟨hink, hcells⟩ := StyledText.wrap_shows h (Or.inr hfits)
  exact ⟨hcells, hink⟩

/-- **A word is shown as a whole, or cut with an ellipsis.** -/
theorem lays_of_word {room : Nat} {content : StyledText} (h : Independent content.chars)
    (hword : Solid content.chars) (hroom : 0 < room ∨ Text.cells content.chars ≤ room) :
    Lays room content (inked (clip room content.chars)) := by
  have hlines := StyledText.wrap_unbroken room h hword
  constructor
  · intro line hline
    have hchars : line.chars = clip room content.chars := by
      have hmem := List.mem_map_of_mem (f := StyledText.chars) hline
      rw [hlines] at hmem
      exact List.mem_singleton.mp hmem
    rw [hchars]
    exact cellSum_clip_le h hroom
  · rw [List.flatMap_def, hlines, List.flatten_singleton]

/-- The lines of a cell, filled up and between blanks. -/
theorem filled_cellLines (style : Style) {width : Nat} (hwidth : 2 ≤ width) {content : StyledText}
    {ink : List Char} (h : Lays (width - 2) content ink) :
    Filled width ink ((cellLines style width content).map Piece.text) := by
  have hline (part : StyledText) (hpart : part ∈ content.wrap .ellipsis (width - 2)) :
      Piece.text (blanks style 1 :: Piece.overStyle style (Piece.fit (width - 2)
        (part.pad (width - 2)).pieces) ++ [blanks style 1]) =
        ' ' :: (part.chars ++ List.replicate (width - 2 - cellSum part.chars) ' ') ++ [' '] := by
    obtain ⟨hroom, hindependent⟩ := h.cells part hpart
    have htext : Piece.text (part.pad (width - 2)).pieces =
        part.chars ++ List.replicate (width - 2 - cellSum part.chars) ' ' := by
      rw [Piece.text, StyledText.flatMap_pieces, StyledText.pad, cells_eq_cellSum hindependent]
    -- a part that is filled up is as wide as the cell, so nothing of it is cut off
    have hfit : Piece.fit (width - 2) (part.pad (width - 2)).pieces =
        (part.pad (width - 2)).pieces := by
      apply Piece.fit_of_eq
      · rw [htext]
        exact hindependent.append (independent_replicate _)
      · rw [htext, cellSum_append, cellSum_replicate]
        omega
    rw [hfit, Piece.text_append, Piece.text_cons, Piece.text_overStyle, htext]
    rfl
  rw [cellLines, List.map_map]
  constructor
  · intro line hmem
    obtain ⟨part, hpart, rfl⟩ := List.mem_map.mp hmem
    obtain ⟨hroom, hindependent⟩ := h.cells part hpart
    have hfilled : Independent
        (' ' :: (part.chars ++ List.replicate (width - 2 - cellSum part.chars) ' ') ++ [' ']) :=
      ((independent_replicate 1).append
        (hindependent.append (independent_replicate _))).append (independent_replicate 1)
    have hblank : charCells ' ' = 1 := by decide
    rw [Function.comp_apply, hline part hpart, cells_eq_cellSum hfilled]
    refine ⟨hfilled, ?_⟩
    simp only [List.cons_append, cellSum_cons, cellSum_append, cellSum_replicate, cellSum_nil,
      hblank]
    omega
  · rw [← h.ink, List.flatMap_def, inked_flatten, inked_flatten, List.map_map, List.map_map]
    refine congrArg List.flatten (List.map_congr_left fun part hpart => ?_)
    simp only [Function.comp_apply, hline part hpart]
    simp

/-- A column stays one with blank lines at its end. -/
theorem Filled.append_blanks {width : Nat} {ink : List Char} {lines : List (List Char)}
    (h : Filled width ink lines) (n : Nat) :
    Filled width ink (lines ++ List.replicate n (List.replicate width ' ')) where
  cells line hline := by
    rcases List.mem_append.mp hline with hline | hline
    · exact h.cells line hline
    · rw [List.eq_of_mem_replicate hline, cells_eq_cellSum (independent_replicate width)]
      exact ⟨independent_replicate width, cellSum_replicate width⟩
  ink := by
    rw [List.flatten_append, inked_append, h.ink, List.flatten_replicate_replicate,
      inked_replicate, List.append_nil]

/-- The shorter of two cells is filled up with blank lines. -/
theorem text_besides (first second : Piece) (ls rs : List (List Piece)) :
    (besides first second ls rs).map Piece.text = List.zipWith (· ++ ·)
      (ls.map Piece.text ++ List.replicate (rs.length - ls.length) first.chars)
      (rs.map Piece.text ++ List.replicate (ls.length - rs.length) second.chars) := by
  fun_induction besides first second ls rs with
  | case1 rs =>
      rw [List.map_nil, List.nil_append, List.length_nil, Nat.sub_zero, Nat.zero_sub,
        List.replicate_zero, List.append_nil, List.map_map]
      induction rs with
      | nil => rfl
      | cons r rs ih => simp [List.replicate_succ, ih]
  | case2 l ls ih => simp_all [List.replicate_succ, Piece.text]
  | case3 l ls r rs ih => simp_all

theorem besides_sideBySide {widths : Nat × Nat} (first second : Style) {ls rs : List (List Piece)}
    {left right : List Char} (hleft : Filled widths.1 left (ls.map Piece.text))
    (hright : Filled widths.2 right (rs.map Piece.text)) :
    SideBySide widths left right
      ((besides (blanks first widths.1) (blanks second widths.2) ls rs).map Piece.text) := by
  refine ⟨_, _, ?_, text_besides _ _ ls rs, hleft.append_blanks _, hright.append_blanks _⟩
  simp only [List.length_append, List.length_map, List.length_replicate]
  omega

theorem SideBySide.cells {widths : Nat × Nat} {left right : List Char} {lines : List (List Char)}
    (h : SideBySide widths left right lines) :
    ∀ line ∈ lines, Independent line ∧ cellSum line = widths.1 + widths.2 := by
  obtain ⟨ls, rs, -, rfl, hls, hrs⟩ := h
  intro line hline
  rw [← List.map_uncurry_zip_eq_zipWith] at hline
  obtain ⟨⟨l, r⟩, hpair, rfl⟩ := List.mem_map.mp hline
  obtain ⟨hl, hr⟩ := List.of_mem_zip hpair
  obtain ⟨hleft, hcellsLeft⟩ := hls.cells l hl
  obtain ⟨hright, hcellsRight⟩ := hrs.cells r hr
  rw [cells_eq_cellSum hleft] at hcellsLeft
  rw [cells_eq_cellSum hright] at hcellsRight
  refine ⟨hleft.append hright, ?_⟩
  rw [Function.uncurry_apply_pair, cellSum_append, hcellsLeft, hcellsRight]

/-- **A row without colors shows its two cells side by side**, if they keep to the widths of the
columns and these to the console. -/
theorem bareRow_sideBySide {widths : Nat × Nat} (hwidths : widths.1 + widths.2 ≤ console.width)
    (hfirst : 2 ≤ widths.1) (hsecond : 2 ≤ widths.2) (styles : Style × Style) {row : Row}
    {left right : List Char} (hleft : Lays (widths.1 - 2) row.1 left)
    (hright : Lays (widths.2 - 2) row.2 right) :
    SideBySide widths left right (console.bareRow styles widths row) := by
  have hcolumns := besides_sideBySide styles.1 styles.2 (filled_cellLines styles.1 hfirst hleft)
    (filled_cellLines styles.2 hsecond hright)
  have htexts : console.bareRow styles widths row =
      (besides (blanks styles.1 widths.1) (blanks styles.2 widths.2)
        (cellLines styles.1 widths.1 row.1) (cellLines styles.2 widths.2 row.2)).map
          Piece.text := by
    refine List.map_congr_left fun pieces hpieces => ?_
    obtain ⟨hindependent, hcells⟩ := hcolumns.cells _ (List.mem_map_of_mem hpieces)
    rw [Piece.crop_of_le hindependent (by omega)]
  rw [htexts]
  exact hcolumns

/-! ## Widths -/

theorem roundDiv_two (n : Nat) : n ≤ 2 * roundDiv n 2 + 1 ∧ 2 * roundDiv n 2 ≤ n + 1 := by
  simp only [roundDiv]
  repeat' split
  all_goals omega

/-- The wider column gives way until both have room, or both are of one width. -/
theorem narrowWider_cases (total : Nat) (widths : Nat × Nat) :
    let narrowed := narrowWider (widths.1 + widths.2 - total) widths
    narrowed.1 + narrowed.2 ≤ total ∧ min widths.1 (total / 2) ≤ narrowed.1 ∧
        min widths.2 (total / 2) ≤ narrowed.2 ∨
      narrowed.1 = narrowed.2 ∧ total ≤ narrowed.1 + narrowed.2 := by
  simp only [narrowWider]
  split <;> simp only <;> omega

/-- **The widths of the columns keep to the console**, and no column gives way by more than to half
of it. -/
theorem narrow_spec {total : Nat} (htotal : 0 < total) (widths : Nat × Nat) :
    (narrow total widths).1 + (narrow total widths).2 ≤ total ∧
      min widths.1 (total / 2) ≤ (narrow total widths).1 ∧
      min widths.2 (total / 2) ≤ (narrow total widths).2 := by
  have hcases := narrowWider_cases total widths
  simp only [narrow, narrowBoth]
  generalize narrowWider (widths.1 + widths.2 - total) widths = narrowed at hcases
  have hround := roundDiv_two (narrowed.1 + narrowed.2 - total)
  simp only at hcases
  omega

/-- Columns that have enough room keep their widths. -/
theorem narrow_of_le {total : Nat} {widths : Nat × Nat} (h : widths.1 + widths.2 ≤ total) :
    narrow total widths = widths := by
  obtain ⟨first, second⟩ := widths
  simp only at h
  have hexcess : first + second - total = 0 := by omega
  have hround : roundDiv 0 2 = 0 := rfl
  simp only [narrow, narrowWider, narrowBoth, hexcess, Nat.zero_min, Nat.sub_zero, ite_self, hround]

/-- What ends a line is a blank that takes no cell. -/
theorem isLineEnd_eq_false_of {c : Char} (h : isBlank c = false ∨ charCells c = 1) :
    isLineEnd c = false := by
  rw [← Bool.not_eq_true]
  intro hend
  have hvalue : c.toNat ∈ [0x0a, 0x1c, 0x1d, 0x1e, 0x85, 0x2028, 0x2029] := by
    simp only [isLineEnd, Bool.or_eq_true, Bool.and_eq_true, decide_eq_true_eq, beq_iff_eq] at hend
    rcases hend with (((rfl | hrange) | hvalue) | hvalue) | hvalue
    · decide
    all_goals grind
  have hall : ∀ n ∈ [0x0a, 0x1c, 0x1d, 0x1e, 0x85, 0x2028, 0x2029],
      isBlank (Char.ofNat n) = true ∧ charCells (Char.ofNat n) = 0 := by decide +kernel
  obtain ⟨hblank, hcells⟩ := hall _ hvalue
  rw [Char.ofNat_toNat] at hblank hcells
  rcases h with h | h
  · rw [h] at hblank
    cases hblank
  · rw [h] at hcells
    cases hcells

/-- The width of a uniform text is that of its one line. -/
theorem textWidth_of_uniform {t : StyledText} (h : Uniform t.chars) :
    textWidth t = Text.cells t.chars := by
  have hends : ∀ c ∈ t.chars, isLineEnd c = false := by
    intro c hc
    exact isLineEnd_eq_false_of (h.imp (fun h => h c hc) fun h => h c hc)
  rw [textWidth, cutWhere_of_none hends]
  simp

theorem le_foldl_max {ns : List Nat} {n : Nat} (h : n ∈ ns) (start : Nat) :
    n ≤ ns.foldl max start := by
  have hstart (ns : List Nat) (start : Nat) : start ≤ ns.foldl max start := by
    induction ns generalizing start with
    | nil => exact Nat.le_refl start
    | cons m ns ih => exact (Nat.le_max_left start m).trans (ih _)
  induction ns generalizing start with
  | nil => cases h
  | cons m ns ih =>
      rcases List.mem_cons.mp h with rfl | h
      · exact (Nat.le_max_right start n).trans (hstart ns _)
      · exact ih h _

theorem foldl_max_le {ns : List Nat} {start bound : Nat} (hstart : start ≤ bound)
    (h : ∀ n ∈ ns, n ≤ bound) : ns.foldl max start ≤ bound := by
  induction ns generalizing start with
  | nil => exact hstart
  | cons n ns ih =>
      obtain ⟨hn, hns⟩ := List.forall_mem_cons.mp h
      exact ih (Nat.max_le.mpr ⟨hstart, hn⟩) hns

/-- A column asks for the room of each of its contents. -/
theorem le_columnWidth {contents : List StyledText} {content : StyledText}
    (h : content ∈ contents) : 2 + textWidth content ≤ columnWidth contents :=
  Nat.add_le_add_left (le_foldl_max (List.mem_map_of_mem h) 0) 2

/-- A column is no wider than its widest content asks for. -/
theorem columnWidth_le {contents : List StyledText} {room : Nat}
    (h : ∀ content ∈ contents, textWidth content ≤ room) : columnWidth contents ≤ 2 + room :=
  Nat.add_le_add_left (foldl_max_le (Nat.zero_le _) (List.forall_mem_map.mpr h)) 2

end Console

end JvmDeps
