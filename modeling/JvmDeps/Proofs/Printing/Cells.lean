import JvmDeps.Printing.Cells
import JvmDeps.Proofs.Text.Ink

set_option autoImplicit false

/-! # Cells of independent characters

A character that joins its neighbours, or changes the one in front of it, makes the cells of a text
differ from the sum of the cells of its characters. In a text without such characters
(`Independent`) they are that sum (`cells_eq_cellSum`), every grapheme but perhaps the first is one
character with those on it that take no cell (`Grapheme.Based`), and the two ways to cut a text keep
to the cells they are given: `cellSum_takeCells_le` for a text that is cut once, `exists_chop` for
one that is chopped.

What a text shows are its characters that are not blank (`inked`). A cut that leaves room for all
but the blanks at the end shows everything (`inked_takeCells`).
-/

namespace JvmDeps.Text

/-! ## Cells of a text -/

/-- The cells of the characters of a text, each on its own. -/
def cellSum : List Char → Nat
  | [] => 0
  | c :: cs => charCells c + cellSum cs

@[simp] theorem cellSum_nil : cellSum [] = 0 := rfl

@[simp] theorem cellSum_cons (c : Char) (cs : List Char) :
    cellSum (c :: cs) = charCells c + cellSum cs := rfl

@[simp] theorem cellSum_append (cs ds : List Char) :
    cellSum (cs ++ ds) = cellSum cs + cellSum ds := by
  induction cs with
  | nil => simp
  | cons c cs ih => simp [ih, Nat.add_assoc]

theorem cellSum_le_of_sublist {cs ds : List Char} (h : cs.Sublist ds) :
    cellSum cs ≤ cellSum ds := by
  induction h with
  | slnil => exact Nat.le_refl 0
  | cons c _ ih => exact ih.trans (by simp)
  | cons_cons c _ ih => simpa using ih

theorem cellSum_replicate (n : Nat) : cellSum (List.replicate n ' ') = n := by
  have hblank : charCells ' ' = 1 := by decide
  induction n with
  | zero => rfl
  | succ n ih => rw [List.replicate_succ, cellSum_cons, hblank, ih, Nat.add_comm]

theorem cellSum_of_one {cs : List Char} (h : ∀ c ∈ cs, charCells c = 1) :
    cellSum cs = cs.length := by
  induction cs with
  | nil => rfl
  | cons c cs ih =>
      obtain ⟨hc, hcs⟩ := List.forall_mem_cons.mp h
      rw [cellSum_cons, ih hcs, hc, List.length_cons, Nat.add_comm]

/-- A character that does not act on others is none of the two that change cells. -/
theorem ne_of_isActing_eq_false {c : Char} (h : isActing c = false) :
    c ≠ joiner ∧ c ≠ pictureSelector := by
  obtain ⟨hjoiner, hselector, -⟩ := isActing_eq_false_iff.mp h
  exact ⟨hjoiner, hselector⟩

theorem cellsAfter_eq {cs : List Char} (h : Independent cs) (base : Option Char) :
    cellsAfter base cs = cellSum cs := by
  induction cs generalizing base with
  | nil => rfl
  | cons c cs ih =>
      obtain ⟨hc, hcs⟩ := List.forall_mem_cons.mp h
      obtain ⟨hjoiner, hselector⟩ := ne_of_isActing_eq_false hc
      rw [cellsAfter.eq_def]
      simp only [if_neg hjoiner, if_neg hselector, ih hcs, cellSum_cons]
      split
      · rename_i hzero
        rw [hzero, Nat.zero_add]
      · rfl

/-- **The cells of an independent text are the sum of those of its characters.** -/
theorem cells_eq_cellSum {cs : List Char} (h : Independent cs) : cells cs = cellSum cs :=
  cellsAfter_eq h none

/-! ## Graphemes -/

/-- The grapheme is a character that takes cells, with others on it that take none. -/
def Grapheme.Based (g : Grapheme) : Prop :=
  ∃ c marks, g.chars = c :: marks ∧ 0 < charCells c ∧ g.cells = charCells c ∧
    ∀ m ∈ marks, charCells m = 0

/-- The grapheme takes no cells. -/
def Grapheme.Loose (g : Grapheme) : Prop :=
  g.chars ≠ [] ∧ g.cells = 0 ∧ ∀ m ∈ g.chars, charCells m = 0

theorem cellSum_of_zero {cs : List Char} (h : ∀ c ∈ cs, charCells c = 0) : cellSum cs = 0 := by
  induction cs with
  | nil => rfl
  | cons c cs ih =>
      obtain ⟨hc, hcs⟩ := List.forall_mem_cons.mp h
      rw [cellSum_cons, hc, ih hcs]

theorem Grapheme.Based.cells_eq {g : Grapheme} (h : g.Based) : g.cells = cellSum g.chars := by
  obtain ⟨c, marks, hchars, -, hcells, hmarks⟩ := h
  rw [hchars, cellSum_cons, cellSum_of_zero hmarks, hcells, Nat.add_zero]

theorem Grapheme.Loose.cells_eq {g : Grapheme} (h : g.Loose) : g.cells = cellSum g.chars := by
  rw [h.2.1, cellSum_of_zero h.2.2]

theorem based_graphemesAfter {cs part : List Char} {size : Nat} (base : Option Char)
    (h : Independent cs) (hpart : Grapheme.Based ⟨part.reverse, size⟩) :
    ∀ g ∈ graphemesAfter part size base cs, g.Based := by
  have hne {part : List Char} {size : Nat} (hpart : Grapheme.Based ⟨part.reverse, size⟩) :
      part.isEmpty = false := by
    obtain ⟨c, marks, hchars, -⟩ := hpart
    cases part with
    | nil => cases hchars
    | cons => rfl
  -- the grapheme that is being made stays based, whatever marks go on it
  induction cs generalizing part size base with
  | nil =>
      intro g hg
      rw [graphemesAfter, hne hpart] at hg
      rw [List.mem_singleton.mp hg]
      exact hpart
  | cons c cs ih =>
      obtain ⟨hc, hcs⟩ := List.forall_mem_cons.mp h
      obtain ⟨hjoiner, hselector⟩ := ne_of_isActing_eq_false hc
      rw [graphemesAfter.eq_def]
      simp only [hjoiner, hselector, decide_false, Bool.false_and, Bool.false_eq_true, if_false,
        hne hpart]
      split
      · -- a mark goes on the grapheme in front of it
        rename_i hzero
        apply ih base hcs
        obtain ⟨d, marks, hchars, hpos, hcells, hmarks⟩ := hpart
        refine ⟨d, marks ++ [c], ?_, hpos, hcells, ?_⟩
        · change (c :: part).reverse = d :: (marks ++ [c])
          rw [List.reverse_cons, show part.reverse = d :: marks from hchars, List.cons_append]
        · intro m hm
          rcases List.mem_append.mp hm with hm | hm
          · exact hmarks m hm
          · rw [List.mem_singleton.mp hm, hzero]
      · rename_i hpos
        refine List.forall_mem_cons.mpr ⟨hpart, ih (some c) hcs ?_⟩
        exact ⟨c, [], rfl, Nat.pos_of_ne_zero hpos, rfl, by simp⟩

theorem Grapheme.Loose.of_marks {m : Char} {part : List Char}
    (h : ∀ d ∈ m :: part, charCells d = 0) : Grapheme.Loose ⟨(m :: part).reverse, 0⟩ :=
  ⟨by simp, rfl, fun d hd => h d (List.mem_reverse.mp hd)⟩

/-- Behind marks that nothing stands under, the graphemes are based. -/
theorem exists_graphemesAfter {cs part : List Char} (h : Independent cs)
    (hpart : ∀ m ∈ part, charCells m = 0) :
    ∃ front rest, graphemesAfter part 0 none cs = front ++ rest ∧ front.length ≤ 1 ∧
      (∀ g ∈ front, g.Loose) ∧ ∀ g ∈ rest, g.Based := by
  induction cs generalizing part with
  | nil =>
      cases part with
      | nil => exact ⟨[], [], rfl, by decide, by simp, by simp⟩
      | cons m part =>
          exact ⟨[⟨(m :: part).reverse, 0⟩], [], rfl, Nat.le_refl 1,
            List.forall_mem_singleton.mpr (.of_marks hpart), by simp⟩
  | cons c cs ih =>
      obtain ⟨hc, hcs⟩ := List.forall_mem_cons.mp h
      obtain ⟨hjoiner, hselector⟩ := ne_of_isActing_eq_false hc
      rw [graphemesAfter.eq_def]
      simp only [hjoiner, hselector, decide_false, Bool.false_and, Bool.false_eq_true, if_false]
      split
      · rename_i hzero
        exact ih hcs (List.forall_mem_cons.mpr ⟨hzero, hpart⟩)
      · -- the first character that takes cells ends the marks
        rename_i hpos
        have hfirst : Grapheme.Based ⟨[c].reverse, charCells c⟩ :=
          ⟨c, [], rfl, Nat.pos_of_ne_zero hpos, rfl, by simp⟩
        have hbased := based_graphemesAfter (some c) hcs hfirst
        cases part with
        | nil => exact ⟨[], _, rfl, by decide, by simp, hbased⟩
        | cons m part =>
            exact ⟨[⟨(m :: part).reverse, 0⟩], _, rfl, Nat.le_refl 1,
              List.forall_mem_singleton.mpr (.of_marks hpart), hbased⟩

/-- **An independent text is made of based graphemes**, behind one that is loose if it starts with
marks. -/
theorem exists_graphemes {cs : List Char} (h : Independent cs) :
    ∃ front rest, graphemes cs = front ++ rest ∧ front.length ≤ 1 ∧
      (∀ g ∈ front, g.Loose) ∧ ∀ g ∈ rest, g.Based :=
  exists_graphemesAfter h (by simp)

/-- The cells of a grapheme are those of its characters, and at most two. -/
theorem cells_of_mem_graphemes {cs : List Char} (h : Independent cs) {g : Grapheme}
    (hg : g ∈ graphemes cs) : g.cells = cellSum g.chars ∧ g.cells ≤ 2 ∧ g.chars ≠ [] := by
  obtain ⟨front, rest, heq, -, hfront, hrest⟩ := exists_graphemes h
  rw [heq] at hg
  rcases List.mem_append.mp hg with hg | hg
  · have hloose := hfront g hg
    exact ⟨hloose.cells_eq, by rw [hloose.2.1]; decide, hloose.1⟩
  · have hbased := hrest g hg
    refine ⟨hbased.cells_eq, ?_⟩
    obtain ⟨c, marks, hchars, -, hcells, -⟩ := hbased
    exact ⟨hcells ▸ charCells_le_two c, by simp [hchars]⟩

/-! ## Cutting once -/

theorem subset_takeCells (total : Nat) (gs : List Grapheme) :
    ∀ c ∈ takeCells total gs, c = ' ' ∨ c ∈ gs.flatMap Grapheme.chars := by
  induction gs generalizing total with
  | nil =>
      intro c hc
      rw [takeCells] at hc
      cases hc
  | cons g gs ih =>
      intro c hc
      cases total with
      | zero =>
          rw [takeCells] at hc
          cases hc
      | succ total =>
          rw [takeCells] at hc
          rw [List.flatMap_cons, List.mem_append]
          split at hc
          · rcases List.mem_append.mp hc with hc | hc
            · exact Or.inr (Or.inl hc)
            · exact (ih _ c hc).imp_right Or.inr
          · exact Or.inl (List.mem_singleton.mp hc)

theorem independent_takeCells {cs : List Char} (h : Independent cs) (total : Nat) :
    Independent (takeCells total (graphemes cs)) := by
  intro c hc
  rcases subset_takeCells total _ c hc with rfl | hc
  · decide
  · rw [flatMap_graphemes] at hc
    exact h c hc

/-- A text that is cut keeps to the cells that it is given. -/
theorem cellSum_takeCells_le {gs : List Grapheme} (h : ∀ g ∈ gs, g.cells = cellSum g.chars)
    (total : Nat) : cellSum (takeCells total gs) ≤ total := by
  induction gs generalizing total with
  | nil => simp [takeCells]
  | cons g gs ih =>
      obtain ⟨hg, hgs⟩ := List.forall_mem_cons.mp h
      cases total with
      | zero => simp [takeCells]
      | succ total =>
          rw [takeCells]
          split
          · rename_i hfits
            have hrest := ih hgs (total + 1 - g.cells)
            rw [cellSum_append, ← hg]
            omega
          · have hblank : charCells ' ' = 1 := by decide
            simp [hblank]

/-- The first character counts if something is shown. -/
theorem charCells_le_cellSum_trimEnd {c : Char} {cs : List Char}
    (h : ∃ d ∈ c :: cs, isBlank d = false) : charCells c ≤ cellSum (trimEnd (c :: cs)) := by
  obtain ⟨blanks, hsplit, hblanks⟩ := exists_trimEnd (c :: cs)
  cases htrim : trimEnd (c :: cs) with
  | nil =>
      rw [htrim, List.nil_append] at hsplit
      obtain ⟨d, hd, hink⟩ := h
      have hblank := hblanks d (by rw [← hsplit]; exact hd)
      rw [hink] at hblank
      cases hblank
  | cons d rest =>
      rw [htrim, List.cons_append, List.cons.injEq] at hsplit
      rw [hsplit.1, cellSum_cons]
      exact Nat.le_add_right _ _

theorem inked_takeCells_based {gs : List Grapheme} (h : ∀ g ∈ gs, g.Based) {total : Nat}
    (hroom : cellSum (trimEnd (gs.flatMap Grapheme.chars)) ≤ total) :
    inked (takeCells total gs) = inked (gs.flatMap Grapheme.chars) := by
  induction gs generalizing total with
  | nil => rw [takeCells]; rfl
  | cons g gs ih =>
      obtain ⟨hg, hgs⟩ := List.forall_mem_cons.mp h
      by_cases hblank : ∀ c ∈ (g :: gs).flatMap Grapheme.chars, isBlank c = true
      · -- there is nothing to show, before the cut or after it
        rw [inked_of_blank hblank]
        apply inked_of_blank
        intro c hc
        rcases subset_takeCells total _ c hc with rfl | hc
        · decide
        · exact hblank c hc
      · have hink : ∃ c ∈ (g :: gs).flatMap Grapheme.chars, isBlank c = false := by
          simpa using hblank
        have hpos : 0 < g.cells := by
          obtain ⟨c, marks, -, hpos, hcells, -⟩ := hg
          omega
        -- something is shown, so the cells in front of it are among those that are counted
        have hfits : g.cells + cellSum (trimEnd (gs.flatMap Grapheme.chars)) ≤ total := by
          by_cases hrest : ∃ c ∈ gs.flatMap Grapheme.chars, isBlank c = false
          · rw [List.flatMap_cons, trimEnd_append hrest, cellSum_append, ← hg.cells_eq] at hroom
            exact hroom
          · have hempty : trimEnd (gs.flatMap Grapheme.chars) = [] := by
              apply trimEnd_of_blank
              simpa using hrest
            obtain ⟨c, marks, hchars, -, hcells, -⟩ := hg
            rw [List.flatMap_cons, hchars, List.cons_append] at hink hroom
            have hbase := charCells_le_cellSum_trimEnd hink
            rw [hempty, cellSum_nil, hcells]
            omega
        obtain ⟨n, rfl⟩ : ∃ n, total = n + 1 := ⟨total - 1, by omega⟩
        rw [takeCells, if_pos (by omega), inked_append, ih hgs (by omega), ← inked_append,
          List.flatMap_cons]

/-- **A cut that leaves room for all but the blanks at the end shows everything.** -/
theorem inked_takeCells {cs : List Char} (h : Independent cs) {total : Nat} (hpos : 0 < total)
    (hroom : cellSum (trimEnd cs) ≤ total) :
    inked (takeCells total (graphemes cs)) = inked cs := by
  obtain ⟨front, rest, heq, hlength, hfront, hrest⟩ := exists_graphemes h
  have hchars := flatMap_graphemes cs
  rw [heq, List.flatMap_append] at hchars
  match front, hlength with
  | [], _ =>
      rw [heq]
      rw [List.flatMap_nil, List.nil_append] at hchars
      rw [List.nil_append, inked_takeCells_based hrest (by rw [hchars]; exact hroom), hchars]
  | [g], _ =>
      -- the marks in front take no cells
      obtain ⟨-, hzero, hmarks⟩ := hfront g (by simp)
      obtain ⟨n, rfl⟩ : ∃ n, total = n + 1 := ⟨total - 1, by omega⟩
      have htail : cellSum (trimEnd (rest.flatMap Grapheme.chars)) ≤ n + 1 := by
        by_cases hink : ∃ c ∈ rest.flatMap Grapheme.chars, isBlank c = false
        · rw [← hchars, trimEnd_append hink, cellSum_append] at hroom
          omega
        · rw [trimEnd_of_blank (by simpa using hink)]
          exact Nat.zero_le _
      rw [heq, List.singleton_append, takeCells, if_pos (by omega), hzero, Nat.sub_zero,
        inked_append, inked_takeCells_based hrest htail, ← hchars, inked_append]
      simp

/-! ## Chopping -/

/-- Every piece keeps to the width; the first one to what is left of it. -/
theorem cellSum_chopAfter_le {width : Nat} {gs : List Grapheme}
    (h : ∀ g ∈ gs, g.cells = cellSum g.chars ∧ g.cells ≤ width) {used : Nat}
    (hused : used ≤ width) :
    ∃ first more, chopAfter width used gs = first :: more ∧ used + cellSum first ≤ width ∧
      ∀ piece ∈ more, cellSum piece ≤ width := by
  induction gs generalizing used with
  | nil => exact ⟨[], [], rfl, by simpa using hused, by simp⟩
  | cons g gs ih =>
      obtain ⟨⟨hcells, hwidth⟩, hgs⟩ := List.forall_mem_cons.mp h
      rw [chopAfter]
      split
      · obtain ⟨first, more, heq, hfirst, hmore⟩ := ih hgs hwidth
        rw [heq]
        refine ⟨[], (g.chars ++ first) :: more, rfl, by simpa using hused, ?_⟩
        refine List.forall_mem_cons.mpr ⟨?_, hmore⟩
        rw [cellSum_append, ← hcells]
        exact hfirst
      · rename_i hfits
        obtain ⟨first, more, heq, hfirst, hmore⟩ := ih hgs (Nat.le_of_not_lt hfits)
        rw [heq]
        refine ⟨g.chars ++ first, more, rfl, ?_, hmore⟩
        rw [cellSum_append, ← hcells]
        omega

/-- **A text is chopped into pieces that keep to the width**, and the first piece is not empty. -/
theorem exists_chop {width : Nat} (hwidth : 2 ≤ width) {cs : List Char} (h : Independent cs)
    (hne : cs ≠ []) :
    ∃ first more, chop width cs = first :: more ∧ first ≠ [] ∧
      ∀ piece ∈ first :: more, cellSum piece ≤ width := by
  have hgraphemes : ∀ g ∈ graphemes cs, g.cells = cellSum g.chars ∧ g.cells ≤ width := by
    intro g hg
    obtain ⟨hcells, htwo, -⟩ := cells_of_mem_graphemes h hg
    exact ⟨hcells, htwo.trans hwidth⟩
  cases hgs : graphemes cs with
  | nil =>
      have hchars := flatMap_graphemes cs
      rw [hgs] at hchars
      exact absurd hchars.symm hne
  | cons g gs =>
      have hg : g ∈ graphemes cs := by simp [hgs]
      obtain ⟨hcells, htwo, hchars⟩ := cells_of_mem_graphemes h hg
      have hgs' : ∀ g ∈ gs, g.cells = cellSum g.chars ∧ g.cells ≤ width := by
        intro g' hg'
        exact hgraphemes g' (by simp [hgs, hg'])
      obtain ⟨first, more, heq, hfirst, hmore⟩ := cellSum_chopAfter_le hgs' (htwo.trans hwidth)
      refine ⟨g.chars ++ first, more, ?_, by simp [hchars], ?_⟩
      · rw [chop, hgs, chopAfter, if_neg (by omega), Nat.zero_add, heq]
        rfl
      · refine List.forall_mem_cons.mpr ⟨?_, hmore⟩
        rw [cellSum_append, ← hcells]
        exact hfirst

end JvmDeps.Text
