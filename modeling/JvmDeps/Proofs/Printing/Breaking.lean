import JvmDeps.Proofs.Printing.Cells
import JvmDeps.Printing.Wrapping
import Mathlib.Data.List.SplitBy

set_option autoImplicit false

/-! # Broken lines show everything

Breaking an independent text into lines (`StyledText.wrap`) loses nothing but blanks, and every line
keeps to the width (`wrap_shows`), in two cases: words that are too wide are chopped, or there are
none (`Text.Fits`). Where an ellipsis stands for what is too wide, a text of one word is either
there as a whole or cut (`wrap_unbroken`).

The places where a text is broken are those where its lines start (`exists_breaks`). The invariant
of the loop over the words is that the line so far has room for all but the blanks at its end; the
word that comes next makes it longer, or starts a line, or is chopped.
-/

namespace JvmDeps

open Text

/-! ## Words -/

theorem ink_of_isChain {first : List Char} {rest : List (List Char)}
    (h : (first :: rest).IsChain fun a b => ∃ ha hb,
      (!isBlank (a.getLast ha) || isBlank (b.head hb)) = false) :
    ∀ word ∈ rest, ∃ c ∈ word, isBlank c = false := by
  induction rest generalizing first with
  | nil => simp
  | cons second rest ih =>
      obtain ⟨⟨_, hne, hseam⟩, htail⟩ := List.isChain_cons_cons.mp h
      refine List.forall_mem_cons.mpr ⟨⟨second.head hne, List.head_mem hne, ?_⟩, ih htail⟩
      exact (Bool.or_eq_false_iff.mp hseam).2

/-- Every word holds a character that is not blank. -/
theorem ink_of_mem_lineWords {cs word : List Char} (h : word ∈ lineWords cs) :
    ∃ c ∈ word, isBlank c = false := by
  have hchain := List.isChain_getLast_head_splitBy (fun a b => !isBlank a || isBlank b) cs
  rw [lineWords] at h
  split at h
  · cases h
  · rename_i first rest hsplit
    rw [hsplit] at hchain
    have hrest := ink_of_isChain hchain
    split at h
    · split at h
      · cases h
      · -- the blanks in front belong to the second word
        rename_i second rest'
        rcases List.mem_cons.mp h with rfl | h
        · obtain ⟨c, hc, hink⟩ := hrest second (by simp)
          exact ⟨c, List.mem_append_right first hc, hink⟩
        · exact hrest word (by simp [h])
    · rename_i hall
      rcases List.mem_cons.mp h with rfl | h
      · simpa using hall
      · exact hrest word h

/-- The words are the whole text, unless there are none. -/
theorem flatten_lineWords (cs : List Char) :
    (lineWords cs).flatten = cs ∨ lineWords cs = [] ∧ ∀ c ∈ cs, isBlank c = true := by
  have hflatten := List.flatten_splitBy (fun a b => !isBlank a || isBlank b) cs
  rw [lineWords]
  split
  · rename_i hsplit
    rw [hsplit] at hflatten
    exact Or.inl hflatten
  · rename_i first rest hsplit
    rw [hsplit] at hflatten
    split
    · rename_i hall
      split
      · refine Or.inr ⟨rfl, ?_⟩
        rw [List.flatten_singleton] at hflatten
        rw [← hflatten]
        simpa using hall
      · refine Or.inl ?_
        rw [← hflatten]
        simp
    · exact Or.inl hflatten

/-- A text without blanks is one word. -/
theorem lineWords_of_solid {cs : List Char} (hne : cs ≠ []) (h : Solid cs) :
    lineWords cs = [cs] := by
  have hchain : cs.IsChain fun a b => (!isBlank a || isBlank b) = true := by
    refine (List.isChain_iff_forall_rel_of_append_cons_cons.mpr ?_)
    intro a b before behind heq
    have ha := h a (by rw [heq]; simp)
    simp [ha]
  have hink : cs.all isBlank = false := by
    cases cs with
    | nil => exact absurd rfl hne
    | cons c cs => simp [h c (by simp)]
  rw [lineWords, List.splitBy_of_isChain hne hchain]
  simp [hink]

/-! ## Slices -/

theorem startsFrom_append (start : Nat) (pieces more : List (List Char)) :
    startsFrom start (pieces ++ more) =
      startsFrom start pieces ++ startsFrom (start + pieces.flatten.length) more := by
  induction pieces generalizing start with
  | nil => simp [startsFrom]
  | cons piece pieces ih => simp [startsFrom, ih, Nat.add_assoc]

theorem filter_startsFrom {start : Nat} (h : 0 < start) (pieces : List (List Char)) :
    (startsFrom start pieces).filter (· ≠ 0) = startsFrom start pieces := by
  induction pieces generalizing start with
  | nil => rfl
  | cons piece pieces ih =>
      rw [startsFrom, List.filter_cons_of_pos (by simpa using Nat.ne_of_gt h), ih (by omega)]

/-- The last of some pieces gives way to lines that go on from it. -/
theorem startsFrom_extend {start : Nat} (h : 0 < start) (front : List (List Char))
    (last first : List Char) (more : List (List Char)) :
    (startsFrom start (front ++ [last])).filter (· ≠ 0) ++
        startsFrom (start + front.flatten.length + first.length) more =
      startsFrom start (front ++ first :: more) := by
  rw [filter_startsFrom h, startsFrom_append, startsFrom_append, List.append_assoc]
  rfl

/-- The pieces of a word start lines of their own behind the line so far, unless that is empty and
the first: a text has no break in front. -/
theorem exists_lines_of_pieces (start : Nat) (current : List Char) {front : List (List Char)}
    {last : List Char} (hhead : (front ++ [last]).head? ≠ some []) (first : List Char)
    (more : List (List Char)) :
    ∃ head tail,
      (startsFrom (start + current.length) (front ++ [last])).filter (· ≠ 0) ++
        startsFrom (start + current.length + front.flatten.length + first.length) more =
        startsFrom (start + head.length) tail ∧
      (head :: tail).flatten = current ++ (front ++ first :: more).flatten ∧
      ∀ line ∈ head :: tail, line = current ∨ line ∈ front ++ first :: more := by
  rcases Nat.eq_zero_or_pos (start + current.length) with hzero | hpos
  · -- nothing stands in front, so the first piece is the first line
    obtain ⟨rfl, hnil⟩ : start = 0 ∧ current.length = 0 := by omega
    obtain rfl := List.length_eq_zero_iff.mp hnil
    cases front with
    | nil =>
        refine ⟨first, more, ?_, rfl, fun line hline => Or.inr hline⟩
        simp [startsFrom]
    | cons piece front =>
        have hpiece : 0 < piece.length := by
          refine List.length_pos_iff.mpr ?_
          rintro rfl
          exact hhead rfl
        refine ⟨piece, front ++ first :: more, ?_, rfl, fun line hline => Or.inr hline⟩
        rw [Nat.zero_add piece.length, ← startsFrom_extend hpiece front last first more]
        simp [startsFrom]
  · exact ⟨current, front ++ first :: more, startsFrom_extend hpos _ _ _ _, rfl,
      fun line hline => List.mem_cons.mp hline⟩

namespace StyledText

theorem chars_slicesFrom (t : StyledText) (before : List Char) {first : List Char}
    {more : List (List Char)} (h : t.chars = before ++ (first :: more).flatten) :
    (t.slicesFrom before.length (startsFrom (before.length + first.length) more)).map chars =
      first :: more := by
  induction more generalizing before first with
  | nil =>
      rw [startsFrom, slicesFrom, slice, List.take_length, List.map_singleton, h, List.drop_left,
        List.flatten_singleton]
  | cons second more ih =>
      have hrest := @ih (before ++ first) second (by simpa using h)
      rw [List.length_append] at hrest
      have hfirst : (t.chars.take (before.length + first.length)).drop before.length = first := by
        rw [h, List.flatten_cons, ← List.append_assoc, ← List.length_append, List.take_left,
          List.drop_left]
      rw [startsFrom, slicesFrom, List.map_cons, hrest]
      exact congrArg (· :: second :: more) hfirst

/-- A text that is cut where given pieces start is cut into these pieces. -/
theorem chars_divide (t : StyledText) {first : List Char} {more : List (List Char)}
    (h : t.chars = (first :: more).flatten) :
    (t.divide (startsFrom first.length more)).map chars = first :: more := by
  cases more with
  | nil => simpa [divide, startsFrom] using h
  | cons second more =>
      have hslices := t.chars_slicesFrom [] h
      rw [List.length_nil, Nat.zero_add] at hslices
      exact hslices

end StyledText

/-! ## Breaks -/

/-- The last piece of a chopped word, and those in front of it. -/
theorem exists_chop_append {width : Nat} (hwidth : 2 ≤ width) {word : List Char}
    (hword : Independent word) (hne : word ≠ []) :
    ∃ front last, chop width word = front ++ [last] ∧ front.flatten ++ last = word ∧
      Independent last ∧ (front ++ [last]).head? ≠ some [] ∧
      ∀ piece ∈ front ++ [last], cellSum (trimEnd piece) ≤ width := by
  obtain ⟨piece, pieces, hchop, hpiece, hcells⟩ := exists_chop hwidth hword hne
  obtain ⟨front, last, hlast⟩ : ∃ front last, piece :: pieces = front ++ [last] :=
    ⟨_, _, (List.dropLast_append_getLast (by simp)).symm⟩
  have hjoined : front.flatten ++ last = word := by
    have hflatten := flatten_chop width word
    rw [hchop, hlast] at hflatten
    simpa using hflatten
  have hindependent : Independent last := by
    apply hword.of_subset
    rw [← hjoined]
    exact List.subset_append_right _ _
  refine ⟨front, last, hchop.trans hlast, hjoined, hindependent, ?_, ?_⟩
  · rw [← hlast]
    exact fun hhead => hpiece (Option.some.inj hhead)
  · intro piece' hpiece'
    rw [← hlast] at hpiece'
    exact (cellSum_le_of_sublist (trimEnd_sublist piece')).trans (hcells piece' hpiece')

/-- **A text is broken where its lines start, and these have room for all but the blanks at their
ends.** `current` is the line so far, which starts at `start`. -/
theorem exists_breaks {overflow : Overflow} {width : Nat} {words : List (List Char)} (start : Nat)
    (current : List Char)
    (hwords : ∀ word ∈ words, Independent word ∧ ∃ c ∈ word, isBlank c = false)
    (hfits : overflow = .chopped ∧ 2 ≤ width ∨ ∀ word ∈ words, cellSum (trimEnd word) ≤ width)
    (hcurrent : cellSum (trimEnd current) ≤ width) :
    ∃ first more,
      breaksFrom overflow width (start + current.length) (cellSum current) words =
        startsFrom (start + first.length) more ∧
      (first :: more).flatten = current ++ words.flatten ∧
      ∀ line ∈ first :: more, cellSum (trimEnd line) ≤ width := by
  -- each word goes on the line so far, which keeps to the width, or ends it
  induction words generalizing start current with
  | nil => exact ⟨current, [], rfl, rfl, by simpa using hcurrent⟩
  | cons word words ih =>
      obtain ⟨⟨hword, hink⟩, hrest⟩ := List.forall_mem_cons.mp hwords
      have hmore : overflow = .chopped ∧ 2 ≤ width ∨
          ∀ word ∈ words, cellSum (trimEnd word) ≤ width :=
        hfits.imp_right fun h => (List.forall_mem_cons.mp h).2
      have hsize : cells (trimEnd word) = cellSum (trimEnd word) :=
        cells_eq_cellSum (hword.of_subset (trimEnd_sublist word).subset)
      rw [breaksFrom]
      simp only [hsize, cells_eq_cellSum hword]
      split
      · -- the word stays in its line
        rename_i hroom
        have hline : cellSum (trimEnd (current ++ word)) ≤ width := by
          rw [trimEnd_append hink, cellSum_append]
          exact hroom
        obtain ⟨first, more, hbreaks, hflatten, hlines⟩ :=
          ih start (current ++ word) hrest hmore hline
        refine ⟨first, more, ?_, ?_, hlines⟩
        · rw [← hbreaks, List.length_append, cellSum_append, Nat.add_assoc]
        · rw [hflatten, List.flatten_cons, List.append_assoc]
      · rename_i hfull
        split
        · -- the word is wider than a line, so it is chopped
          rename_i hwide
          obtain ⟨rfl, hwidth⟩ : overflow = .chopped ∧ 2 ≤ width := by
            refine hfits.resolve_right fun h => ?_
            have := h word (by simp)
            omega
          have hne : word ≠ [] := by
            rintro rfl
            simp at hink
          obtain ⟨front, last, hchop, hjoined, hlast, hhead, hpieces⟩ :=
            exists_chop_append hwidth hword hne
          obtain ⟨first, more, hbreaks, hflatten, hlines⟩ :=
            ih (start + current.length + front.flatten.length) last hrest hmore
              (hpieces last (by simp))
          have hnext : start + current.length + word.length =
              start + current.length + front.flatten.length + last.length := by
            rw [← hjoined, List.length_append]
            omega
          obtain ⟨head, tail, hstarts, htext, hparts⟩ :=
            exists_lines_of_pieces start current hhead first more
          simp only [wordPieces, hchop, List.getLast?_append, List.getLast?_singleton,
            Option.some_or, Option.getD_some, cells_eq_cellSum hlast, hnext, hbreaks]
          refine ⟨head, tail, hstarts, ?_, ?_⟩
          · rw [htext, List.flatten_append, hflatten, ← List.append_assoc front.flatten, hjoined,
              List.flatten_cons]
          · intro line hline
            rcases hparts line hline with rfl | hline
            · exact hcurrent
            · rcases List.mem_append.mp hline with hline | hline
              · exact hpieces line (List.mem_append_left _ hline)
              · exact hlines line hline
        · -- the word starts a line
          rename_i hnarrow
          have hused : 0 < cellSum current := by omega
          have hlength : 0 < current.length := by
            refine List.length_pos_iff.mpr ?_
            rintro rfl
            simp at hused
          obtain ⟨first, more, hbreaks, hflatten, hlines⟩ :=
            ih (start + current.length) word hrest hmore (Nat.le_of_not_lt hnarrow)
          rw [if_pos (by simp; omega), hbreaks]
          refine ⟨current, first :: more, rfl, ?_, ?_⟩
          · rw [List.flatten_cons, hflatten, List.flatten_cons]
          · exact List.forall_mem_cons.mpr ⟨hcurrent, hlines⟩

/-! ## Uniform texts -/

namespace Text

/-- Every character of the text takes one cell, or none is blank. In other texts a line can be cut
although only the blanks at its end are too many: as many of them are dropped as there are too many
characters, not cells. -/
def Uniform (cs : List Char) : Prop :=
  Solid cs ∨ ∀ c ∈ cs, charCells c = 1

theorem Uniform.of_subset {cs ds : List Char} (h : Uniform ds) (hsub : cs ⊆ ds) : Uniform cs :=
  h.imp (fun h c hc => h c (hsub hc)) fun h c hc => h c (hsub hc)

/-- Every word of a uniform text has room in a line. -/
def Fits (width : Nat) (cs : List Char) : Prop :=
  Uniform cs ∧ ∀ word ∈ lineWords cs, cells (trimEnd word) ≤ width

/-- The words of a text that has room in a line have room. -/
theorem fits_of_cells_le {width : Nat} {cs : List Char} (h : Independent cs) (huniform : Uniform cs)
    (hroom : cells cs ≤ width) : Fits width cs := by
  refine ⟨huniform, fun word hword => ?_⟩
  rcases flatten_lineWords cs with hflatten | ⟨hnil, -⟩
  · have hsub : (trimEnd word).Sublist cs := by
      have hsub := List.sublist_flatten_of_mem hword
      rw [hflatten] at hsub
      exact (trimEnd_sublist word).trans hsub
    rw [cells_eq_cellSum h] at hroom
    rw [cells_eq_cellSum (h.of_subset hsub.subset)]
    exact (cellSum_le_of_sublist hsub).trans hroom
  · rw [hnil] at hword
    cases hword

/-- A text of one word as it stands in a line: cut, with an ellipsis, if it is too wide. -/
def clip (width : Nat) (cs : List Char) : List Char :=
  if cells cs ≤ width then cs else fit (width - 1) cs ++ ['…']

theorem cellSum_clip_le {width : Nat} {cs : List Char} (h : Independent cs)
    (hroom : 0 < width ∨ cells cs ≤ width) :
    cellSum (clip width cs) ≤ width ∧ Independent (clip width cs) := by
  rw [cells_eq_cellSum h] at hroom
  rw [clip, cells_eq_cellSum h]
  split
  · rename_i hfits
    exact ⟨hfits, h⟩
  · rename_i hwide
    have hcut := cellSum_takeCells_le (fun g hg => (cells_of_mem_graphemes h hg).1) (width - 1)
    have hdots : cellSum ['…'] = 1 := by decide +kernel
    rw [fit, cells_eq_cellSum h, if_neg (by omega)]
    refine ⟨?_, (independent_takeCells h _).append (by decide)⟩
    rw [cellSum_append, hdots]
    omega

end Text

namespace StyledText

/-! ## Lines in their width -/

/-- What is dropped at the end of a line are blanks: as many as are too many, or all. -/
theorem exists_dropExcess (width : Nat) (t : StyledText) :
    ∃ blanks, t.chars = (t.dropExcess width).chars ++ blanks ∧ (∀ c ∈ blanks, isBlank c = true) ∧
      ((t.dropExcess width).chars.length ≤ width ∨
        (t.dropExcess width).chars = trimEnd t.chars) := by
  have hsplit := trimEnd_append_blanks t.chars
  have hchars : (t.dropExcess width).chars = t.chars.take (t.chars.length -
      min (t.chars.reverse.takeWhile isBlank).length (t.chars.length - width)) := by
    rw [dropExcess]
    split
    · rename_i hzero
      rw [hzero, Nat.sub_zero, List.take_length]
    · rfl
  have hlength : t.chars.length =
      (trimEnd t.chars).length + (t.chars.reverse.takeWhile isBlank).length := by
    have hlength := congrArg List.length hsplit
    rw [List.length_append, List.length_reverse] at hlength
    exact hlength.symm
  -- what is dropped lies behind the text without its blanks
  have hdrop (front back : List Char) {n : Nat} (h : front.length ≤ n) :
      (front ++ back).drop n ⊆ back := by
    rw [List.drop_append, List.drop_eq_nil_of_le h, List.nil_append]
    exact List.drop_subset _ _
  refine ⟨_, by rw [hchars, List.take_append_drop], ?_, ?_⟩
  · intro c hc
    have hfront : (trimEnd t.chars).length ≤ t.chars.length -
        min (t.chars.reverse.takeWhile isBlank).length (t.chars.length - width) := by omega
    have hback := hdrop _ (t.chars.reverse.takeWhile isBlank).reverse hfront
    rw [hsplit] at hback
    exact List.mem_takeWhile_imp (List.mem_reverse.mp (hback hc))
  · -- there are as many blanks as are too many, or they are all dropped
    rcases Nat.le_total (t.chars.length - width) (t.chars.reverse.takeWhile isBlank).length
      with hfew | hmany
    · refine Or.inl ?_
      rw [hchars, List.length_take]
      omega
    · refine Or.inr ?_
      have htake : t.chars.take (trimEnd t.chars).length = trimEnd t.chars := by
        have htake := @List.take_left _ (trimEnd t.chars)
          (t.chars.reverse.takeWhile isBlank).reverse
        rwa [hsplit] at htake
      rw [hchars, Nat.min_eq_left hmany, hlength, Nat.add_sub_cancel, htake]

/-- A line of a uniform text keeps to the width once its blanks are dropped. -/
theorem cellSum_dropExcess_le {width : Nat} {t : StyledText} (huniform : Uniform t.chars)
    (hroom : cellSum (trimEnd t.chars) ≤ width) : cellSum (t.dropExcess width).chars ≤ width := by
  obtain ⟨blanks, hsplit, -, hlength | htrim⟩ := t.exists_dropExcess width
  · rcases huniform with hink | hone
    · -- without blanks at its end the line is as it was
      rw [trimEnd_of_solid hink, hsplit, cellSum_append] at hroom
      omega
    · rw [cellSum_of_one]
      · exact hlength
      · intro c hc
        exact hone c (by rw [hsplit]; exact List.mem_append_left _ hc)
  · rw [htrim]
    exact hroom

/-- **A line that has room for all but the blanks at its end shows everything**, if it is chopped or
uniform. -/
theorem fitted {overflow : Overflow} {width : Nat} {t : StyledText} (ht : Independent t.chars)
    (hroom : cellSum (trimEnd t.chars) ≤ width)
    (hkind : overflow = .chopped ∧ 2 ≤ width ∨ Uniform t.chars) :
    inked ((t.dropExcess width).truncate overflow width).chars = inked t.chars ∧
      cellSum ((t.dropExcess width).truncate overflow width).chars ≤ width ∧
      Independent ((t.dropExcess width).truncate overflow width).chars := by
  obtain ⟨blanks, hsplit, hblanks, -⟩ := t.exists_dropExcess width
  have hdropped : Independent (t.dropExcess width).chars := by
    apply ht.of_subset
    rw [hsplit]
    exact List.subset_append_left _ _
  have hink : inked (t.dropExcess width).chars = inked t.chars := by
    rw [hsplit, inked_append, inked_of_blank hblanks, List.append_nil]
  rw [truncate.eq_def, cells_eq_cellSum hdropped]
  split
  · rename_i hfits
    exact ⟨hink, hfits, hdropped⟩
  · -- only in a text that is chopped can a line be too wide without its blanks
    rename_i hwide
    obtain ⟨rfl, hwidth⟩ : overflow = .chopped ∧ 2 ≤ width := by
      refine hkind.resolve_right fun huniform => hwide ?_
      exact cellSum_dropExcess_le huniform hroom
    have hpos : 0 < width := Nat.lt_of_lt_of_le Nat.zero_lt_two hwidth
    have hcells : ∀ g ∈ graphemes (t.dropExcess width).chars, g.cells = cellSum g.chars :=
      fun g hg => (cells_of_mem_graphemes hdropped hg).1
    have htrim : cellSum (trimEnd (t.dropExcess width).chars) ≤ width := by
      rwa [hsplit, trimEnd_append_of_blank hblanks] at hroom
    simp only [withChars, fit, cells_eq_cellSum hdropped, if_neg hwide]
    exact ⟨(inked_takeCells hdropped hpos htrim).trans hink, cellSum_takeCells_le hcells width,
      independent_takeCells hdropped width⟩

/-! ## Wrapping -/

theorem placesBehind_eq_nil {p : Char → Bool} {cs : List Char} (h : ∀ c ∈ cs, p c = false)
    (i : Nat) : placesBehind p i cs = [] := by
  induction cs generalizing i with
  | nil => rfl
  | cons c cs ih =>
      obtain ⟨hc, hcs⟩ := List.forall_mem_cons.mp h
      rw [placesBehind, hc, if_neg Bool.false_ne_true, ih hcs]

/-- An independent text is one line, without tabs. -/
theorem wrap_eq_wrapLine {t : StyledText} (h : Independent t.chars) (overflow : Overflow)
    (width : Nat) :
    t.wrap overflow width =
      (t.divide (breaksFrom overflow width 0 0 (lineWords t.chars))).map fun part =>
        (part.dropExcess width).truncate overflow width := by
  have hends : placesBehind (· = '\n') 0 t.chars = [] := by
    apply placesBehind_eq_nil
    intro c hc
    simpa using (isActing_eq_false_iff.mp (h c hc)).2.2.1
  have htabs : placesBehind (· = '\t') 0 t.chars = [] := by
    apply placesBehind_eq_nil
    intro c hc
    simpa using (isActing_eq_false_iff.mp (h c hc)).2.2.2
  have hlines : t.lines = [t] := by simp only [lines, hends]
  have hexpand : t.expandTabs = t := by simp only [expandTabs, htabs]
  simp only [wrap, hlines, List.flatMap_singleton, wrapLine, hexpand]

/-- Where a text is broken, and the lines that this leaves. -/
theorem exists_lines {overflow : Overflow} {width : Nat} {cs : List Char} (h : Independent cs)
    (hkind : overflow = .chopped ∧ 2 ≤ width ∨ Fits width cs) :
    ∃ first more, breaksFrom overflow width 0 0 (lineWords cs) = startsFrom first.length more ∧
      cs = (first :: more).flatten ∧ ∀ line ∈ first :: more, cellSum (trimEnd line) ≤ width := by
  rcases flatten_lineWords cs with hflatten | ⟨hnil, hblank⟩
  · have hwords : ∀ word ∈ lineWords cs, Independent word := fun word hword => by
      apply h.of_subset
      rw [← hflatten]
      exact fun c hc => List.mem_flatten.mpr ⟨word, hword, hc⟩
    have hfits : overflow = .chopped ∧ 2 ≤ width ∨
        ∀ word ∈ lineWords cs, cellSum (trimEnd word) ≤ width := by
      refine hkind.imp_right fun hfits word hword => ?_
      rw [← cells_eq_cellSum ((hwords word hword).of_subset (trimEnd_sublist word).subset)]
      exact hfits.2 word hword
    obtain ⟨first, more, hbreaks, htext, hlines⟩ := exists_breaks 0 []
      (fun word hword => ⟨hwords word hword, ink_of_mem_lineWords hword⟩) hfits (Nat.zero_le width)
    refine ⟨first, more, ?_, ?_, hlines⟩
    · simpa using hbreaks
    · rw [htext, hflatten, List.nil_append]
  · -- a text of blanks has no words, and is one line
    refine ⟨cs, [], ?_, by simp, ?_⟩
    · rw [hnil]
      rfl
    · simp [trimEnd_of_blank hblank]

/-- **A text that is broken into lines shows everything, and its lines keep to the width**, if words
that are too wide are chopped or if there are none. -/
theorem wrap_shows {overflow : Overflow} {width : Nat} {t : StyledText} (ht : Independent t.chars)
    (hkind : overflow = .chopped ∧ 2 ≤ width ∨ Fits width t.chars) :
    inked ((t.wrap overflow width).flatMap chars) = inked t.chars ∧
      ∀ line ∈ t.wrap overflow width, cellSum line.chars ≤ width ∧ Independent line.chars := by
  obtain ⟨first, more, hbreaks, htext, hroom⟩ := exists_lines ht hkind
  have hparts := t.chars_divide htext
  rw [wrap_eq_wrapLine ht, hbreaks]
  have hfitted (part : StyledText) (hpart : part ∈ t.divide (startsFrom first.length more)) :=
    have hmem : part.chars ∈ first :: more := by
      rw [← hparts]
      exact List.mem_map_of_mem hpart
    have hsub : part.chars ⊆ t.chars := by
      rw [htext]
      exact fun c hc => List.mem_flatten.mpr ⟨_, hmem, hc⟩
    fitted (ht.of_subset hsub) (hroom _ hmem)
      (hkind.imp_right fun hfits => hfits.1.of_subset hsub)
  constructor
  · rw [List.flatMap_def, inked_flatten, List.map_map, List.map_map, htext, ← hparts, inked_flatten,
      List.map_map]
    exact congrArg List.flatten (List.map_congr_left fun part hpart => (hfitted part hpart).1)
  · intro line hline
    obtain ⟨part, hpart, rfl⟩ := List.mem_map.mp hline
    exact (hfitted part hpart).2

/-- **A word in a narrow line is there as a whole, or cut with an ellipsis.** -/
theorem wrap_unbroken (width : Nat) {t : StyledText} (ht : Independent t.chars)
    (hword : Solid t.chars) :
    (t.wrap .ellipsis width).map chars = [clip width t.chars] := by
  have hbreaks : breaksFrom .ellipsis width 0 0 (lineWords t.chars) = [] := by
    by_cases hne : t.chars = []
    · rw [hne]
      rfl
    · rw [lineWords_of_solid hne hword, breaksFrom]
      split
      · rfl
      · rename_i hwide
        rw [if_pos (by omega)]
        rfl
  have hdrop : t.dropExcess width = t := by
    have hblanks := trimEnd_append_blanks t.chars
    rw [trimEnd_of_solid hword, List.append_right_eq_self, List.reverse_eq_nil_iff] at hblanks
    rw [dropExcess, hblanks]
    simp
  rw [wrap_eq_wrapLine ht, hbreaks]
  simp only [divide, List.isEmpty_nil, if_true, List.map_singleton, hdrop, truncate, clip]
  split <;> rfl

end StyledText

end JvmDeps
