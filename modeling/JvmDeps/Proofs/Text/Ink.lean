import JvmDeps.Text.Blank
import Mathlib.Data.List.TakeWhile

set_option autoImplicit false

/-! # What a text shows

The characters of a text that are not blank (`inked`): what is left of it, in order, when it is
broken into lines or laid out in columns. Blanks at the end of a text are dropped by `trimEnd`. A
text is `Independent` if no character of it acts on others.
-/

namespace JvmDeps.Text

/-! ## Ink -/

/-- The characters of a text that are not blank, in order. -/
def inked (cs : List Char) : List Char := cs.filter (!isBlank ·)

@[simp] theorem inked_nil : inked [] = [] := rfl

@[simp] theorem inked_append (cs ds : List Char) : inked (cs ++ ds) = inked cs ++ inked ds :=
  List.filter_append cs ds

theorem inked_eq_nil_iff {cs : List Char} : inked cs = [] ↔ ∀ c ∈ cs, isBlank c = true := by
  simp [inked]

theorem inked_of_blank {cs : List Char} (h : ∀ c ∈ cs, isBlank c = true) : inked cs = [] :=
  inked_eq_nil_iff.mpr h

/-- The text has no blanks. -/
def Solid (cs : List Char) : Prop := ∀ c ∈ cs, isBlank c = false

instance (cs : List Char) : Decidable (Solid cs) := List.decidableBAll _ cs

theorem inked_of_solid {cs : List Char} (h : Solid cs) : inked cs = cs := by
  rw [inked, List.filter_eq_self]
  intro c hc
  rw [h c hc]
  rfl

@[simp] theorem inked_blank_cons (cs : List Char) : inked (' ' :: cs) = inked cs := rfl

@[simp] theorem inked_replicate (n : Nat) : inked (List.replicate n ' ') = [] := by
  apply inked_of_blank
  intro c hc
  rw [List.eq_of_mem_replicate hc]
  decide

theorem inked_flatten (lines : List (List Char)) :
    inked lines.flatten = (lines.map inked).flatten := by
  rw [inked, List.filter_flatten]
  rfl

/-! ## Blanks at the end -/

theorem trimEnd_append_blanks (cs : List Char) :
    trimEnd cs ++ (cs.reverse.takeWhile isBlank).reverse = cs := by
  rw [trimEnd, ← List.reverse_append, List.takeWhile_append_dropWhile, List.reverse_reverse]

/-- The blanks at the end of a text, and what is in front of them. -/
theorem exists_trimEnd (cs : List Char) :
    ∃ blanks, cs = trimEnd cs ++ blanks ∧ ∀ c ∈ blanks, isBlank c = true := by
  refine ⟨_, (trimEnd_append_blanks cs).symm, ?_⟩
  intro c hc
  exact List.mem_takeWhile_imp (List.mem_reverse.mp hc)

theorem trimEnd_of_blank {cs : List Char} (h : ∀ c ∈ cs, isBlank c = true) : trimEnd cs = [] := by
  rw [trimEnd, List.reverse_eq_nil_iff, List.dropWhile_eq_nil_iff]
  exact fun c hc => h c (List.mem_reverse.mp hc)

/-- Blanks at the end make no difference. -/
theorem trimEnd_append_of_blank {cs ds : List Char} (h : ∀ c ∈ ds, isBlank c = true) :
    trimEnd (cs ++ ds) = trimEnd cs := by
  have hdrop : ds.reverse.dropWhile isBlank = [] :=
    List.dropWhile_eq_nil_iff.mpr fun c hc => h c (List.mem_reverse.mp hc)
  rw [trimEnd, trimEnd, List.reverse_append, List.dropWhile_append, hdrop]
  rfl

theorem trimEnd_of_solid {cs : List Char} (h : Solid cs) : trimEnd cs = cs := by
  have hdrop : cs.reverse.dropWhile isBlank = cs.reverse := by
    cases hreverse : cs.reverse with
    | nil => rfl
    | cons c rest =>
        have hc : isBlank c = false := h c (List.mem_reverse.mp (by rw [hreverse]; simp))
        rw [List.dropWhile_cons_of_neg (by rw [hc]; decide)]
  rw [trimEnd, hdrop, List.reverse_reverse]

/-- A character that is not blank keeps all that stands in front of it. -/
theorem trimEnd_append {cs ds : List Char} (h : ∃ c ∈ ds, isBlank c = false) :
    trimEnd (cs ++ ds) = cs ++ trimEnd ds := by
  obtain ⟨c, hc, hink⟩ := h
  have hne : ds.reverse.dropWhile isBlank ≠ [] := by
    intro hnil
    have hblank := List.dropWhile_eq_nil_iff.mp hnil c (List.mem_reverse.mpr hc)
    rw [hink] at hblank
    cases hblank
  rw [trimEnd, trimEnd, List.reverse_append, List.dropWhile_append,
    List.isEmpty_eq_false_iff.mpr hne]
  simp

theorem trimEnd_sublist (cs : List Char) : (trimEnd cs).Sublist cs := by
  obtain ⟨blanks, hcs, -⟩ := exists_trimEnd cs
  have hsub := List.sublist_append_left (trimEnd cs) blanks
  rwa [← hcs] at hsub

/-! ## Independent characters -/

/-- A character that acts on its neighbours, or on where they stand: the joiner and the selector of
pictures, the line end and the tab. -/
def isActing (c : Char) : Bool :=
  c = '\u200d' || c = '\ufe0f' || c = '\n' || c = '\t'

theorem isActing_eq_false_iff {c : Char} :
    isActing c = false ↔ c ≠ '\u200d' ∧ c ≠ '\ufe0f' ∧ c ≠ '\n' ∧ c ≠ '\t' := by
  simp [isActing, and_assoc]

/-- Every character of the text stands for itself. -/
def Independent (cs : List Char) : Prop := ∀ c ∈ cs, isActing c = false

instance (cs : List Char) : Decidable (Independent cs) := List.decidableBAll _ cs

theorem Independent.append {cs ds : List Char} (hcs : Independent cs) (hds : Independent ds) :
    Independent (cs ++ ds) := by
  intro c hc
  rcases List.mem_append.mp hc with hc | hc
  · exact hcs c hc
  · exact hds c hc

theorem Independent.of_subset {cs ds : List Char} (h : Independent ds) (hsub : cs ⊆ ds) :
    Independent cs := fun c hc => h c (hsub hc)

/-- The characters of the text are the printable ones of ASCII. -/
def Ascii (cs : List Char) : Prop := ∀ c ∈ cs, 0x20 ≤ c.toNat ∧ c.toNat < 0x7f

instance (cs : List Char) : Decidable (Ascii cs) := List.decidableBAll _ cs

theorem Ascii.independent {cs : List Char} (h : Ascii cs) : Independent cs := by
  intro c hc
  obtain ⟨hlow, hhigh⟩ := h c hc
  rw [isActing_eq_false_iff]
  refine ⟨?_, ?_, ?_, ?_⟩ <;> rintro rfl
  · exact absurd hhigh (by decide)
  · exact absurd hhigh (by decide)
  · exact absurd hlow (by decide)
  · exact absurd hlow (by decide)

theorem independent_replicate (n : Nat) : Independent (List.replicate n ' ') := by
  intro c hc
  rw [List.eq_of_mem_replicate hc]
  decide

end JvmDeps.Text
