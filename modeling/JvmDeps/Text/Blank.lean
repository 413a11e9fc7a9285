set_option autoImplicit false

/-! # White space

The characters that count as blank (`isBlank`), the two ways in which blanks are dropped (`trim`
removes them at both ends of a text, `words` cuts a text into its non-blank pieces), and the words
of a line with their blanks (`lineWords`), between which it can be broken.
-/

namespace JvmDeps.Text

/-- The blank characters: tab to carriage return, the four separators below the space, the space,
and the separators beyond ASCII. The zero-width space and the byte order mark are not blank. -/
def isBlank (c : Char) : Bool :=
  let n := c.toNat
  (0x09 ≤ n && n ≤ 0x0d) || (0x1c ≤ n && n ≤ 0x20) || n == 0x85 || n == 0xa0 || n == 0x1680 ||
    (0x2000 ≤ n && n ≤ 0x200a) || n == 0x2028 || n == 0x2029 || n == 0x202f || n == 0x205f ||
    n == 0x3000

/-- Drops the blanks at the end. -/
def trimEnd (cs : List Char) : List Char :=
  (cs.reverse.dropWhile isBlank).reverse

/-- Drops the blanks at both ends. -/
def trimChars (cs : List Char) : List Char :=
  trimEnd (cs.dropWhile isBlank)

/-- Drops the blanks at both ends. -/
def trim (s : String) : String :=
  String.ofList (trimChars s.toList)

/-- The pieces between the characters that satisfy `p`: one more than there are such characters. -/
def cutWhere (p : Char → Bool) : List Char → List (List Char)
  | [] => [[]]
  | c :: cs =>
    if p c then [] :: cutWhere p cs
    else
      match cutWhere p cs with
      | [] => [[c]]
      | piece :: pieces => (c :: piece) :: pieces

theorem cutWhere_ne_nil (p : Char → Bool) (cs : List Char) : cutWhere p cs ≠ [] := by
  cases cs with
  | nil => simp [cutWhere]
  | cons c cs =>
    rw [cutWhere]
    split
    · simp
    · split <;> simp

theorem cutWhere_of_none {p : Char → Bool} {cs : List Char} (h : ∀ c ∈ cs, p c = false) :
    cutWhere p cs = [cs] := by
  induction cs with
  | nil => rfl
  | cons c cs ih =>
    obtain ⟨hc, hcs⟩ := List.forall_mem_cons.mp h
    rw [cutWhere, hc, if_neg Bool.false_ne_true, ih hcs]

/-- The maximal non-blank pieces of a text, in order. -/
def words (s : String) : List String :=
  ((cutWhere isBlank s.toList).filter (!·.isEmpty)).map String.ofList

/-- The words of a text: each with the blanks after it, the first also with those in front. -/
def lineWords (cs : List Char) : List (List Char) :=
  match cs.splitBy fun a b => !isBlank a || isBlank b with
  | [] => []
  | first :: rest =>
    if first.all isBlank then
      match rest with
      | [] => []
      | second :: rest => (first ++ second) :: rest
    else first :: rest

end JvmDeps.Text
