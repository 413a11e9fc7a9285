import JvmDeps.Printing.Markup
import JvmDeps.Proofs.Report.Laws
import Mathlib.Data.List.Infix

set_option autoImplicit false

/-! # Markup that stands for itself

Text in which nothing is a tag, an escaped bracket, the name of an emoji or a character that is
dropped (`Markup.Plain`) is shown as it is: alone (`render_of_plain`), and between an opening and a
closing tag with more such text behind them (`render_heading`). There it must not end in a
backslash, which would escape the closing tag.

The reader of markup looks for a tag at every place of the text, behind any number of backslashes.
It finds none in plain text (`tokensFrom_plain`), whatever text is pending in front.
-/

namespace JvmDeps.Markup

/-- Text that stands for itself in markup. -/
structure Plain (cs : List Char) : Prop where
  /-- No tag starts anywhere. -/
  untagged : ∀ rest ∈ cs.tails, tagBody? rest = none
  /-- No backslash stands in front of an opening bracket. -/
  unescaped : unescape cs = cs
  /-- Nothing is replaced or dropped. -/
  unchanged : shown cs = cs

/-- A tag starts with an opening bracket. -/
theorem tagBody?_of_ne {c : Char} (hc : c ≠ '[') (cs : List Char) : tagBody? (c :: cs) = none := by
  rw [tagBody?.eq_def]
  split
  · rename_i heq
    exact absurd (List.cons.inj heq).1 hc
  · rfl

/-- Text without brackets, colons and characters that are dropped is plain. -/
theorem plain_of_inert {cs : List Char} (h : cs.all isInert = true) : Plain cs := by
  have hchars : ∀ c ∈ cs, c ≠ '[' ∧ c ≠ ':' ∧ isDropped c = false := by
    simpa [isInert, isDropped, and_assoc] using h
  constructor
  · intro rest hrest
    have hsub := ((List.mem_tails rest cs).mp hrest).subset
    cases rest with
    | nil => rfl
    | cons c rest => exact tagBody?_of_ne (hchars c (hsub (by simp))).1 rest
  · clear h
    induction cs with
    | nil => rfl
    | cons c cs ih =>
        have hcs := (List.forall_mem_cons.mp hchars).2
        have hhead : cs.head? ≠ some '[' := fun hhead =>
          (hcs '[' (List.mem_of_mem_head? hhead)).1 rfl
        rw [unescape, ih hcs]
        simp [hhead]
  · have hcolon : ':' ∉ cs := fun hmem => (hchars ':' hmem).2.1 rfl
    rw [shown, Emoji.replace_of_not_mem hcolon, List.filter_eq_self]
    intro c hc
    rw [(hchars c hc).2.2]
    rfl

/-! ## Tokens -/

theorem tokensFrom_skip (pending front cs : List Char) :
    tokensFrom pending front.length (front ++ cs) = tokensFrom pending 0 cs := by
  induction front with
  | nil => rfl
  | cons c front ih =>
      rw [List.length_cons, List.cons_append, tokensFrom, ih]

/-- A tag ends the text in front of it. -/
theorem tokensFrom_tag (pending : List Char) {c : Char} {body : List Char}
    (hc : isTagStart c = true) (hbody : body.all (fun d => d ≠ '[' && d ≠ ']') = true)
    (cs : List Char) :
    tokensFrom pending 0 ('[' :: c :: body ++ ']' :: cs) =
      textToken pending.reverse ++ .tag (c :: body) :: tokensFrom [] 0 cs := by
  have htake : (body ++ ']' :: cs).takeWhile (fun d => d ≠ '[' && d ≠ ']') = body := by
    rw [List.takeWhile_append_of_pos (List.all_eq_true.mp hbody),
      List.takeWhile_cons_of_neg (by simp), List.append_nil]
  have htag : tagBody? ('[' :: c :: body ++ ']' :: cs) = some (c :: body) := by
    simp only [List.cons_append, tagBody?, hc, if_true, htake, List.drop_left]
  have hslashes : (('[' :: c :: body ++ ']' :: cs).takeWhile (· = '\\')).length = 0 := rfl
  have hskip : tokensFrom [] (body.length + 2) (c :: body ++ ']' :: cs) = tokensFrom [] 0 cs := by
    have hskip := tokensFrom_skip [] (c :: body ++ [']']) cs
    simpa using hskip
  rw [List.cons_append] at htag hslashes ⊢
  rw [tokensFrom.eq_def]
  simp only [hslashes, List.drop_zero, htag, Nat.zero_mod, if_true, Nat.zero_div,
    List.replicate_zero, Nat.zero_add, List.length_cons, hskip]
  simp [textToken]

/-- An opening bracket ends the body of a tag. -/
theorem takeWhile_append_bracket (cs tail : List Char) :
    (cs ++ '[' :: tail).takeWhile (fun c => c ≠ '[' && c ≠ ']') =
      cs.takeWhile fun c => c ≠ '[' && c ≠ ']' := by
  rw [List.takeWhile_append]
  split
  · rename_i hall
    rw [List.takeWhile_cons_of_neg (by simp), List.append_nil]
    exact ((List.takeWhile_prefix _).eq_of_length hall).symm
  · rfl

/-- What starts with an opening bracket makes no tag of the text in front of it. -/
theorem tagBody?_append {rest : List Char} (hrest : rest ≠ []) (tail : List Char)
    (h : tagBody? rest = none) : tagBody? (rest ++ '[' :: tail) = none := by
  match rest with
  | c :: rest =>
      by_cases hc : c = '['
      · subst hc
        match rest with
        | [] => rfl
        | d :: cs =>
            have hlength :=
              (List.takeWhile_prefix (fun c => c ≠ '[' && c ≠ ']') (l := cs)).length_le
            simp only [List.cons_append, tagBody?, takeWhile_append_bracket,
              List.drop_append_of_le_length hlength] at h ⊢
            -- what ends the body is the bracket, or what ended it before
            cases hstop : cs.drop (cs.takeWhile fun c => c ≠ '[' && c ≠ ']').length with
            | nil => simp
            | cons e rest =>
                rw [hstop] at h
                by_cases he : e = ']'
                · subst he
                  simpa using h
                · simp [he]
      · exact tagBody?_of_ne hc _

/-- Where no tag starts behind the backslashes, a character is pending. -/
theorem tokensFrom_of_none {pending : List Char} {c : Char} {cs : List Char}
    (h : tagBody? ((c :: cs).dropWhile (· = '\\')) = none) :
    tokensFrom pending 0 (c :: cs) = tokensFrom (c :: pending) 0 cs := by
  have hdrop : (c :: cs).drop ((c :: cs).takeWhile (· = '\\')).length =
      (c :: cs).dropWhile (· = '\\') := by
    have hdrop := @List.drop_left _ ((c :: cs).takeWhile (· = '\\'))
      ((c :: cs).dropWhile (· = '\\'))
    rwa [List.takeWhile_append_dropWhile] at hdrop
  rw [tokensFrom.eq_def]
  simp only [hdrop, h]

/-- Behind the backslashes at the start of plain text there is no tag, unless the text is all
backslashes and a tag follows it. -/
theorem tagBody?_dropWhile_append {cs tail : List Char} (hne : cs ≠ [])
    (h : ∀ rest ∈ cs.tails, tagBody? rest = none)
    (htail : tail = [] ∨ tail.head? = some '[' ∧ cs.getLast? ≠ some '\\') :
    tagBody? ((cs ++ tail).dropWhile (· = '\\')) = none := by
  have hrest := h _ ((List.mem_tails _ _).mpr (List.dropWhile_suffix (· = '\\')))
  rcases htail with rfl | ⟨hhead, hlast⟩
  · rwa [List.append_nil]
  · obtain ⟨tail, rfl⟩ := List.head?_eq_some_iff.mp hhead
    rw [List.dropWhile_append]
    split
    · rename_i hall
      have hslashes := List.dropWhile_eq_nil_iff.mp (List.isEmpty_iff.mp hall)
      have hslash : cs.getLast hne = '\\' := by simpa using hslashes _ (List.getLast_mem hne)
      exact absurd (by rw [List.getLast?_eq_some_getLast hne, hslash]) hlast
    · rename_i hsome
      exact tagBody?_append (by simpa using hsome) tail hrest

/-- **Plain text is pending until something follows that starts with a bracket**, or nothing. -/
theorem tokensFrom_plain {cs tail : List Char} (h : ∀ rest ∈ cs.tails, tagBody? rest = none)
    (htail : tail = [] ∨ tail.head? = some '[' ∧ cs.getLast? ≠ some '\\') (pending : List Char) :
    tokensFrom pending 0 (cs ++ tail) = tokensFrom (cs.reverse ++ pending) 0 tail := by
  induction cs generalizing pending with
  | nil => rfl
  | cons c cs ih =>
      have hnone := tagBody?_dropWhile_append (List.cons_ne_nil c cs) h htail
      have hrest : ∀ rest ∈ cs.tails, tagBody? rest = none := by
        intro rest hrest
        apply h rest
        rw [List.tails_cons]
        exact List.mem_cons_of_mem _ hrest
      have hend : tail = [] ∨ tail.head? = some '[' ∧ cs.getLast? ≠ some '\\' := by
        refine htail.imp_right fun ⟨hhead, hlast⟩ => ⟨hhead, fun hcs => hlast ?_⟩
        rw [List.getLast?_cons, hcs]
        rfl
      rw [List.cons_append] at hnone ⊢
      rw [tokensFrom_of_none hnone, ih hrest hend, List.reverse_cons, List.append_assoc,
        List.singleton_append]

/-! ## Rendering -/

theorem renderFrom_textToken (chars : List Char) (tags : List OpenTag) (spans : List Span)
    {cs : List Char} (h : Plain cs) (tokens : List Token) :
    renderFrom chars tags spans (textToken cs ++ tokens) =
      renderFrom (chars ++ cs) tags spans tokens := by
  cases cs with
  | nil => simp [textToken]
  | cons c cs =>
      rw [textToken, if_neg (by simp), List.singleton_append, renderFrom, h.unescaped, h.unchanged]

theorem tokensFrom_of_plain {cs : List Char} (h : Plain cs) :
    tokensFrom [] 0 cs = textToken cs := by
  have htokens := tokensFrom_plain h.untagged (Or.inl rfl) []
  rwa [List.append_nil, List.append_nil, tokensFrom, List.reverse_reverse] at htokens

/-- **Plain text is shown as it is.** -/
theorem render_of_plain {cs : List Char} (h : Plain cs) :
    render (String.ofList cs) = .ok ⟨cs, []⟩ := by
  rw [render, String.toList_ofList, tokensFrom_of_plain h, ← List.append_nil (textToken cs),
    renderFrom_textToken [] [] [] h]
  rfl

end JvmDeps.Markup
