import JvmDeps.Proofs.Data.Outcome
import JvmDeps.Proofs.Printing.PlainMarkup

set_option autoImplicit false

/-! # Tags of markup

A tag opens a style under the normal form of its name (`Markup.Opens`). So does every word of small
letters (`exists_opens`), whether there is such a style or not, and its normal form is one word: it
is never the name of a style of two words.

Between plain texts a tag leaves nothing but a span, closed or not (`render_styled`,
`render_tagged`). A closing tag whose name no open tag has is refused, whatever stands behind it
(`render_unmatched`).
-/

namespace JvmDeps

/-! ## Words of small letters -/

namespace Text

theorem isLower_bounds {c : Char} (h : c.isLower = true) : 97 ≤ c.toNat ∧ c.toNat ≤ 122 := by
  have hcode : (decide (c.val ≥ 'a'.val) && decide (c.val ≤ 'z'.val)) = true := h
  rw [Bool.and_eq_true, decide_eq_true_eq, decide_eq_true_eq] at hcode
  exact ⟨UInt32.le_iff_toNat_le.mp hcode.1, UInt32.le_iff_toNat_le.mp hcode.2⟩

theorem isBlank_of_isLower {c : Char} (h : c.isLower = true) : isBlank c = false := by
  have hbounds := isLower_bounds h
  simp only [isBlank, Bool.or_eq_false_iff, Bool.and_eq_false_iff, decide_eq_false_iff_not,
    beq_eq_false_iff_ne]
  omega

theorem lowerChar_of_isLower {c : Char} (h : c.isLower = true) : lowerChar c = [c] := by
  obtain ⟨hlow, hhigh⟩ := isLower_bounds h
  have hsmall : c.toLower = c := by
    refine dif_neg ?_
    rintro ⟨-, hle⟩
    have hupper : c.toNat ≤ 90 := UInt32.le_iff_toNat_le.mp hle
    omega
  rw [lowerChar, if_pos (by omega), hsmall]

theorem lowerAfter_of_isLower {cs : List Char} (h : ∀ c ∈ cs, c.isLower = true) (cased : Bool) :
    lowerAfter cased cs = cs := by
  induction cs generalizing cased with
  | nil => rfl
  | cons c cs ih =>
      obtain ⟨hc, hcs⟩ := List.forall_mem_cons.mp h
      have hsigma : c ≠ 'Σ' := by
        rintro rfl
        cases hc
      rw [lowerAfter, ih hcs, lowerChar_of_isLower hc]
      simp [hsigma]

theorem lower_of_isLower {cs : List Char} (h : ∀ c ∈ cs, c.isLower = true) : lower cs = cs :=
  lowerAfter_of_isLower h false

/-- Text without blanks has none to drop. -/
theorem trim_of_solid {s : String} (h : Solid s.toList) : trim s = s := by
  have hfront : s.toList.dropWhile isBlank = s.toList := by
    cases hs : s.toList with
    | nil => rfl
    | cons c cs =>
        rw [hs] at h
        rw [List.dropWhile_cons_of_neg (by simp [h c (by simp)])]
  rw [trim, trimChars, hfront, trimEnd_of_solid h, String.ofList_toList]

theorem words_of_solid {s : String} (hne : s ≠ "") (h : Solid s.toList) : words s = [s] := by
  have hchars : s.toList ≠ [] := by simpa using hne
  rw [words, cutWhere_of_none h, List.filter_cons_of_pos (by simpa using hchars), List.filter_nil,
    List.map_singleton, String.ofList_toList]

end Text

open Text

namespace Markup

theorem IsTag.isLower {tag : String} (h : IsTag tag) : ∀ c ∈ tag.toList, c.isLower = true :=
  List.all_eq_true.mp h.letters

theorem IsTag.solid {tag : String} (h : IsTag tag) : Solid tag.toList :=
  fun c hc => isBlank_of_isLower (h.isLower c hc)

theorem IsTag.ne {tag : String} (h : IsTag tag) {c : Char} (hc : c.isLower = false) :
    c ∉ tag.toList := by
  intro hmem
  rw [h.isLower c hmem] at hc
  cases hc

theorem IsTag.lower_eq {tag : String} (h : IsTag tag) :
    String.ofList (lower tag.toList) = tag := by
  rw [lower_of_isLower h.isLower, String.ofList_toList]

end Markup

open Markup

/-! ## Styles of one word -/

/-- A word of small letters is a color by its name, or none. -/
theorem Color.paintOf_of_isTag {word : String} (h : IsTag word) :
    paintOf word = .error .unknown ∨ ∃ paint, paintOf word = .ok paint := by
  have hbracket (start : String) : inBrackets? start word = none := by
    have hlast : word.toList.getLast? ≠ some ')' := fun hlast =>
      h.ne rfl (List.mem_of_getLast? hlast)
    simp [inBrackets?, hlast]
  rw [paintOf]
  split
  · exact .inr ⟨_, rfl⟩
  · split
    · exact .inr ⟨_, rfl⟩
    · have hhash : '#' ∉ word.toList := h.ne rfl
      rw [hbracket, hbracket]
      split
      · simp_all
      · contradiction
      · contradiction
      · exact .inl rfl

theorem Style.text_of_effect (a : Effect) : ({ marks := [(a, true)] } : Style).text = a.word := by
  cases a <;> decide +kernel

theorem Style.text_of_color (color : Color) :
    ({ color := some color } : Style).text = color.name := by
  simp [text, words, mark?]

/-- A word of small letters is a style of its own name or of that of an effect, or none. -/
theorem Style.ofText_of_isTag {word : String} (h : IsTag word) :
    ofText word = .error .unknown ∨
      ∃ style, ofText word = .ok style ∧
        (style.text = word ∨ ∃ a : Effect, style.text = a.word) := by
  rw [ofText, trim_of_solid h.solid, words_of_solid h.nonempty h.solid]
  split
  · rename_i hnone
    refine .inr ⟨plain, rfl, .inl ?_⟩
    rw [hnone]
    rfl
  · rw [readWords, h.lower_eq, addWord]
    cases hword : Effect.ofWord? word with
    | some a => exact .inr ⟨_, rfl, .inr ⟨a, text_of_effect a⟩⟩
    | none =>
        simp only [Color.ofWord, h.lower_eq]
        rcases Color.paintOf_of_isTag h with hpaint | ⟨paint, hpaint⟩
        · rw [hpaint]
          exact .inl rfl
        · rw [hpaint]
          exact .inr ⟨_, rfl, .inl (text_of_color ⟨word, paint⟩)⟩

theorem mem_toList_ofList {c : Char} {cs : List Char} (h : c ∈ cs) :
    c ∈ (String.ofList cs).toList := by
  rwa [String.toList_ofList]

/-- A name of the theme is no word of letters, or what stands for it is a style. -/
theorem Theme.dotted_or_isSome : ∀ e ∈ Theme.table,
    '.' ∈ e.1.toList ∨ (Style.ofText e.2).toOption.isSome = true := by
  unfold Theme.table
  -- entry by entry: to decide this for the whole table at once takes long
  repeat' first
    | exact List.forall_mem_nil _
    | refine List.forall_mem_cons.mpr ⟨?_, ?_⟩
    | exact .inl (mem_toList_ofList (by decide))
    | exact .inr (by decide +kernel)

theorem Style.exists_of_isSome {name : String} (h : (Style.find name).toOption.isSome = true) :
    ∃ style, Style.find name = .ok style := by
  cases hfind : Style.find name with
  | error e =>
      rw [hfind] at h
      cases h
  | ok style => exact ⟨style, rfl⟩

/-- The word of an effect is one of letters, with two exceptions. -/
theorem Effect.isTag_word (a : Effect) : IsTag a.word ∨ a.word ∈ ["blink2", "underline2"] := by
  cases a
  case fastBlink | doubleUnderline => exact .inr (by decide)
  all_goals exact .inl ⟨by decide, by decide⟩

/-- The names under which tags can open a style are styles, or none. -/
theorem Style.exists_find {name : String}
    (h : IsTag name ∨ name ∈ ["blink2", "underline2", "bold cyan"]) :
    ∃ style, Style.find name = .ok style := by
  apply exists_of_isSome
  rcases h with h | hname
  · rw [Style.find]
    cases hwords : Theme.words? name with
    | none =>
        rw [Option.getD_none]
        rcases ofText_of_isTag h with hunknown | ⟨style, hstyle, -⟩
        · rw [hunknown]
          rfl
        · rw [hstyle]
          rfl
    | some text =>
        obtain ⟨before, behind, htable, -⟩ := List.lookup_eq_some_iff.mp hwords
        have hsome := (Theme.dotted_or_isSome (name, text) (by simp [htable])).resolve_left
          (h.ne rfl)
        rw [Option.getD_some]
        cases hstyle : ofText text with
        | error e =>
            rw [hstyle] at hsome
            cases hsome
        | ok style => rfl
  · simp only [List.mem_cons, List.not_mem_nil, or_false] at hname
    rcases hname with rfl | rfl | rfl <;> decide +kernel

namespace Markup

/-! ## Opening and closing -/

/-- The tag opens a style under a name. -/
structure Opens (tag name : String) : Prop where
  isTag : IsTag tag ∨ tag = "bold cyan"
  normal : Style.normalName tag = .ok name
  found : ∃ style, Style.find name = .ok style

theorem opens_boldCyan : Opens "bold cyan" "bold cyan" where
  isTag := .inr rfl
  normal := by decide +kernel
  found := Style.exists_find (.inr (by decide))

/-- **A word of small letters opens a style under a name of one word.** -/
theorem exists_opens {tag : String} (h : IsTag tag) :
    ∃ name, Opens tag name ∧ name ≠ "bold cyan" := by
  have hname : ∃ name, Style.normalName tag = .ok name ∧
      (name = tag ∨ ∃ a : Effect, name = a.word) := by
    rw [Style.normalName, trim_of_solid h.solid, h.lower_eq]
    rcases Style.ofText_of_isTag h with hunknown | ⟨style, hstyle, htext⟩
    · rw [hunknown]
      exact ⟨tag, rfl, .inl rfl⟩
    · rw [hstyle]
      exact ⟨style.text, rfl, htext⟩
  obtain ⟨name, hnormal, rfl | ⟨a, rfl⟩⟩ := hname
  · refine ⟨name, ⟨.inl h, hnormal, Style.exists_find (.inl h)⟩, ?_⟩
    rintro rfl
    exact h.ne (c := ' ') rfl (by decide)
  · have hfind : IsTag a.word ∨ a.word ∈ ["blink2", "underline2", "bold cyan"] :=
      a.isTag_word.imp_right fun hword => by
        rcases List.mem_pair.mp hword with hword | hword <;> simp [hword]
    refine ⟨a.word, ⟨.inl h, hnormal, Style.exists_find hfind⟩, ?_⟩
    cases a <;> decide

variable {tag name : String}

/-- How the body of a tag is written. -/
theorem Opens.body (h : Opens tag name) :
    ∃ c cs, tag.toList = c :: cs ∧ isTagStart c = true ∧ c ≠ '/' ∧
      (∀ d ∈ c :: cs, d ≠ '[' ∧ d ≠ ']' ∧ d ≠ '=') ∧ trim tag = tag ∧ tag ≠ "" := by
  rcases h.isTag with htag | rfl
  · cases hchars : tag.toList with
    | nil => exact absurd (by simpa using hchars) htag.nonempty
    | cons c cs =>
        have hlower := htag.isLower
        rw [hchars] at hlower
        have hne {d e : Char} (hd : d ∈ c :: cs) (he : e.isLower = false) : d ≠ e := by
          rintro rfl
          rw [hlower d hd] at he
          cases he
        refine ⟨c, cs, rfl, ?_, hne (by simp) rfl, fun d hd => ?_, trim_of_solid htag.solid,
          htag.nonempty⟩
        · simp [isTagStart, hlower c (by simp)]
        · exact ⟨hne hd rfl, hne hd rfl, hne hd rfl⟩
  · have hnone : ('b' :: "old cyan".toList).all
        (fun d => d ≠ '[' && d ≠ ']' && d ≠ '=') = true := by decide
    refine ⟨'b', "old cyan".toList, by decide, by decide, by decide, fun d hd => ?_,
      by decide +kernel, by decide⟩
    simpa [and_assoc] using List.all_eq_true.mp hnone d hd

theorem Opens.nameOf_eq (h : Opens tag name) : nameOf tag.toList = tag := by
  obtain ⟨c, cs, hchars, -, -, hnone, -, -⟩ := h.body
  have htake : tag.toList.takeWhile (· ≠ '=') = tag.toList := by
    rw [List.takeWhile_eq_self_iff]
    intro d hd
    rw [hchars] at hd
    simpa using (hnone d hd).2.2
  rw [nameOf, htake, String.ofList_toList]

theorem Opens.parameterOf?_eq (h : Opens tag name) : parameterOf? tag.toList = none := by
  obtain ⟨c, cs, hchars, -, -, hnone, -, -⟩ := h.body
  have hdrop : tag.toList.dropWhile (· ≠ '=') = [] := by
    rw [List.dropWhile_eq_nil_iff]
    intro d hd
    rw [hchars] at hd
    simpa using (hnone d hd).2.2
  rw [parameterOf?, hdrop]

/-- A tag as it is written ends the text in front of it. -/
theorem Opens.tokensFrom_eq (h : Opens tag name) (pending cs : List Char) :
    tokensFrom pending 0 ('[' :: tag.toList ++ ']' :: cs) =
      textToken pending.reverse ++ .tag tag.toList :: tokensFrom [] 0 cs := by
  obtain ⟨c, body, hchars, hstart, -, hnone, -, -⟩ := h.body
  rw [hchars]
  refine tokensFrom_tag pending hstart (List.all_eq_true.mpr fun d hd => ?_) cs
  have hd := hnone d (List.mem_cons_of_mem c hd)
  simp [hd.1, hd.2.1]

/-- So does a tag with a slash in front. -/
theorem Opens.tokensFrom_slash (h : Opens tag name) (pending cs : List Char) :
    tokensFrom pending 0 ('[' :: '/' :: tag.toList ++ ']' :: cs) =
      textToken pending.reverse ++ .tag ('/' :: tag.toList) :: tokensFrom [] 0 cs := by
  obtain ⟨c, body, hchars, -, -, hnone, -, -⟩ := h.body
  rw [hchars]
  refine tokensFrom_tag pending rfl (List.all_eq_true.mpr fun d hd => ?_) cs
  have hd := hnone d hd
  simp [hd.1, hd.2.1]

theorem Opens.renderFrom_open (h : Opens tag name) (chars : List Char) (tags : List OpenTag)
    (spans : List Span) (tokens : List Token) :
    renderFrom chars tags spans (.tag tag.toList :: tokens) =
      renderFrom chars (⟨chars.length, name, none⟩ :: tags) spans tokens := by
  obtain ⟨c, cs, hchars, -, hslash, -, -, -⟩ := h.body
  have hname : nameOf (c :: cs) = tag := hchars ▸ h.nameOf_eq
  have hparameter : parameterOf? (c :: cs) = none := hchars ▸ h.parameterOf?_eq
  rw [hchars, renderFrom]
  · rw [hname, hparameter, h.normal]
    rfl
  · rintro body hbody
    exact hslash (List.cons.inj hbody).1

/-- A closing tag takes the innermost tag of its name. -/
theorem Opens.close_eq (h : Opens tag name) (tags : List OpenTag) :
    close tag.toList tags = match take? name tags with
      | some (open?, rest) => if open?.isClosable then .ok (open?, rest) else .error .malformed
      | none => .error .malformed := by
  obtain ⟨c, cs, -, -, -, -, htrim, hne⟩ := h.body
  rw [close, h.nameOf_eq, htrim]
  simp only [if_neg hne, h.normal]
  rfl

theorem Opens.span_eq (h : Opens tag name) (start stop : Nat) :
    ∃ span, OpenTag.span ⟨start, name, none⟩ stop = .ok span := by
  obtain ⟨style, hstyle⟩ := h.found
  refine ⟨⟨start, stop, style⟩, ?_⟩
  simp only [OpenTag.span, OpenTag.style, hstyle]
  rfl

/-- The tag that closes a style leaves a span. -/
theorem Opens.renderFrom_close (h : Opens tag name) (chars : List Char) (tokens : List Token) :
    ∃ span, renderFrom chars [⟨0, name, none⟩] [] (.tag ('/' :: tag.toList) :: tokens) =
      renderFrom chars [] [span] tokens := by
  obtain ⟨span, hspan⟩ := h.span_eq 0 chars.length
  refine ⟨span, ?_⟩
  have htake : take? name [⟨0, name, none⟩] = some (⟨0, name, none⟩, []) := by simp [take?]
  have hclosable : OpenTag.isClosable ⟨0, name, none⟩ = true := by
    unfold OpenTag.isClosable
    split <;> simp_all
  rw [renderFrom, h.close_eq]
  simp only [htake, hclosable, if_true, bind, Except.bind, hspan, Except.mapError]

/-! ## Rendering -/

/-- Inert text in front of a tag. -/
structure Fronts (cs : List Char) : Prop where
  plain : Plain cs
  unescaping : cs.getLast? ≠ some '\\'

theorem Leading.fronts {s : String} (h : Leading s) : Fronts s.toList :=
  ⟨plain_of_inert h.inert, h.unescaping⟩

/-- Text in front of something that starts with a bracket is pending until then. -/
theorem Fronts.tokensFrom_eq {cs tail : List Char} (h : Fronts cs) (htail : tail.head? = some '[') :
    tokensFrom [] 0 (cs ++ tail) = tokensFrom cs.reverse 0 tail := by
  rw [tokensFrom_plain h.plain.untagged (.inr ⟨htail, h.unescaping⟩), List.append_nil]

/-- A tag in front of a text opens its style there. -/
theorem Opens.render_opened (h : Opens tag name) (cs : List Char) :
    renderFrom [] [] [] (tokensFrom [] 0 ('[' :: tag.toList ++ ']' :: cs)) =
      renderFrom [] [⟨0, name, none⟩] [] (tokensFrom [] 0 cs) := by
  rw [h.tokensFrom_eq]
  exact h.renderFrom_open [] [] [] (tokensFrom [] 0 cs)

/-- **Plain text in a style, and more plain text behind it, is shown as it is.** -/
theorem Opens.render_styled (h : Opens tag name) {cs more : List Char} (hcs : Fronts cs)
    (hmore : Plain more) :
    ∃ spans, renderFrom [] [] [] (tokensFrom [] 0 ('[' :: tag.toList ++ ']' ::
      (cs ++ ('[' :: '/' :: tag.toList ++ ']' :: more)))) = .ok ⟨cs ++ more, spans⟩ := by
  obtain ⟨span, hclose⟩ := h.renderFrom_close cs (textToken more)
  refine ⟨[span], ?_⟩
  rw [h.render_opened, hcs.tokensFrom_eq rfl, h.tokensFrom_slash, tokensFrom_of_plain hmore,
    List.reverse_reverse, renderFrom_textToken _ _ _ hcs.plain, List.nil_append, hclose,
    ← List.append_nil (textToken more), renderFrom_textToken _ _ _ hmore]
  rfl

/-- **A tag between plain texts is not shown.** -/
theorem Opens.render_tagged (h : Opens tag name) {cs more : List Char} (hcs : Fronts cs)
    (hmore : Plain more) :
    ∃ spans, renderFrom [] [] [] (tokensFrom [] 0
      (cs ++ ('[' :: tag.toList ++ ']' :: more))) = .ok ⟨cs ++ more, spans⟩ := by
  obtain ⟨span, hspan⟩ := h.span_eq cs.length (cs ++ more).length
  refine ⟨[span], ?_⟩
  rw [hcs.tokensFrom_eq rfl, h.tokensFrom_eq, tokensFrom_of_plain hmore, List.reverse_reverse,
    renderFrom_textToken _ _ _ hcs.plain, List.nil_append, h.renderFrom_open,
    ← List.append_nil (textToken more), renderFrom_textToken _ _ _ hmore, renderFrom]
  simp only [List.mapM_cons, List.mapM_nil, hspan]
  rfl

/-- **What closes a tag that is not open is refused.** -/
theorem Opens.render_unmatched (h : Opens tag name) {cs : List Char} (hcs : Fronts cs)
    (more : List Char) {tags : List OpenTag} (htags : take? name tags = none) :
    renderFrom [] tags [] (tokensFrom [] 0 (cs ++ ('[' :: '/' :: tag.toList ++ ']' :: more))) =
      .error .malformed := by
  rw [hcs.tokensFrom_eq rfl, h.tokensFrom_slash, List.reverse_reverse,
    renderFrom_textToken _ _ _ hcs.plain, List.nil_append, renderFrom, h.close_eq, htags]
  rfl

end Markup

end JvmDeps
