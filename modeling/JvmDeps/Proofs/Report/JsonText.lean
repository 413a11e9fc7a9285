import JvmDeps.Proofs.Dependency.Semilattice
import JvmDeps.Report.Reporter
import Mathlib.Data.List.TakeWhile

set_option autoImplicit false

/-! # JSON text can be read in one way only

A JSON report says which table it was written from. The text of a value cannot be read as that of
another, whatever comes after it (`JsonValue.Legible`, `JsonValue.legible`). Texts end at their
closing quote, since every character is written by an escape of which its first characters tell the
length (`JsonValue.readChar?`); arrays and objects end at their closing bracket, since the items are
legible themselves and what follows an item tells whether there is another. A number ends where no
digit follows.

`JsonValue.ofTable_eq_iff` says that tables have the same value exactly if they agree, and
`Reporter.report_json_eq_iff` puts both together.
-/

namespace JvmDeps

/-- Categories have different words. -/
theorem Category.word_injective {c d : Category} (h : c.word = d.word) : c = d := by
  have hfound := Category.ofWord?_word c
  rw [h, Category.ofWord?_word] at hfound
  exact (Option.some.inj hfound).symm

namespace JsonValue

/-! ## Escapes -/

/-- The value of a hexadecimal digit. -/
def digitValue (c : Char) : Nat := if c.isDigit then c.toNat - 48 else c.toNat - 87

/-- The value of a row of hexadecimal digits behind those that make `n`. -/
def hexValueAfter (n : Nat) (cs : List Char) : Nat := cs.foldl (fun n c => 16 * n + digitValue c) n

/-- The value of a row of hexadecimal digits. -/
def hexValue (cs : List Char) : Nat := hexValueAfter 0 cs

theorem digitValue_digitChar : ∀ d < 16, digitValue (Nat.digitChar d) = d := by decide

theorem hexValue_toDigits (n : Nat) : hexValue (Nat.toDigits 16 n) = n := by
  induction n using Nat.strongRecOn with
  | ind n ih =>
      by_cases hsmall : n < 16
      · rw [Nat.toDigits_of_lt_base hsmall]
        simp [hexValue, hexValueAfter, digitValue_digitChar n hsmall]
      · have hless : n / 16 < n := Nat.div_lt_self (by omega) (by decide)
        have hfront := ih (n / 16) hless
        rw [hexValue, hexValueAfter] at hfront
        rw [Nat.toDigits_of_base_le (by decide) (by omega), hexValue, hexValueAfter,
          List.foldl_append, hfront, List.foldl_cons, List.foldl_nil,
          digitValue_digitChar _ (Nat.mod_lt n (by decide))]
        omega

theorem hexValue_replicate_append (k : Nat) (cs : List Char) :
    hexValue (List.replicate k '0' ++ cs) = hexValue cs := by
  induction k with
  | zero => rfl
  | succ k ih => exact ih

theorem length_hexDigits {n : Nat} (h : n < 0x10000) : (Text.hexDigits 4 n).length = 4 := by
  have hdigits : (Nat.toDigits 16 n).length ≤ 4 :=
    (Nat.length_toDigits_le_iff (by decide) (by decide)).mpr h
  rw [Text.hexDigits, List.length_append, List.length_replicate]
  omega

theorem hexValue_hexDigits (n : Nat) : hexValue (Text.hexDigits 4 n) = n := by
  rw [Text.hexDigits, hexValue_replicate_append, hexValue_toDigits]

/-- The character that a letter behind a backslash stands for; a quote and a backslash stand for
themselves. -/
def ofLetter : Char → Char
  | 'n' => '\n'
  | 'r' => '\r'
  | 't' => '\t'
  | 'f' => '\x0c'
  | 'b' => '\x08'
  | c => c

/-- Reads a character inside a JSON text, and leaves what follows. The first of two surrogates makes
a character with the second. -/
def readChar? : List Char → Option (Char × List Char)
  | [] => none
  | '\\' :: 'u' :: cs =>
    let unit := hexValue (cs.take 4)
    if 0xd800 ≤ unit ∧ unit < 0xdc00 then
      let second := hexValue ((cs.drop 6).take 4)
      some (.ofNat (0x10000 + (unit - 0xd800) * 0x400 + (second - 0xdc00)), cs.drop 10)
    else some (.ofNat unit, cs.drop 4)
  | '\\' :: c :: cs => some (ofLetter c, cs)
  | c :: cs => some (c, cs)

theorem readChar?_of_ne {c : Char} (h : c ≠ '\\') (cs : List Char) :
    readChar? (c :: cs) = some (c, cs) := by
  rw [readChar?.eq_def]
  split <;> simp_all

/-- The escape of a unit that is no first surrogate. -/
theorem readChar?_escapeUnit {n : Nat} (h : n < 0x10000) (hplain : ¬ (0xd800 ≤ n ∧ n < 0xdc00))
    (cs : List Char) : readChar? (escapeUnit n ++ cs) = some (.ofNat n, cs) := by
  have hlength := length_hexDigits h
  show readChar? ('\\' :: 'u' :: (Text.hexDigits 4 n ++ cs)) = _
  rw [readChar?]
  simp only [List.take_left' hlength, List.drop_left' hlength, hexValue_hexDigits, if_neg hplain]

/-- The escapes of two surrogates. -/
theorem readChar?_escapePair {n m : Nat} (hn : 0xd800 ≤ n ∧ n < 0xdc00) (hm : m < 0x10000)
    (cs : List Char) :
    readChar? (escapeUnit n ++ escapeUnit m ++ cs) =
      some (.ofNat (0x10000 + (n - 0xd800) * 0x400 + (m - 0xdc00)), cs) := by
  have hfirst := length_hexDigits (n := n) (by omega)
  have hsecond := length_hexDigits hm
  have hbehind : (Text.hexDigits 4 n ++ ('\\' :: 'u' :: (Text.hexDigits 4 m ++ cs))).drop 6 =
      Text.hexDigits 4 m ++ cs := by
    rw [← List.drop_drop (i := 2) (j := 4), List.drop_left' hfirst]
    rfl
  have hrest :
      (Text.hexDigits 4 n ++ ('\\' :: 'u' :: (Text.hexDigits 4 m ++ cs))).drop 10 = cs := by
    rw [← List.drop_drop (i := 4) (j := 6), hbehind, List.drop_left' hsecond]
  have hwritten : escapeUnit n ++ escapeUnit m ++ cs =
      '\\' :: 'u' :: (Text.hexDigits 4 n ++ ('\\' :: 'u' :: (Text.hexDigits 4 m ++ cs))) := by
    simp [escapeUnit]
  rw [hwritten, readChar?]
  simp only [List.take_left' hfirst, hexValue_hexDigits, if_pos hn, hbehind, hrest,
    List.take_left' hsecond]

/-- **A written character is read back.** -/
theorem readChar?_escapeChar (c : Char) (cs : List Char) :
    readChar? (escapeChar c ++ cs) = some (c, cs) := by
  have hvalid := c.valid
  have htoNat : c.val.toNat = c.toNat := rfl
  unfold UInt32.isValidChar Nat.isValidChar at hvalid
  rw [htoNat] at hvalid
  have hofNat {n : Nat} (h : c.toNat = n) : Char.ofNat n = c := by rw [← h, Char.ofNat_toNat]
  unfold escapeChar
  split
  · rename_i hquote
    rcases Bool.or_eq_true_iff.mp hquote with h | h <;> rw [of_decide_eq_true h] <;> rfl
  split
  · rename_i h
    rw [h]
    rfl
  split
  · rename_i h
    rw [h]
    rfl
  split
  · rename_i h
    rw [h]
    rfl
  split
  · rename_i h
    rw [← hofNat h]
    rfl
  split
  · rename_i h
    rw [← hofNat h]
    rfl
  split
  · rename_i hquote _ _ _ _ _ _
    have hplain : c ≠ '\\' := by
      rintro rfl
      exact hquote rfl
    exact readChar?_of_ne hplain cs
  split
  · rename_i hsmall
    rw [readChar?_escapeUnit hsmall (by omega), Char.ofNat_toNat]
  · rename_i hlarge
    have hfirst : 0xd800 ≤ 0xd800 + (c.toNat - 0x10000) / 0x400 ∧
        0xd800 + (c.toNat - 0x10000) / 0x400 < 0xdc00 := by omega
    have hcode : c.toNat = 0x10000 +
        (0xd800 + (c.toNat - 0x10000) / 0x400 - 0xd800) * 0x400 +
        (0xdc00 + (c.toNat - 0x10000) % 0x400 - 0xdc00) := by omega
    rw [readChar?_escapePair hfirst (by omega), hofNat hcode]

theorem escapeChar_ne_quote (c : Char) (cs ds : List Char) : escapeChar c ++ cs ≠ '"' :: ds := by
  intro h
  have hread := readChar?_escapeChar c cs
  rw [h, readChar?_of_ne (by decide)] at hread
  -- the character would be the quote, which is written behind a backslash
  simp only [Option.some.injEq, Prod.mk.injEq] at hread
  rw [← hread.1] at h
  exact absurd (List.head_eq_of_cons_eq h) (by decide)

/-- What is written of a text up to its closing quote tells the text. -/
theorem eq_of_flatMap_escapeChar {cs ds x y : List Char}
    (h : cs.flatMap escapeChar ++ '"' :: x = ds.flatMap escapeChar ++ '"' :: y) :
    cs = ds ∧ x = y := by
  induction cs generalizing ds with
  | nil =>
      cases ds with
      | nil => exact ⟨rfl, List.tail_eq_of_cons_eq h⟩
      | cons d ds =>
          rw [List.flatMap_cons, List.append_assoc] at h
          exact absurd h.symm (escapeChar_ne_quote d _ _)
  | cons c cs ih =>
      rw [List.flatMap_cons, List.append_assoc] at h
      cases ds with
      | nil => exact absurd h (escapeChar_ne_quote c _ _)
      | cons d ds =>
          rw [List.flatMap_cons, List.append_assoc] at h
          have hread := readChar?_escapeChar c (cs.flatMap escapeChar ++ '"' :: x)
          rw [h, readChar?_escapeChar] at hread
          simp only [Option.some.injEq, Prod.mk.injEq] at hread
          obtain ⟨rfl, hrest⟩ := hread
          obtain ⟨rfl, rfl⟩ := ih hrest.symm
          exact ⟨rfl, rfl⟩

theorem toList_quote_append (s : String) (x : List Char) :
    (quote s).toList ++ x = '"' :: (s.toList.flatMap escapeChar ++ '"' :: x) := by
  simp [quote]

theorem eq_of_quote {s t : String} {x y : List Char}
    (h : (quote s).toList ++ x = (quote t).toList ++ y) : s = t ∧ x = y := by
  rw [toList_quote_append, toList_quote_append] at h
  obtain ⟨hchars, hrest⟩ := eq_of_flatMap_escapeChar (List.tail_eq_of_cons_eq h)
  exact ⟨String.toList_inj.mp hchars, hrest⟩

/-! ## Numbers -/

/-- What follows a value does not go on with a digit. -/
def Closed (x : List Char) : Prop := ∀ c ∈ x.head?, c.isDigit = false

theorem takeWhile_digits {n : Nat} {x : List Char} (h : Closed x) :
    (Nat.toDigits 10 n ++ x).takeWhile Char.isDigit = Nat.toDigits 10 n := by
  have hdigits : ∀ c ∈ Nat.toDigits 10 n, c.isDigit = true := fun c hc =>
    Nat.isDigit_of_mem_toDigits (by decide) (by decide) hc
  rw [List.takeWhile_append_of_pos hdigits]
  cases x with
  | nil => simp
  | cons c x => rw [List.takeWhile_cons_of_neg (by rw [h c rfl]; decide), List.append_nil]

/-- A number ends where no digit follows. -/
theorem eq_of_toDigits {n m : Nat} {x y : List Char} (hx : Closed x) (hy : Closed y)
    (h : Nat.toDigits 10 n ++ x = Nat.toDigits 10 m ++ y) : n = m ∧ x = y := by
  have hdigits : Nat.toDigits 10 n = Nat.toDigits 10 m := by
    rw [← takeWhile_digits (n := n) hx, h, takeWhile_digits hy]
  have hnumber : n = m := by
    rw [← Nat.ofDigitChars_ten_toDigits (n := n), hdigits, Nat.ofDigitChars_ten_toDigits]
  rw [hdigits] at h
  exact ⟨hnumber, List.append_cancel_left h⟩

/-! ## Brackets -/

section Brackets

variable {indent : Option Int} {depth : Nat} {closing : Char}

/-- What is written behind an opening bracket. -/
def inBrackets (indent : Option Int) (depth : Nat) (closing : Char) :
    List (List Char) → List Char
  | [] => [closing]
  | item :: items =>
    (lineStart indent (depth + 1)).toList ++ (item ++
      (items.flatMap ((separator indent (depth + 1)).toList ++ ·) ++
        ((lineStart indent depth).toList ++ [closing])))

theorem intercalate_cons_eq (sep item : List Char) (items : List (List Char)) :
    sep.intercalate (item :: items) = item ++ items.flatMap (sep ++ ·) := by
  induction items generalizing item with
  | nil => simp
  | cons next items ih =>
      rw [List.intercalate_cons_cons, ih, List.flatMap_cons]
      simp

theorem toList_bracket {left right : String} {opening : Char} (hleft : left.toList = [opening])
    (hright : right.toList = [closing]) (items : List String) :
    (bracket indent depth left right items).toList =
      opening :: inBrackets indent depth closing (items.map String.toList) := by
  cases items with
  | nil => simp [bracket, inBrackets, hleft, hright]
  | cons item items =>
      simp only [bracket, List.isEmpty_cons, Bool.false_eq_true, if_false, String.toList_append,
        hleft, hright, String.toList_intercalate, List.map_cons, intercalate_cons_eq,
        inBrackets, List.append_assoc, List.cons_append, List.nil_append]

/-- A bracket that closes: no digit, no separator and no line end. -/
def Closes (c : Char) : Prop := c = ']' ∨ c = '\x7d'

theorem head?_lineStart (indent : Option Int) (depth : Nat) (x : List Char) :
    ((lineStart indent depth).toList ++ x).head? = x.head? ∧ indent = none ∨
      ((lineStart indent depth).toList ++ x).head? = some '\n' := by
  cases indent with
  | none => exact Or.inl ⟨rfl, rfl⟩
  | some n => exact Or.inr (by simp [lineStart])

theorem head?_separator (indent : Option Int) (depth : Nat) (x : List Char) :
    ((separator indent depth).toList ++ x).head? = some ',' := by
  cases indent <;> simp [separator]

/-- The end of an array or object goes on with neither a digit nor a comma. -/
theorem head?_end (indent : Option Int) (depth : Nat) (hclosing : Closes closing) (x : List Char) :
    ∃ c, ((lineStart indent depth).toList ++ closing :: x).head? = some c ∧
      c.isDigit = false ∧ c ≠ ',' := by
  rcases head?_lineStart indent depth (closing :: x) with ⟨h, -⟩ | h
  · exact ⟨closing, h, by rcases hclosing with rfl | rfl <;> decide⟩
  · exact ⟨'\n', h, by decide⟩

/-- Behind an item stands a separator or the end, and neither is a digit. -/
theorem closed_items (hclosing : Closes closing) (items : List (List Char)) (x : List Char) :
    Closed (items.flatMap ((separator indent (depth + 1)).toList ++ ·) ++
      ((lineStart indent depth).toList ++ closing :: x)) := by
  intro c hc
  cases items with
  | nil =>
      obtain ⟨d, hhead, hdigit, -⟩ := head?_end indent depth hclosing x
      rw [List.flatMap_nil, List.nil_append, hhead] at hc
      cases hc
      exact hdigit
  | cons item items =>
      rw [List.flatMap_cons, List.append_assoc, List.append_assoc, head?_separator] at hc
      cases hc
      decide

variable {α : Type} {write : α → List Char}

/-- The text of an item cannot be read as that of another, whatever comes after them. -/
def LegibleAs (write : α → List Char) (a : α) : Prop :=
  ∀ ⦃b x y⦄, Closed x → Closed y → write a ++ x = write b ++ y → a = b ∧ x = y

/-- Items behind the first are told by what is written up to the closing bracket. -/
theorem eq_of_moreItems (hclosing : Closes closing) {as bs : List α}
    (hlegible : ∀ a ∈ as, LegibleAs write a) {x y : List Char}
    (h : (as.map write).flatMap ((separator indent (depth + 1)).toList ++ ·) ++
        ((lineStart indent depth).toList ++ closing :: x) =
      (bs.map write).flatMap ((separator indent (depth + 1)).toList ++ ·) ++
        ((lineStart indent depth).toList ++ closing :: y)) : as = bs ∧ x = y := by
  -- a separator on one side and the end on the other
  have hdiffer (item : List Char) (items : List (List Char)) (x y : List Char) :
      (item :: items).flatMap ((separator indent (depth + 1)).toList ++ ·) ++ x ≠
        (lineStart indent depth).toList ++ closing :: y := by
    intro heq
    obtain ⟨c, hhead, -, hcomma⟩ := head?_end indent depth hclosing y
    rw [← heq, List.flatMap_cons, List.append_assoc, List.append_assoc, head?_separator] at hhead
    cases hhead
    exact hcomma rfl
  induction as generalizing bs with
  | nil =>
      cases bs with
      | nil => exact ⟨rfl, List.tail_eq_of_cons_eq (List.append_cancel_left h)⟩
      | cons b bs => exact absurd h.symm (hdiffer _ _ _ _)
  | cons a as ih =>
      cases bs with
      | nil => exact absurd h (hdiffer _ _ _ _)
      | cons b bs =>
          obtain ⟨ha, has⟩ := List.forall_mem_cons.mp hlegible
          simp only [List.map_cons, List.flatMap_cons, List.append_assoc,
            List.append_cancel_left_eq] at h
          obtain ⟨rfl, hrest⟩ := ha (closed_items hclosing _ x) (closed_items hclosing _ y) h
          obtain ⟨rfl, rfl⟩ := ih has hrest
          exact ⟨rfl, rfl⟩

/-- **Legible items in brackets are told by what is written up to the closing bracket**, if no item
starts like the end. -/
theorem eq_of_inBrackets (hclosing : Closes closing) {as bs : List α}
    (hlegible : ∀ a ∈ as, LegibleAs write a)
    (hstart : ∀ a x, ∃ c, (write a ++ x).head? = some c ∧ c ≠ closing) {x y : List Char}
    (h : inBrackets indent depth closing (as.map write) ++ x =
      inBrackets indent depth closing (bs.map write) ++ y) : as = bs ∧ x = y := by
  have hdiffer (a : α) (x y : List Char) :
      (lineStart indent (depth + 1)).toList ++ (write a ++ x) ≠ closing :: y := by
    intro heq
    obtain ⟨c, hc, hne⟩ := hstart a x
    rcases head?_lineStart indent (depth + 1) (write a ++ x) with ⟨hhead, -⟩ | hhead
    · rw [heq, hc] at hhead
      cases hhead
      exact hne rfl
    · rw [heq] at hhead
      cases hhead
      rcases hclosing with h | h <;> cases h
  cases as with
  | nil =>
      cases bs with
      | nil => exact ⟨rfl, List.tail_eq_of_cons_eq h⟩
      | cons b bs =>
          simp only [List.map_cons, List.map_nil, inBrackets, List.append_assoc, List.cons_append,
            List.nil_append] at h
          exact absurd h.symm (hdiffer b _ _)
  | cons a as =>
      cases bs with
      | nil =>
          simp only [List.map_cons, List.map_nil, inBrackets, List.append_assoc, List.cons_append,
            List.nil_append] at h
          exact absurd h (hdiffer a _ _)
      | cons b bs =>
          obtain ⟨ha, has⟩ := List.forall_mem_cons.mp hlegible
          simp only [List.map_cons, inBrackets, List.append_assoc, List.append_cancel_left_eq,
            List.cons_append, List.nil_append] at h
          obtain ⟨rfl, hrest⟩ := ha (closed_items hclosing _ x) (closed_items hclosing _ y) h
          obtain ⟨rfl, rfl⟩ := eq_of_moreItems hclosing has hrest
          exact ⟨rfl, rfl⟩

end Brackets

/-! ## Values -/

section Values

variable {indent : Option Int}

/-- The characters of a value. -/
def chars (indent : Option Int) (depth : Nat) (v : JsonValue) : List Char :=
  (renderAt indent depth v).toList

/-- The characters of a field. -/
def fieldChars (indent : Option Int) (depth : Nat) (field : String × JsonValue) : List Char :=
  (quote field.1).toList ++ (':' :: ' ' :: chars indent depth field.2)

theorem chars_text (depth : Nat) (s : String) : chars indent depth (text s) = (quote s).toList := by
  rw [chars, renderAt]

theorem chars_number (depth n : Nat) : chars indent depth (number n) = Nat.toDigits 10 n := by
  rw [chars, renderAt]
  exact Nat.toList_repr

theorem renderItems_eq (depth : Nat) (vs : List JsonValue) :
    renderItems indent depth vs = vs.map (renderAt indent depth) := by
  induction vs with
  | nil => rw [renderItems, List.map_nil]
  | cons v vs ih => rw [renderItems, ih, List.map_cons]

theorem map_toList_renderFields (depth : Nat) (fields : List (String × JsonValue)) :
    (renderFields indent depth fields).map String.toList =
      fields.map (fieldChars indent depth) := by
  induction fields with
  | nil => rw [renderFields, List.map_nil, List.map_nil]
  | cons field fields ih =>
      rw [renderFields, List.map_cons, List.map_cons, ih]
      simp [fieldChars, chars]

theorem chars_array (depth : Nat) (items : List JsonValue) :
    chars indent depth (array items) =
      '[' :: inBrackets indent depth ']' (items.map (chars indent (depth + 1))) := by
  rw [chars, renderAt, renderItems_eq, toList_bracket (by decide : "[".toList = ['['])
    (by decide : "]".toList = [']']), List.map_map]
  rfl

theorem chars_object (depth : Nat) (fields : List (String × JsonValue)) :
    chars indent depth (object fields) =
      '\x7b' :: inBrackets indent depth '\x7d' (fields.map (fieldChars indent (depth + 1))) := by
  rw [chars, renderAt, toList_bracket (by decide : "\x7b".toList = ['\x7b'])
    (by decide : "\x7d".toList = ['\x7d']), map_toList_renderFields]

/-- The kinds of values. -/
def kind : JsonValue → Nat
  | text _ => 0
  | number _ => 1
  | array _ => 2
  | object _ => 3

/-- The kind of value that starts with a character. -/
def kindOfStart (c : Char) : Nat :=
  if c = '"' then 0 else if c = '[' then 2 else if c = '\x7b' then 3 else 1

/-- The first character of a value tells its kind, and closes nothing. -/
theorem head?_chars (indent : Option Int) (depth : Nat) (v : JsonValue) (x : List Char) :
    ∃ c, (chars indent depth v ++ x).head? = some c ∧ kindOfStart c = v.kind ∧
      c ≠ ']' ∧ c ≠ '\x7d' := by
  cases v with
  | text s =>
      rw [chars_text, toList_quote_append]
      exact ⟨'"', rfl, rfl, by decide, by decide⟩
  | number n =>
      rw [chars_number]
      obtain ⟨c, cs, hdigits⟩ := List.exists_cons_of_ne_nil (Nat.toDigits_ne_nil (n := n) (b := 10))
      have hdigit : c.isDigit = true :=
        Nat.isDigit_of_mem_toDigits (b := 10) (n := n) (by decide) (by decide) (by simp [hdigits])
      rw [hdigits]
      refine ⟨c, rfl, ?_⟩
      have hne {d : Char} (hd : d.isDigit = false) : c ≠ d := by
        rintro rfl
        rw [hd] at hdigit
        cases hdigit
      simp [kindOfStart, kind, hne]
  | array items =>
      rw [chars_array]
      exact ⟨'[', rfl, rfl, by decide, by decide⟩
  | object fields =>
      rw [chars_object]
      exact ⟨'\x7b', rfl, rfl, by decide, by decide⟩

/-- The text of a value at any depth cannot be read as that of another. -/
def Legible (indent : Option Int) (v : JsonValue) : Prop :=
  ∀ depth, LegibleAs (chars indent depth) v

/-- A field is legible if its value is. -/
theorem Legible.field {field : String × JsonValue} (h : Legible indent field.2) (depth : Nat) :
    LegibleAs (fieldChars indent depth) field := by
  intro other x y hx hy heq
  simp only [fieldChars, List.append_assoc, List.cons_append] at heq
  obtain ⟨hname, hrest⟩ := eq_of_quote heq
  obtain ⟨hvalue, hrest⟩ := h depth hx hy
    (List.tail_eq_of_cons_eq (List.tail_eq_of_cons_eq hrest))
  exact ⟨Prod.ext hname hvalue, hrest⟩

/-- Values that start alike are of one kind. -/
theorem kind_eq_of_chars {depth : Nat} {v w : JsonValue} {x y : List Char}
    (h : chars indent depth v ++ x = chars indent depth w ++ y) : v.kind = w.kind := by
  obtain ⟨c, hhead, hkind, -⟩ := head?_chars indent depth v x
  obtain ⟨d, hhead', hkind', -⟩ := head?_chars indent depth w y
  rw [h, hhead'] at hhead
  cases hhead
  rw [← hkind, hkind']

theorem legible_text (s : String) : Legible indent (text s) := by
  intro depth w x y _ _ h
  have hkind := kind_eq_of_chars h
  cases w with
  | text t =>
      rw [chars_text, chars_text] at h
      obtain ⟨rfl, hrest⟩ := eq_of_quote h
      exact ⟨rfl, hrest⟩
  | number | array | object => cases hkind

theorem legible_number (n : Nat) : Legible indent (number n) := by
  intro depth w x y hx hy h
  have hkind := kind_eq_of_chars h
  cases w with
  | number m =>
      rw [chars_number, chars_number] at h
      obtain ⟨rfl, hrest⟩ := eq_of_toDigits hx hy h
      exact ⟨rfl, hrest⟩
  | text | array | object => cases hkind

theorem legible_array {items : List JsonValue} (hitems : ∀ v ∈ items, Legible indent v) :
    Legible indent (array items) := by
  intro depth w x y _ _ h
  have hkind := kind_eq_of_chars h
  cases w with
  | array others =>
      rw [chars_array, chars_array] at h
      have hstart (v : JsonValue) (x : List Char) :
          ∃ c, (chars indent (depth + 1) v ++ x).head? = some c ∧ c ≠ ']' := by
        obtain ⟨c, hhead, -, hne, -⟩ := head?_chars indent (depth + 1) v x
        exact ⟨c, hhead, hne⟩
      obtain ⟨rfl, hrest⟩ := eq_of_inBrackets (Or.inl rfl)
        (fun v hv => hitems v hv (depth + 1)) hstart (List.tail_eq_of_cons_eq h)
      exact ⟨rfl, hrest⟩
  | text | number | object => cases hkind

theorem legible_object {fields : List (String × JsonValue)}
    (hfields : ∀ field ∈ fields, Legible indent field.2) : Legible indent (object fields) := by
  intro depth w x y _ _ h
  have hkind := kind_eq_of_chars h
  cases w with
  | object others =>
      rw [chars_object, chars_object] at h
      have hstart (field : String × JsonValue) (x : List Char) :
          ∃ c, (fieldChars indent (depth + 1) field ++ x).head? = some c ∧ c ≠ '\x7d' := by
        rw [fieldChars, List.append_assoc, toList_quote_append]
        exact ⟨'"', rfl, by decide⟩
      obtain ⟨rfl, hrest⟩ := eq_of_inBrackets (Or.inr rfl)
        (fun field hfield => (hfields field hfield).field (depth + 1)) hstart
        (List.tail_eq_of_cons_eq h)
      exact ⟨rfl, hrest⟩
  | text | number | array => cases hkind

mutual

/-- **The text of a value cannot be read as that of another**, with any indent and at any depth. -/
theorem legible : ∀ v : JsonValue, Legible indent v
  | text s => legible_text s
  | number n => legible_number n
  | array items => legible_array (legible_items items)
  | object fields => legible_object (legible_fields fields)

theorem legible_items : ∀ items : List JsonValue, ∀ v ∈ items, Legible indent v
  | [], v, hv => absurd hv List.not_mem_nil
  | w :: items, v, hv => by
      rcases List.mem_cons.mp hv with heq | hv
      · rw [heq]
        exact legible w
      · exact legible_items items v hv

theorem legible_fields : ∀ fields : List (String × JsonValue), ∀ field ∈ fields,
    Legible indent field.2
  | [], field, hfield => absurd hfield List.not_mem_nil
  | (name, w) :: fields, field, hfield => by
      rcases List.mem_cons.mp hfield with heq | hfield
      · rw [heq]
        exact legible w
      · exact legible_fields fields field hfield

end

/-- Values are written differently. -/
theorem render_inj {v w : JsonValue} : render indent v = render indent w ↔ v = w := by
  constructor
  · intro h
    have hclosed : Closed [] := by
      intro c hc
      cases hc
    exact (legible v 0 hclosed hclosed (congrArg (String.toList · ++ []) h)).1
  · rintro rfl
    rfl

end Values

/-! ## Tables -/

theorem names_inj {s t : NameSet} : names s = names t ↔ s = t := by
  constructor
  · intro h
    have htexts : s.toList.map text = t.toList.map text := array.inj h
    exact SortedSet.toList_injective
      ((List.map_inj_right fun _ _ => text.inj).mp htexts)
  · rintro rfl
    rfl

/-- Rows of the values that some keys have are the same only if every key has the same value, as
long as a key shows in its row. -/
theorem eq_of_filterMap_eq {κ α β : Type} (row : κ → α → β) {keys : List κ}
    (hrow : ∀ {k l a b}, row k a = row l b → k = l ∧ a = b) {f g : κ → Option α}
    (h : (keys.filterMap fun k => (f k).map (row k)) = keys.filterMap fun k => (g k).map (row k)) :
    ∀ k ∈ keys, f k = g k := by
  intro k hk
  have hmem (f : κ → Option α) (a : α) :
      row k a ∈ (keys.filterMap fun k => (f k).map (row k)) ↔ f k = some a := by
    rw [List.mem_filterMap]
    constructor
    · rintro ⟨l, -, hl⟩
      obtain ⟨b, hb, heq⟩ := Option.map_eq_some_iff.mp hl
      obtain ⟨rfl, rfl⟩ := hrow heq
      exact hb
    · intro ha
      exact ⟨k, hk, by rw [ha]; rfl⟩
  apply Option.ext
  intro a
  rw [← hmem f, ← hmem g, h]

/-- **Tables have the same JSON value exactly if they agree.** The order in which the categories
were computed does not show, and all names are those of the categories. -/
theorem ofTable_eq_iff {s t : DependencyTable} : ofTable s = ofTable t ↔ s.agrees t = true := by
  rw [DependencyTable.agrees_iff]
  constructor
  · intro h
    simp only [ofTable, object.injEq, List.cons.injEq, Prod.mk.injEq, text.injEq, true_and] at h
    obtain ⟨hname, hcategories, -⟩ := h
    refine ⟨hname, fun c => ?_⟩
    refine eq_of_filterMap_eq (fun (c : Category) names' => (c.word, names names'))
      (fun heq => ?_) hcategories c (Category.mem_all c)
    obtain ⟨hword, hnames⟩ := Prod.mk.inj heq
    exact ⟨Category.word_injective hword, names_inj.mp hnames⟩
  · rintro ⟨hname, hget⟩
    have hmerged : s.merged = t.merged := by
      apply SortedSet.ext
      intro name
      simp only [DependencyTable.mem_merged_iff_get?, hget]
    simp only [ofTable, hname, hget, hmerged]

end JsonValue

/-- **A JSON report is stable and loses nothing.** Every table has a report, with any indent, and
two tables have the same report exactly if they agree: if they are of the same class, and the same
categories are there with the same names, in whatever order they were computed. -/
theorem Reporter.report_json_eq_iff (indent : Option Int) (s t : DependencyTable) :
    ∃ text text', (json indent).report s = .ok text ∧ (json indent).report t = .ok text' ∧
      (text = text' ↔ s.agrees t = true) ∧
      (s.agrees t = true ↔ s.className = t.className ∧ ∀ c, s.get? c = t.get? c) := by
  refine ⟨_, _, rfl, rfl, ?_, DependencyTable.agrees_iff⟩
  rw [JsonValue.render_inj, JsonValue.ofTable_eq_iff]

end JvmDeps
