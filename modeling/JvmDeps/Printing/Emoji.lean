import JvmDeps.Printing.EmojiTable
import JvmDeps.Text.Blank
import JvmDeps.Text.LowerCase

set_option autoImplicit false

/-! # Emoji in texts

A name between colons stands for an emoji; capital letters in it count as small ones. `-text` or
`-emoji` behind the name asks for the plain or the colored form. Two colons with blanks between them
name nothing, and a name that stands for nothing is left as it is, with both its colons.
-/

namespace JvmDeps.Emoji

/-- The names of the emoji. -/
def names : List (String × List Char) :=
  (emojiTable.splitOn "\n").flatMap fun line =>
    match Text.words line with
    | [] => []
    | emoji :: names => names.map (·, emoji.toList)

/-- The forms that can be asked for, with the character that selects them. -/
def forms : List (List Char × Char) :=
  [("-emoji".toList, '\ufe0f'), ("-text".toList, '\ufe0e')]

/-- The form that the text between two colons asks for. -/
def formOf? (body : List Char) : Option (List Char × Char) :=
  forms.find? fun form => form.1.isSuffixOf body

/-- What the text between two colons stands for. -/
def ofBody? (body : List Char) : Option (List Char) :=
  match formOf? body with
  | some (ending, selector) =>
    (names.lookup (String.ofList (Text.lower (body.take (body.length - ending.length))))).map
      (· ++ [selector])
  | none => names.lookup (String.ofList (Text.lower body))

/-- Replaces the names in a text of which `skip` characters are already used. -/
def replaceAfter : (skip : Nat) → List Char → List Char
  | _, [] => []
  | skip + 1, _ :: cs => replaceAfter skip cs
  | 0, c :: cs =>
    if c = ':' then
      let body := cs.takeWhile fun c => c ≠ ':' && !Text.isBlank c
      match cs.drop body.length with
      | ':' :: _ => (ofBody? body).getD (':' :: body ++ [':']) ++ replaceAfter (body.length + 1) cs
      | _ => c :: replaceAfter 0 cs
    else c :: replaceAfter 0 cs

/-- Replaces the names of emoji in a text. -/
def replace (cs : List Char) : List Char := replaceAfter 0 cs

/-- A text without colons names no emoji. -/
theorem replace_of_not_mem {cs : List Char} (h : ':' ∉ cs) : replace cs = cs := by
  induction cs with
  | nil => rfl
  | cons c cs ih =>
    have hc : c ≠ ':' := fun hc => h (hc ▸ List.mem_cons_self)
    have hcs : replaceAfter 0 cs = cs := ih fun hm => h (List.mem_cons_of_mem _ hm)
    rw [replace, replaceAfter, if_neg hc, hcs]

end JvmDeps.Emoji
