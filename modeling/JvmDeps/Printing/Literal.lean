import JvmDeps.Printing.Literal.Token

set_option autoImplicit false

/-! # Literals

The values that a tag can carry, without their content: numbers with an optional sign, sums of a
real and an imaginary number, texts, constants, tuples, sets and tables. `isLiteral` decides whether
a text is such a value. Only values that never change can be in a set or be a key of a table.
-/

namespace JvmDeps.Literal

/-- What is known of a value. -/
inductive Shape where
  | real (signed : Bool)
  | imaginary (signed : Bool)
  /-- Anything else; `fixed` values never change. -/
  | other (fixed : Bool)
deriving DecidableEq, Repr

namespace Shape

/-- The value never changes. -/
def fixed : Shape → Bool
  | other fixed => fixed
  | _ => true

/-- The value with a sign in front. -/
def signed? : Shape → Option Shape
  | real false => some (real true)
  | imaginary false => some (imaginary true)
  | _ => none

/-- The sum or difference of two values: only of a real and an imaginary number. -/
def sum? : Shape → Shape → Option Shape
  | real _, imaginary false => some (other true)
  | _, _ => none

end Shape

/-- Drops the tokens of one kind at the start. -/
def skipAll (token : Token) : List Token → List Token
  | [] => []
  | t :: ts => if t = token then skipAll token ts else t :: ts

mutual

/-- The value at the start of some tokens, without signs. -/
def operand? : (fuel : Nat) → List Token → Option (Shape × List Token)
  | 0, _ => none
  | _ + 1, [] => none
  | _ + 1, .real :: ts => some (.real false, ts)
  | _ + 1, .imaginary :: ts => some (.imaginary false, ts)
  | _ + 1, .text :: ts =>
    if (skipAll .text ts).head? = some .bytes then none else some (.other true, skipAll .text ts)
  | _ + 1, .bytes :: ts =>
    if (skipAll .bytes ts).head? = some .text then none else some (.other true, skipAll .bytes ts)
  | _ + 1, .dots :: ts => some (.other true, ts)
  | _ + 1, .lineEnd :: _ => none
  | _ + 1, .word letters :: ts =>
    if ["True", "False", "None"].contains (String.ofList letters) then some (.other true, ts)
    else if letters = "set".toList && ts.take 2 = [.mark '(', .mark ')'] then
      some (.other false, ts.drop 2)
    else none
  | fuel + 1, .mark c :: ts =>
    if c = '(' then
      match ts with
      | .mark ')' :: ts => some (.other true, ts)
      | ts => do
        let (first, ts) ← value? fuel ts
        match ts with
        | .mark ')' :: ts => return (first, ts)
        | ts =>
          let (fixed, ts) ← moreValues? fuel ')' ts
          return (.other (first.fixed && fixed), ts)
    else if c = '\x7b' then
      match ts with
      | .mark '\x7d' :: ts => some (.other false, ts)
      | ts => do
        let (first, ts) ← value? fuel ts
        if !first.fixed then none
        else
          match ts with
          | .mark ':' :: ts => do
            let (_, ts) ← value? fuel ts
            return (.other false, ← moreEntries? fuel ts)
          | ts => do
            let (fixed, ts) ← moreValues? fuel '\x7d' ts
            if fixed then return (.other false, ts) else none
    else none

/-- The value at the start of some tokens, with at most one sign in front. -/
def signed? : (fuel : Nat) → List Token → Option (Shape × List Token)
  | 0, _ => none
  | fuel + 1, ts =>
    if ts.head? = some (.mark '+') || ts.head? = some (.mark '-') then do
      let (shape, rest) ← operand? fuel (ts.drop 1)
      return (← shape.signed?, rest)
    else operand? fuel ts

/-- The value at the start of some tokens: one value, or the sum or difference of two. -/
def value? : (fuel : Nat) → List Token → Option (Shape × List Token)
  | 0, _ => none
  | fuel + 1, ts => do
    let (left, rest) ← signed? fuel ts
    if rest.head? = some (.mark '+') || rest.head? = some (.mark '-') then
      let (right, rest) ← operand? fuel (rest.drop 1)
      return (← left.sum? right, rest)
    else return (left, rest)

/-- Further values, each behind a comma, up to a closing bracket; whether all of them are fixed. -/
def moreValues? : (fuel : Nat) → (close : Char) → List Token → Option (Bool × List Token)
  | 0, _, _ => none
  | _ + 1, _, [] => none
  | fuel + 1, close, .mark c :: ts =>
    if c = close then some (true, ts)
    else if c ≠ ',' then none
    else if ts.head? = some (.mark close) then some (true, ts.drop 1)
    else do
      let (shape, ts) ← value? fuel ts
      let (fixed, ts) ← moreValues? fuel close ts
      return (shape.fixed && fixed, ts)
  | _ + 1, _, _ :: _ => none

/-- Further entries of a table, each behind a comma, up to the closing bracket. -/
def moreEntries? : (fuel : Nat) → List Token → Option (List Token)
  | 0, _ => none
  | fuel + 1, ts =>
    match ts with
    | .mark '\x7d' :: ts => some ts
    | .mark ',' :: .mark '\x7d' :: ts => some ts
    | .mark ',' :: ts => do
      let (key, ts) ← value? fuel ts
      match key.fixed, ts with
      | true, .mark ':' :: ts => do
        let (_, ts) ← value? fuel ts
        moreEntries? fuel ts
      | _, _ => none
    | _ => none

end

/-- Values with commas between them, up to the end. -/
def isValueList : (fuel : Nat) → List Token → Bool
  | 0, _ => false
  | fuel + 1, ts =>
    match value? fuel ts with
    | none => false
    | some (_, ts) =>
      match ts with
      | .mark ',' :: ts => (skipAll .lineEnd ts).isEmpty || isValueList fuel ts
      | ts => (skipAll .lineEnd ts).isEmpty

/-- A text is a literal, or several with commas between them. -/
def isLiteral (cs : List Char) : Bool :=
  match tokens? cs with
  | some ts => isValueList (4 * ts.length + 4) (skipAll .lineEnd ts)
  | none => false

end JvmDeps.Literal
