set_option autoImplicit false

/-! # Ranges of code points

Classes of characters are lists of inclusive ranges of code points, in increasing order. `inRanges`
decides whether a code point is in such a class.
-/

namespace JvmDeps.Text

/-- `n` lies in one of some ranges. -/
def inRanges (ranges : List (Nat × Nat)) (n : Nat) : Bool :=
  ranges.any fun range => range.1 ≤ n && n ≤ range.2

end JvmDeps.Text
