/-!
# Classes of characters as ranges of code points
-/

namespace QuotedWords

/-- A class of characters, as a list of closed ranges of code points. -/
abbrev CodePoints := List (Nat × Nat)

/-- A character belongs to a class when one of the ranges holds its code point. -/
def CodePoints.holds (ranges : CodePoints) (c : Char) : Bool :=
  ranges.any fun range => range.1 ≤ c.toNat && c.toNat ≤ range.2

end QuotedWords
