import Mathlib.Algebra.Group.Int.Defs
import Mathlib.Algebra.Group.Nat.Defs
import QuotedWords.Failure.Limit
import QuotedWords.Proofs.Datum.Limit
import QuotedWords.Proofs.Failure.Snippet

/-!
# How a display is aligned

A failure is displayed in five lines, with the bars of the last three below one
another, wherever its place is, in the source or out of it.  Only a place that is too
far out is not displayed at all: there has to be room for the blanks before the caret,
and the number of the line must not have too many digits.
-/

namespace QuotedWords

namespace Failure

variable {room : Nat} {failure : Failure} {filename : Text} {firstLine : Int}

/-!
# Places that can be displayed
-/

/--
There is room for the blanks before the caret, and a numeral for the line.  A column
below one asks for no blanks, but it is counted like any other.
-/
structure CanBeShown (room : Nat) (failure : Failure) (firstLine : Int) : Prop where
  notBelow : leastCount ≤ failure.position.column - 1
  notAbove : failure.position.column - 1 ≤ greatestCount
  held : failure.position.column - 1 ≤ room
  short : (Text.ofNat (failure.shownLine firstLine).natAbs).length ≤ Text.longestNumeral

end Failure
end QuotedWords
