import QuotedWords.Text.Numeral
import QuotedWords.Failure.Snippet

/-!
# Limits of the display

A failure can be at any place, also at one that no text has, and not every place
can be shown.  A caret far out has many blanks in front of it, and there is an
end to how long a text can be; a line far down has a number of many digits, and
there is an end to those too.
-/

namespace QuotedWords
namespace Failure

inductive Limit where
  /-- The blanks before the caret are out of the range of a count of characters. -/
  | length
  /-- No memory holds so many blanks. -/
  | memory
  | numeral
  deriving DecidableEq, Repr

def Limit.message : Limit → Text
  | .length => "cannot fit 'int' into an index-sized integer".toList
  | .memory => []
  | .numeral => Text.numeralTooLong

/-- The least number in the range of a count of characters. -/
def leastCount : Int := -0x8000000000000000

/-- The greatest number in the range of a count of characters. -/
def greatestCount : Int := 0x7FFFFFFFFFFFFFFF

/--
The limit that prevents the display of a failure, if one does, where memory holds so
many characters.  The blanks come before the number of the line.
-/
def limitFrom? (room : Nat) (failure : Failure) (firstLine : Int) : Option Limit :=
  let blanks := failure.position.column - 1
  if blanks < leastCount ∨ greatestCount < blanks then some .length
  else if room < blanks then some .memory
  else (Text.excessDigits? (failure.shownLine firstLine)).map fun _ => .numeral

/-- The display of a failure in a named file, unless a limit prevents it. -/
def renderWithin (room : Nat) (failure : Failure) (filename : Text)
    (firstLine : Option Int) : Except Limit Text :=
  match failure.limitFrom? room (firstLine.getD failure.firstLine) with
  | some limit => .error limit
  | none => .ok (failure.render filename firstLine)

def displayWithin (room : Nat) (failure : Failure) : Except Limit Text :=
  failure.renderWithin room unnamed none

end Failure
end QuotedWords
