import QuotedWords.Text.Basic

/-!
# Numerals

There is an end to how many digits the decimal numeral of an integer can have.
A bigger integer can be computed with, but it can be neither read nor shown.
-/

namespace QuotedWords
namespace Text

/-- How many digits the decimal numeral of an integer can have. -/
def longestNumeral : Nat := 4300

/-- How many digits an integer has, if they are too many for a numeral. -/
def excessDigits? (value : Int) : Option Nat :=
  let digits := (ofNat value.natAbs).length
  if longestNumeral < digits then some digits else none

/-- The complaint about an integer that has too many digits to be shown. -/
def numeralTooLong : Text :=
  ("Exceeds the limit (4300 digits) for integer string conversion; " ++
    "use sys.set_int_max_str_digits() to increase the limit").toList

example : excessDigits? (-12) = none := by decide

end Text
end QuotedWords
