import QuotedWords.Text.Basic

/-!
# Hexadecimal numerals

Code points are written in hexadecimal digits, in lower case; they are read in
either case.
-/

namespace QuotedWords
namespace Text

/-- The lower-case hexadecimal numeral, padded with zeros to a width. -/
def hexadecimal (width n : Nat) : Text :=
  let digits := Nat.toDigits 16 n
  List.replicate (width - digits.length) '0' ++ digits

/-- The value of a hexadecimal digit. -/
def hexValue? (c : Char) : Option Nat :=
  if '0' ≤ c ∧ c ≤ '9' then some (c.toNat - '0'.toNat)
  else if 'a' ≤ c ∧ c ≤ 'f' then some (c.toNat - 'a'.toNat + 10)
  else if 'A' ≤ c ∧ c ≤ 'F' then some (c.toNat - 'A'.toNat + 10)
  else none

/-- The character of a code point, if there is one. -/
def charOfCodePoint? (codePoint : Nat) : Option Char :=
  if valid : codePoint.isValidChar then some (Char.ofNatAux codePoint valid) else none

theorem hexValue?_digitChar {n : Nat} (digit : n < 16) :
    hexValue? n.digitChar = some n := by
  have all : ∀ n : Fin 16, hexValue? n.val.digitChar = some n.val := by decide
  exact all ⟨n, digit⟩

end Text
end QuotedWords
