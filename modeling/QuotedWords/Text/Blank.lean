import QuotedWords.Text.Basic
import QuotedWords.Text.CodePoints
import QuotedWords.Text.Runs

/-!
# Blank characters

The characters that separate words: the space, the ASCII controls from
horizontal tab to carriage return and from file separator to unit separator,
and the blanks of the rest of Unicode.
-/

namespace QuotedWords
namespace Text

/-- The code points of the blank characters. -/
def blanks : CodePoints :=
  [(0x09, 0x0D), (0x1C, 0x20), (0x85, 0x85), (0xA0, 0xA0), (0x1680, 0x1680),
   (0x2000, 0x200A), (0x2028, 0x2029), (0x202F, 0x202F), (0x205F, 0x205F),
   (0x3000, 0x3000)]

def isBlank (c : Char) : Bool :=
  blanks.holds c

/-- A text of blanks only; it may be empty. -/
def AllBlank (text : Text) : Prop :=
  ∀ c ∈ text, isBlank c = true

instance (text : Text) : Decidable (AllBlank text) :=
  List.decidableBAll (fun c => isBlank c = true) text

def trimStart (text : Text) : Text :=
  text.dropWhile isBlank

def trimEnd (text : Text) : Text :=
  text.dropEndWhile isBlank

def trim (text : Text) : Text :=
  trimEnd (trimStart text)

/-- The maximal runs of characters that are not blank. -/
def solids (text : Text) : List Text :=
  maximalRuns (fun c => !isBlank c) text

end Text
end QuotedWords
