import QuotedWords.Text.Hexadecimal
import QuotedWords.Text.Printable

/-!
# Quoted display of texts

A text shown inside a message is put in single quotes, or in double quotes when
it holds a single quote and no double quote.  The delimiter, the backslash and
every character that is not printable are written as escapes, so a displayed
text is always on one line.
-/

namespace QuotedWords
namespace Text

/-- The delimiter in which a text is displayed. -/
def delimiter (text : Text) : Char :=
  if text.contains '\'' && !text.contains '"' then '"' else '\''

/-- The escape of a character by its code point, as short as its size allows. -/
def codePointEscape (c : Char) : Text :=
  if c.toNat < 0x100 then '\\' :: 'x' :: hexadecimal 2 c.toNat
  else if c.toNat < 0x10000 then '\\' :: 'u' :: hexadecimal 4 c.toNat
  else '\\' :: 'U' :: hexadecimal 8 c.toNat

/-- How one character is written between the given delimiters. -/
def displayChar (delimiter c : Char) : Text :=
  if c = delimiter ∨ c = '\\' then ['\\', c]
  else if c = '\n' then ['\\', 'n']
  else if c = '\r' then ['\\', 'r']
  else if c = '\t' then ['\\', 't']
  else if isPrintable c then [c]
  else codePointEscape c

def display (text : Text) : Text :=
  let quote := delimiter text
  quote :: (text.flatMap (displayChar quote) ++ [quote])

example : display "it's".toList = "\"it's\"".toList := by decide +kernel

example : display "a\\'\"\n".toList = "'a\\\\\\'\"\\n'".toList := by decide +kernel

end Text
end QuotedWords
