import QuotedWords.Text.Lines
import QuotedWords.Text.Hexadecimal

/-!
# JSON strings

How arrays of strings are written, and how they are read.  Inside a JSON string
only the double quote, the backslash and the characters below the space are
escaped, five of the latter by a letter and the others by four hexadecimal
digits.  Everything else stands for itself.
-/

namespace QuotedWords
namespace Text

/-!
# Writing
-/

/-- The letter that escapes a control character, if it has one. -/
def jsonLetter : Char → Option Char
  | '\x08' => some 'b'
  | '\x0c' => some 'f'
  | '\n' => some 'n'
  | '\r' => some 'r'
  | '\t' => some 't'
  | _ => none

/-- How one character is written inside a JSON string. -/
def jsonChar (c : Char) : Text :=
  if c = '"' ∨ c = '\\' then ['\\', c]
  else match jsonLetter c with
    | some letter => ['\\', letter]
    | none =>
        if c.toNat < 0x20 then '\\' :: 'u' :: hexadecimal 4 c.toNat else [c]

def jsonString (text : Text) : Text :=
  '"' :: (text.flatMap jsonChar ++ ['"'])

/-- A list of texts as a JSON array of strings, on one line. -/
def jsonArray (texts : List Text) : Text :=
  '[' :: (joinWith [',', ' '] (texts.map jsonString) ++ [']'])

example : jsonArray ["a\"".toList, "\n\x01".toList] =
    "[\"a\\\"\", \"\\n\\u0001\"]".toList := by decide +kernel

/-!
# Reading
-/

/-- The character that a letter, a quote or a slash after a backslash stands for. -/
def jsonMeaning? : Char → Option Char
  | '"' => some '"'
  | '\\' => some '\\'
  | '/' => some '/'
  | 'b' => some '\x08'
  | 'f' => some '\x0c'
  | 'n' => some '\n'
  | 'r' => some '\r'
  | 't' => some '\t'
  | _ => none

/-- The character whose code point is written in hexadecimal digits, if there is one. -/
def charOfHexadecimal? (digits : Text) : Option Char := do
  let values ← digits.mapM hexValue?
  charOfCodePoint? (values.foldl (fun total value => total * 16 + value) 0)

/-- Where in an array of strings a reader is. -/
inductive JsonSpot where
  /-- Before the first string or the closing bracket. -/
  | opened
  /-- Before a string. -/
  | item
  | inside
  /-- After a string. -/
  | after
  deriving DecidableEq, Repr

/--
Reads what is left of an array of strings.  Inside a string, the first of the
strings read is what is left of that string.
-/
def readJsonItems : JsonSpot → Text → Option (List Text)
  | .opened, [']'] | .after, [']'] => some []
  | .opened, '"' :: rest | .item, '"' :: rest => readJsonItems .inside rest
  | .after, ',' :: rest => readJsonItems .item rest
  | .inside, '"' :: rest => (readJsonItems .after rest).map fun items => [] :: items
  | .inside, '\\' :: 'u' :: a :: b :: c :: d :: rest => do
      let meant ← charOfHexadecimal? [a, b, c, d]
      (readJsonItems .inside rest).map (consRow meant)
  | .inside, '\\' :: c :: rest => do
      let meant ← jsonMeaning? c
      (readJsonItems .inside rest).map (consRow meant)
  | .inside, c :: rest =>
      if c.toNat < 0x20 ∨ c = '\\' then none
      else (readJsonItems .inside rest).map (consRow c)
  | spot, ' ' :: rest => readJsonItems spot rest
  | _, _ => none

/-- The strings of an array that is written as JSON. -/
def readJsonArray : Text → Option (List Text)
  | '[' :: rest => readJsonItems .opened rest
  | _ => none

example : readJsonArray "[\"a\\\"\", \"\\n\\u0001\", \"\"]".toList =
    some ["a\"".toList, "\n\x01".toList, []] := by decide +kernel

end Text
end QuotedWords
