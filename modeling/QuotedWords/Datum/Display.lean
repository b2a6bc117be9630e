import QuotedWords.Text.Quoted
import QuotedWords.Decimal.Shortest
import QuotedWords.Datum.Basic

/-!
# Display of data

How a datum is shown inside a message: texts in quotes, numbers in full, lists
in brackets and tables in braces, with a comma and a space between members.
-/

namespace QuotedWords

/-- The display of a quote mode: its name and its number. -/
def QuoteMode.display : QuoteMode → Text
  | .ignoreEscapes => "<QuoteMode.IGNORE_ESCAPES: 1>".toList
  | .parseEscapes => "<QuoteMode.PARSE_ESCAPES: 2>".toList

def Scalar.display : Scalar → Text
  | .null => "None".toList
  | .truth true => "True".toList
  | .truth false => "False".toList
  | .integer value => Text.ofInt value
  | .real value => value.display
  | .text value => Text.display value
  | .moment value => value.display

namespace Datum

mutual

def display : Datum → Text
  | .scalar value => value.display
  | .mode value => value.display
  | .list items => '[' :: (Text.joinWith ", ".toList (displayItems items) ++ [']'])
  | .table entries =>
      '\x7b' :: (Text.joinWith ", ".toList (displayEntries entries) ++ ['\x7d'])

def displayItems : List Datum → List Text
  | [] => []
  | item :: items => display item :: displayItems items

def displayEntries : List (Text × Datum) → List Text
  | [] => []
  | (key, value) :: entries =>
      (Text.display key ++ ':' :: ' ' :: display value) :: displayEntries entries

end

example : display (.list [.null, .scalar (.truth true), .scalar (.integer (-7))]) =
    "[None, True, -7]".toList := by decide +kernel

end Datum
end QuotedWords
