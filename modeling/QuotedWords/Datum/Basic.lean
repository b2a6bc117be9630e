import QuotedWords.Text.Numeral
import QuotedWords.Decimal.Binary64
import QuotedWords.Datum.Moment
import QuotedWords.Dialect.QuoteMode

/-!
# Loosely typed data

Settings and the parts of a dialect come from outside, and any of them may be of
the wrong kind.  A datum is what they are before they have been checked.
-/

namespace QuotedWords

/-- A datum that holds no other data; these can be the keys of a map. -/
inductive Scalar where
  | null
  | truth (value : Bool)
  | integer (value : Int)
  | real (value : Binary64)
  | text (value : Text)
  | moment (value : Moment)
  deriving DecidableEq, Repr

/-- How many digits the integer has that a scalar is, if they are too many for a numeral. -/
def Scalar.excess? : Scalar → Option Nat
  | .integer value => Text.excessDigits? value
  | _ => none

inductive Datum where
  | scalar (value : Scalar)
  /-- A quote mode that is already known to be one. -/
  | mode (value : QuoteMode)
  | list (items : List Datum)
  /-- A table; its keys are in order and no key occurs twice. -/
  | table (entries : List (Text × Datum))

namespace Datum

abbrev null : Datum := .scalar .null

instance : Inhabited Datum :=
  ⟨null⟩

abbrev text (value : Text) : Datum := .scalar (.text value)

def text? : Datum → Option Text
  | .scalar (.text value) => some value
  | _ => none

/-- The character of a datum, if it is a text of exactly one character. -/
def char? : Datum → Option Char
  | .scalar (.text [c]) => some c
  | _ => none

def mode? : Datum → Option QuoteMode
  | .mode value => some value
  | _ => none

def isNull : Datum → Bool
  | .scalar .null => true
  | _ => false

/-- Whether the datum is empty: nothing, false, zero, or without members. -/
def isEmpty : Datum → Bool
  | .scalar .null => true
  | .scalar (.truth value) => !value
  | .scalar (.integer value) => value == 0
  | .scalar (.real value) => value.isZero
  | .scalar (.text value) => value.isEmpty
  | .scalar (.moment _) => false
  | .mode _ => false
  | .list items => items.isEmpty
  | .table entries => entries.isEmpty

/--
The two members that a datum falls into, if it does: those of a list of two, the two
characters of a text, or the two keys of a table.
-/
def pair? : Datum → Option (Datum × Datum)
  | .list [first, second] => some (first, second)
  | .scalar (.text [first, second]) => some (.text [first], .text [second])
  | .table [(first, _), (second, _)] => some (.text first, .text second)
  | _ => none

end Datum
end QuotedWords
