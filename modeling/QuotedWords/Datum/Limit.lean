import QuotedWords.Datum.Basic

/-!
# Limits of the display of data

Not every datum can be shown.  An integer can have too many digits for a numeral,
and lists and tables can lie too deep in one another: a datum takes a level, and
the levels of its members lie below it.  Members are shown in their order, so of
two limits the one that is met first counts.
-/

namespace QuotedWords
namespace Datum

/-- Why a datum cannot be shown. -/
inductive Limit where
  | numeral
  | depth
  deriving DecidableEq, Repr

def Limit.message : Limit → Text
  | .numeral => Text.numeralTooLong
  | .depth => "maximum recursion depth exceeded while getting the repr of an object".toList

mutual

/-- The limit that prevents the display of a datum in so many levels, if one does. -/
def limitWithin? : Nat → Datum → Option Limit
  | 0, _ => some .depth
  | _ + 1, .scalar value => value.excess?.map fun _ => .numeral
  | _ + 1, .mode _ => none
  | levels + 1, .list items => itemsLimit? levels items
  | levels + 1, .table entries => entriesLimit? levels entries

def itemsLimit? : Nat → List Datum → Option Limit
  | _, [] => none
  | levels, item :: items => (limitWithin? levels item).or (itemsLimit? levels items)

def entriesLimit? : Nat → List (Text × Datum) → Option Limit
  | _, [] => none
  | levels, (_, value) :: entries =>
      (limitWithin? levels value).or (entriesLimit? levels entries)

end

example : limitWithin? 2 (.list [.null]) = none := by decide +kernel

example : limitWithin? 2 (.list [.list [.null]]) = some .depth := by decide +kernel

end Datum
end QuotedWords
