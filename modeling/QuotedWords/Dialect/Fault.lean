import QuotedWords.Datum.Display
import QuotedWords.Datum.Limit
import QuotedWords.Dialect.Named

/-!
# Faults of a dialect

Everything that can be wrong with the parts from which a dialect is made, or
with the settings that name them, and the message that says so.
-/

namespace QuotedWords

inductive DialectFault where
  | badOpener (got : Datum)
  /-- What stands for the closer and the mode does not fall into two. -/
  | badPair (opener : Char) (got : Datum)
  | badCloser (opener : Char) (got : Datum)
  | badMode (opener : Char) (got : Datum)
  | badEscapeKey (got : Datum)
  | badReplacement (key : Char) (got : Datum)
  | badLeader (got : Datum)
  | unknownStyle (got : Datum)
  | quotesNotTable
  | quoteNotTable (opener : Text)
  | unknownMode (opener : Text) (got : Datum)
  | escapesNotTable
  | unreadable (detail : Text)

namespace DialectFault

def got? : DialectFault → Option Datum
  | .badOpener got | .badPair _ got | .badCloser _ got | .badMode _ got
  | .badEscapeKey got | .badReplacement _ got | .badLeader got
  | .unknownStyle got | .unknownMode _ got => some got
  | .quotesNotTable | .quoteNotTable _ | .escapesNotTable | .unreadable _ => none

def notSingle (what : Text) (got : Datum) : Text :=
  what ++ " must be a single character, got ".toList ++ got.display

def message : DialectFault → Text
  | .badOpener got => notSingle "quote opener".toList got
  | .badPair opener got =>
      "quote ".toList ++ Text.display [opener] ++
        " must map to a (closer, mode) pair, got ".toList ++ got.display
  | .badCloser opener got =>
      notSingle ("closer for quote ".toList ++ Text.display [opener]) got
  | .badMode opener got =>
      "invalid quote mode for ".toList ++ Text.display [opener] ++ ": ".toList ++
        got.display
  | .badEscapeKey got => notSingle "escape character".toList got
  | .badReplacement key got =>
      notSingle ("replacement for escape ".toList ++ Text.display [key]) got
  | .badLeader got => notSingle "escape leader".toList got
  | .unknownStyle got =>
      "unknown style ".toList ++ got.display ++ " (expected one of ".toList ++
        Text.joinWith ", ".toList (Style.all.map Style.name) ++ ")".toList
  | .quotesNotTable => "[quotes] must be a table".toList
  | .quoteNotTable opener =>
      "quote ".toList ++ Text.display opener ++
        " must be a table with 'close' and 'mode'".toList
  | .unknownMode opener got =>
      "invalid mode ".toList ++ got.display ++ " for quote ".toList ++
        Text.display opener
  | .escapesNotTable => "[escapes] must be a table".toList
  | .unreadable detail => "invalid config file: ".toList ++ detail

/-- The limit that prevents the message, when values are shown in so many levels. -/
def limitWithin? (levels : Nat) (fault : DialectFault) : Option Datum.Limit :=
  fault.got?.bind (Datum.limitWithin? levels)

def messageWithin (levels : Nat) (fault : DialectFault) : Except Datum.Limit Text :=
  match fault.limitWithin? levels with
  | some limit => .error limit
  | none => .ok fault.message

end DialectFault
end QuotedWords
