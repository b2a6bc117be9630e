import QuotedWords.Text.Lines
import QuotedWords.Failure.Basic

/-!
# Snippets

The display of a failure in five lines: the message, the place, and the row in
which the place is, with a caret under the character in question.  The bars of
the last three lines are below one another.
-/

namespace QuotedWords
namespace Failure

/-- The name that is shown for a text without a file. -/
def unnamed : Text :=
  "<input>".toList

/-- The row of the source that holds the position; empty if there is none. -/
def shownRow (failure : Failure) : Text :=
  let index := failure.position.line - failure.sourceLine
  if index < 0 then []
  else
    match (Text.rowsWithBreaks failure.source)[index.toNat]? with
    | some row => (row.dropEndWhile (· == '\n')).dropEndWhile (· == '\r')
    | none => []

/-- The number of the line of the file in which the position is. -/
def shownLine (failure : Failure) (firstLine : Int) : Int :=
  failure.position.line + firstLine - 1

def renderFrom (failure : Failure) (filename : Text) (firstLine : Int) : Text :=
  let number := Text.ofInt (failure.shownLine firstLine)
  let margin := Text.spaces (number.length + 1)
  let column := failure.position.column
  "error: ".toList ++ failure.message ++ '\n' ::
    (margin ++ "--> ".toList ++ filename ++ ':' :: number ++ ':' :: Text.ofInt column ++
      '\n' ::
    (margin ++ '|' :: '\n' ::
    (number ++ " | ".toList ++ failure.shownRow ++ '\n' ::
    (margin ++ "| ".toList ++ Text.spaces (column - 1).toNat ++ ['^']))))

/--
The display of a failure in a named file; the line on which the text starts may
be given aside.
-/
def render (failure : Failure) (filename : Text) (firstLine : Option Int) : Text :=
  failure.renderFrom filename (firstLine.getD failure.firstLine)

def display (failure : Failure) : Text :=
  failure.render unnamed none

end Failure
end QuotedWords
