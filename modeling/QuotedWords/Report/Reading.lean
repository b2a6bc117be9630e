import QuotedWords.Text.Lines
import QuotedWords.Text.Runs
import QuotedWords.Report

/-!
# Reading reports

What a program that is given a report can get back from it, for each of the
three forms.
-/

namespace QuotedWords
namespace Format

/-- The lines of a text, each of which has to be ended by a newline. -/
def readLines (text : Text) : List Text :=
  (Text.cutAt '\n' text).dropLast

/-- The groups of a report of one array a group. -/
def readArrays (report : Text) : Option (List (List Text)) :=
  (readLines report).mapM Text.readJsonArray

/-- The groups of a report of one word a line. -/
def readGroups (report : Text) : List (List Text) :=
  maximalRuns (fun line => !line.isEmpty) (readLines report)

/-- The words of a report in which NUL ends every word. -/
def readEnded (report : Text) : List Text :=
  (Text.cutAt '\x00' report).dropLast

end Format
end QuotedWords
