import QuotedWords.Text.Lines
import QuotedWords.Line

/-!
# Diagnostics

For an editor every row of a text is split on its own, and every row that cannot
be split gets a diagnostic at the character that the failure complains about.
-/

namespace QuotedWords

/-- A remark on one character of a text; rows and characters count from zero. -/
structure Diagnostic where
  row : Nat
  /-- The first character remarked on. -/
  first : Int
  /-- The character after the last one remarked on. -/
  bound : Int
  message : Text
  deriving DecidableEq, Repr

def Diagnostic.ofFailure (row : Nat) (failure : Failure) : Diagnostic :=
  let character := failure.position.column - 1
  { row, first := character, bound := character + 1, message := failure.message }

namespace Dialect

def diagnoseRow (dialect : Dialect) (index : Nat) (row : Text) : Option Diagnostic :=
  match dialect.splitInPlace row with
  | .ok _ => none
  | .error failure => some (.ofFailure index failure)

def diagnose (dialect : Dialect) (text : Text) : List Diagnostic :=
  (Text.rows text).zipIdx.filterMap fun entry => dialect.diagnoseRow entry.2 entry.1

end Dialect

/-- The diagnostics of a document of an editor, under the name of the document. -/
structure Publication where
  uri : Text
  diagnostics : List Diagnostic
  deriving DecidableEq, Repr

/-- What is published when a document is opened or changed to hold this text. -/
def Publication.ofText (uri text : Text) : Publication :=
  { uri, diagnostics := Dialect.shell.diagnose text }

end QuotedWords
