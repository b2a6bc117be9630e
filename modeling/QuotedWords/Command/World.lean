import QuotedWords.Dialect.Fault
import QuotedWords.Toml.Document
import QuotedWords.Command.Abort
import QuotedWords.Command.Input

/-!
# The world of a run

What a run of the command has around it, besides its arguments: the files and the
standard input, and what the machine does for it and where that has its limits.
-/

namespace QuotedWords
namespace Command

/-- What is made of the document of the settings. -/
inductive Loaded where
  | settings (entries : List (Text × Datum))
  /-- The document does not have its form. -/
  | malformed (detail : Text)
  | aborted (abort : Abort)

def Loaded.ofToml : Except Toml.Flaw (List (Text × Datum)) → Loaded
  | .ok entries => .settings entries
  | .error flaw =>
      match flaw.cause with
      | .integerTooLong digits => .aborted (.integerTooLong digits)
      | .nestedTooDeeply => .aborted .nestedTooDeeply
      | _ => .malformed flaw.message

structure World where
  files : Files
  stdin : Stream
  /-- Reads the document of the settings. -/
  load : Text → Loaded
  /-- In how many levels what a fault is about can be shown where the fault is found. -/
  shownLevels : DialectFault → Nat

end Command
end QuotedWords
