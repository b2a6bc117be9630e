import QuotedWords.Proofs.Command.Outcome
import QuotedWords.Proofs.Document.Traces

/-!
# Runs with a trace

A run that is asked for a trace does what it does without one, and only writes more to
its errors: the trace of every attempt at its input, in front of all that it writes
there otherwise.
-/

namespace QuotedWords
namespace Command

/-- A run comes to read its input: it has its options, and these are the lines. -/
structure Arguments.Reads (arguments : Arguments) (world : World) (options : Options)
    (lines : List Text) : Prop where
  resolved : arguments.resolve world = .ok options
  read : arguments.inputLines? world = some lines

variable {arguments : Arguments} {world : World} {options : Options} {lines : List Text}

/-!
# The options and the input
-/

end Command
end QuotedWords
