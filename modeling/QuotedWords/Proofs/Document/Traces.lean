import QuotedWords.Trace
import QuotedWords.Proofs.Document.Continuation
import QuotedWords.Proofs.Splitter.Reports

/-!
# The trace of a document

The trace of a document is that of its attempts.  Each of them is made at lines that
come one after the other, and its trace shows the words that it completed, the
failure in which it ended, if it did, and whether it is continued.
-/

namespace QuotedWords

namespace Dialect

variable {dialect : Dialect} {join : Bool} {group : Group} {attempt : Attempt}
  {lines settled waiting rest : List Text}

/-!
# One attempt
-/

end Dialect
end QuotedWords
