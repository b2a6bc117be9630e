/-!
# Quote modes
-/

namespace QuotedWords

/-- What the inside of a quotation is read as. -/
inductive QuoteMode where
  /-- Every character stands for itself. -/
  | ignoreEscapes
  /-- Escapes are read as they are outside of quotations. -/
  | parseEscapes
  deriving DecidableEq, Repr

end QuotedWords
