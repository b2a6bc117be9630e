import QuotedWords.Text.Blank
import QuotedWords.Dialect.Named

/-!
# Writing words

Any word at all can be written as a quotation: inside of it, the closer and the
leader are escaped, and everything else stands for itself.
-/

namespace QuotedWords

/-- The characters with which words are written as quotations. -/
structure Writer where
  opener : Char
  close : Char
  leader : Char
  deriving DecidableEq, Repr

namespace Writer

/-- One character of a word, inside of the quotation. -/
def writeChar (writer : Writer) (c : Char) : Text :=
  if c = writer.close ∨ c = writer.leader then [writer.leader, c] else [c]

def write (writer : Writer) (word : Text) : Text :=
  writer.opener :: (word.flatMap writer.writeChar ++ [writer.close])

/-- A dialect reads what the writer writes. -/
structure Suits (writer : Writer) (dialect : Dialect) : Prop where
  opener_not_blank : Text.isBlank writer.opener = false
  close_not_blank : Text.isBlank writer.close = false
  leader_ne_close : writer.leader ≠ writer.close
  opens : dialect.quotes.get? writer.opener = some ⟨writer.close, .parseEscapes⟩
  leads : dialect.leader = some writer.leader
  resolves_close : dialect.resolve writer.close = some writer.close
  resolves_leader : dialect.resolve writer.leader = some writer.leader

/-- Words in double quotes, with backslashes. -/
def doubleQuotes : Writer :=
  ⟨'"', '"', '\\'⟩

theorem doubleQuotes_suits_shell : doubleQuotes.Suits Dialect.shell := by
  constructor <;> decide

theorem doubleQuotes_suits_c : doubleQuotes.Suits Style.c.dialect := by
  constructor <;> decide

end Writer
end QuotedWords
