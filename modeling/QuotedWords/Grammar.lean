import QuotedWords.Text.Blank
import QuotedWords.Dialect.Basic

/-!
# The grammar of a line

What a line is, and which words it stands for, said without a splitter.  A line
is words with blanks around them and between them; a word is one segment or
more; and a segment is a plain character, an escape or a quotation.  Each of
these relations holds between a text and what the text stands for.
-/

namespace QuotedWords
namespace Grammar

/-- The inside of a quotation, up to the closer. -/
inductive Inside (dialect : Dialect) (rule : QuoteRule) : Text → Text → Prop where
  | nil : Inside dialect rule [] []
  /-- A character that neither closes the quotation nor leads an escape. -/
  | plain {c : Char} {text value : Text}
      (notClose : c ≠ rule.close)
      (notLeader : ¬ (rule.mode = .parseEscapes ∧ dialect.leader = some c))
      (rest : Inside dialect rule text value) :
      Inside dialect rule (c :: text) (c :: value)
  /-- An escape, in a quotation that honours escapes. -/
  | escape {leader c meant : Char} {text value : Text}
      (mode : rule.mode = .parseEscapes)
      (leads : dialect.leader = some leader)
      (notClose : leader ≠ rule.close)
      (resolves : dialect.resolve c = some meant)
      (rest : Inside dialect rule text value) :
      Inside dialect rule (leader :: c :: text) (meant :: value)

/-- A segment of a word.  A blank is no segment, and an opener leads no escape. -/
inductive Segment (dialect : Dialect) : Text → Text → Prop where
  | plain {c : Char}
      (notBlank : Text.isBlank c = false)
      (notOpener : dialect.quotes.get? c = none)
      (notLeader : dialect.leader ≠ some c) :
      Segment dialect [c] [c]
  | escape {leader c meant : Char}
      (notBlank : Text.isBlank leader = false)
      (notOpener : dialect.quotes.get? leader = none)
      (leads : dialect.leader = some leader)
      (resolves : dialect.resolve c = some meant) :
      Segment dialect [leader, c] [meant]
  | quotation {opener : Char} {rule : QuoteRule} {text value : Text}
      (notBlank : Text.isBlank opener = false)
      (opens : dialect.quotes.get? opener = some rule)
      (inside : Inside dialect rule text value) :
      Segment dialect (opener :: (text ++ [rule.close])) value

/-- A word: one segment or more. -/
inductive Word (dialect : Dialect) : Text → Text → Prop where
  | segment {text value : Text}
      (segment : Segment dialect text value) :
      Word dialect text value
  | cons {text value rest more : Text}
      (segment : Segment dialect text value)
      (word : Word dialect rest more) :
      Word dialect (text ++ rest) (value ++ more)

/-- Words with blanks after each of them; only after the last may there be none. -/
inductive Words (dialect : Dialect) : Text → List Text → Prop where
  | last {text value blanks : Text}
      (word : Word dialect text value)
      (blank : Text.AllBlank blanks) :
      Words dialect (text ++ blanks) [value]
  | cons {text value blanks rest : Text} {words : List Text}
      (word : Word dialect text value)
      (blank : Text.AllBlank blanks)
      (gap : blanks ≠ [])
      (more : Words dialect rest words) :
      Words dialect (text ++ (blanks ++ rest)) (value :: words)

/-- A line: blanks alone, or words that may have blanks in front of them. -/
inductive Line (dialect : Dialect) : Text → List Text → Prop where
  | blank {blanks : Text}
      (blank : Text.AllBlank blanks) :
      Line dialect blanks []
  | words {blanks text : Text} {words : List Text}
      (blank : Text.AllBlank blanks)
      (rest : Words dialect text words) :
      Line dialect (blanks ++ text) words

end Grammar
end QuotedWords
