import QuotedWords.Dialect.Named
import QuotedWords.Splitter.Step

/-!
# Splitting one text

A whole text is read by a fresh splitter, which is then ended.  `Dialect.words`
reads the text as it is; `Dialect.split` and `Dialect.splitInPlace` read it
without the blanks at its ends, or at its end alone, and show the whole of what
they have read in a failure.
-/

namespace QuotedWords

/-- What came of reading a whole text. -/
structure Reading where
  splitter : Splitter
  outcome : Except Failure (List Text)

namespace Dialect

/-- A fresh splitter reads the whole text and is ended. -/
def reading (dialect : Dialect) (text : Text) : Reading :=
  match Splitter.fresh.read dialect text with
  | (splitter, none) =>
      let concluded := splitter.conclude
      ⟨concluded.1, concluded.2⟩
  | (splitter, some failure) => ⟨splitter, .error failure⟩

def words (dialect : Dialect) (text : Text) : Except Failure (List Text) :=
  (dialect.reading text).outcome

/-- The words of a line without the blanks at its ends. -/
def split (dialect : Dialect) (line : Text) : Except Failure (List Text) :=
  let text := Text.trim line
  (dialect.words text).mapError fun failure => failure.attachSource text

/--
The words of a line without the blanks at its end.  Those at its start are read,
so that positions are those of the line as it was written.
-/
def splitInPlace (dialect : Dialect) (line : Text) : Except Failure (List Text) :=
  let text := Text.trimEnd line
  (dialect.words text).mapError fun failure => failure.attachSource text

end Dialect

/-- The words of a line in the dialect given, else in that of the shell. -/
def split (line : Text) (dialect : Option Dialect) : Except Failure (List Text) :=
  (dialect.getD .shell).split line

end QuotedWords
