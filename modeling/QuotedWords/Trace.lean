import QuotedWords.Document

/-!
# Traces

What the splitting of a document reports on the way, written for a reader who
wants to see it: a line for every word completed, for every failure and for
every continued line, and a list of the words of every group.
-/

namespace QuotedWords

/-- The rows of a list of words, numbered from an index on, with their lengths. -/
def wordRows (index : Nat) : List Text → Text
  | [] => []
  | word :: words =>
      "  [".toList ++ Text.ofNat index ++ "] ".toList ++ Text.display word ++
        " len=".toList ++ Text.ofNat word.length ++ '\n' ::
        wordRows (index + 1) words

/-- A list of words, under a heading that may name their line. -/
def wordList (line : Option Int) (words : List Text) : Text :=
  let place :=
    match line with
    | some line => " (line ".toList ++ Text.ofInt line ++ ")".toList
    | none => []
  "Words".toList ++ place ++ '\n' ::
    if words.isEmpty then "  (none)\n".toList else wordRows 0 words

def Event.line : Event → Text
  | .word index completed =>
      "quotesplit.tokeniser: word ".toList ++ Text.ofNat index ++ ": ".toList ++
        Text.display completed ++ ['\n']
  | .failed position message =>
      "quotesplit.tokeniser: tokenise error at ".toList ++
        Text.ofInt position.line ++ ':' :: Text.ofInt position.column ++
        ": ".toList ++ message ++ ['\n']

namespace Attempt

/-- What is written when an attempt is over. -/
def closing (attempt : Attempt) : Text :=
  match attempt.verdict with
  | .words [] => []
  | .words words => wordList (some attempt.group.start) words
  | .continued =>
      "quotesplit.cli: line ".toList ++ Text.ofNat attempt.group.start ++
        ": open quote, continuing onto line ".toList ++
        Text.ofNat (attempt.last + 1) ++ ['\n']
  | .failed _ => []

def trace (attempt : Attempt) : Text :=
  attempt.log.flatMap Event.line ++ attempt.closing

end Attempt
end QuotedWords
