import QuotedWords.Splitter.Step

/-!
# Sessions

A splitter may be fed in pieces of any size, and by callers that go on after a
failure.  Whatever a call is given, it leaves a splitter from which the session
continues; a splitter that has ended refuses all that would change it.
-/

namespace QuotedWords

inductive Refusal where
  | ended
  /-- This piece had to be a single character. -/
  | notSingle (piece : Text)
  | failed (failure : Failure)
  deriving DecidableEq, Repr

namespace Refusal

def message : Refusal → Text
  | .ended => "tokeniser has already finished".toList
  | .notSingle piece =>
      "expected a single character, got ".toList ++ Text.display piece
  | .failed failure => failure.message

end Refusal

namespace Splitter

/-- Feeds a piece that has to be a single character. -/
def feedPiece (dialect : Dialect) (splitter : Splitter) (piece : Text) :
    Splitter × Option Refusal :=
  if splitter.closed then (splitter, some .ended)
  else
    match piece with
    | [c] =>
        let stepped := splitter.step dialect c
        (stepped.1, stepped.2.map .failed)
    | _ => (splitter, some (.notSingle piece))

/-- Feeds pieces one after the other, up to the first that is refused. -/
def feedPieces (dialect : Dialect) :
    Splitter → List Text → Splitter × Option Refusal
  | splitter, [] => (splitter, none)
  | splitter, piece :: rest =>
      match splitter.feedPiece dialect piece with
      | (next, none) => feedPieces dialect next rest
      | (next, some refusal) => (next, some refusal)

def feedText (dialect : Dialect) (splitter : Splitter) (text : Text) :
    Splitter × Option Refusal :=
  splitter.feedPieces dialect (text.map fun c => [c])

/-- Feeds the characters of a line without the blanks at its ends. -/
def feedLine (dialect : Dialect) (splitter : Splitter) (line : Text) :
    Splitter × Option Refusal :=
  splitter.feedText dialect (Text.trim line)

def finish (splitter : Splitter) : Splitter × Except Refusal (List Text) :=
  if splitter.closed then (splitter, .error .ended)
  else
    let concluded := splitter.conclude
    (concluded.1, concluded.2.mapError .failed)

inductive Call where
  | piece (piece : Text)
  | pieces (pieces : List Text)
  | text (text : Text)
  | line (line : Text)
  | finish
  deriving DecidableEq, Repr

/-- What a call that was not refused answers: the words, if it asked for them. -/
abbrev Answer := Option (List Text)

def call (dialect : Dialect) (splitter : Splitter) :
    Call → Splitter × Except Refusal Answer
  | .piece piece => fed (splitter.feedPiece dialect piece)
  | .pieces pieces => fed (splitter.feedPieces dialect pieces)
  | .text text => fed (splitter.feedText dialect text)
  | .line line => fed (splitter.feedLine dialect line)
  | .finish =>
      let finished := splitter.finish
      (finished.1, finished.2.map some)
where
  fed : Splitter × Option Refusal → Splitter × Except Refusal Answer
    | (next, none) => (next, .ok none)
    | (next, some refusal) => (next, .error refusal)

/-- The splitter after a sequence of calls, whatever they answered. -/
def callAll (dialect : Dialect) (splitter : Splitter) (calls : List Call) : Splitter :=
  calls.foldl (fun current request => (current.call dialect request).1) splitter

end Splitter
end QuotedWords
