import QuotedWords.Splitter.Session

/-!
# Transcripts

Calls on a splitter may be refused, and a refused call may still have fed
something.  A transcript says what a sequence of calls comes to: the characters
that were taken, one after the other, and whether the input was ended after
them.
-/

namespace QuotedWords

/-- What calls on a splitter come to. -/
structure Transcript where
  /-- The characters taken. -/
  taken : Text := []
  /-- Whether the input was ended after them. -/
  ended : Bool := false
  deriving DecidableEq, Repr

namespace Transcript

/-- Whether one more character would be taken. -/
def takesMore (dialect : Dialect) (transcript : Transcript) : Bool :=
  !transcript.ended && (Splitter.fresh.read dialect transcript.taken).2.isNone

/--
Takes pieces up to the first that is not a single character.  The character with
which reading fails is the last that is taken.
-/
def takePieces (dialect : Dialect) : Transcript → List Text → Transcript
  | transcript, [c] :: rest =>
      if transcript.takesMore dialect then
        takePieces dialect { transcript with taken := transcript.taken ++ [c] } rest
      else transcript
  | transcript, _ => transcript

/-- The transcript after one more call. -/
def call (dialect : Dialect) (transcript : Transcript) : Splitter.Call → Transcript
  | .piece piece => transcript.takePieces dialect [piece]
  | .pieces pieces => transcript.takePieces dialect pieces
  | .text text => transcript.takePieces dialect (text.map fun c => [c])
  | .line line => transcript.takePieces dialect ((Text.trim line).map fun c => [c])
  | .finish =>
      if transcript.takesMore dialect then { transcript with ended := true }
      else transcript

def ofCalls (dialect : Dialect) (calls : List Splitter.Call) : Transcript :=
  calls.foldl (call dialect) {}

/-- The splitter that takes the characters of a transcript, and is ended if it says so. -/
def splitter (dialect : Dialect) (transcript : Transcript) : Splitter :=
  let reached := (Splitter.fresh.read dialect transcript.taken).1
  if transcript.ended then reached.conclude.1 else reached

end Transcript
end QuotedWords
