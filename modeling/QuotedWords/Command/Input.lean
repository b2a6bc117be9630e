import QuotedWords.Text.Lines
import QuotedWords.Text.Utf8

/-!
# Input

The bytes of the input are decoded in blocks, and the lines that a block
completes are split before the next block is decoded.  So bytes that are no
UTF-8 end the run after the lines of the blocks before them; bytes that end
inside a character end it after all lines that are complete by then.
-/

namespace QuotedWords
namespace Command

/-- At what the lines of a stream end. -/
inductive LineEnds where
  /-- At newlines and carriage returns, which are one end where they are together. -/
  | universal
  | newlines
  deriving DecidableEq, Repr

namespace LineEnds

def lines : LineEnds → Text → List Text
  | .universal => Text.fileLines
  | .newlines => Text.newlineEnded

/-- The lines that are known to be complete once this leading part has been read. -/
def completeLines : LineEnds → Text → List Text
  | .universal => Text.completeFileLines
  | .newlines => Text.completeLines

end LineEnds

/-- Bytes that are read in lines. -/
structure Stream where
  bytes : List UInt8
  lineEnds : LineEnds
  deriving DecidableEq, Repr

/-- The stream of a file. -/
def Stream.ofFile (bytes : List UInt8) : Stream :=
  ⟨bytes, .universal⟩

/-- The lines of an input, and whether it could be read to its end. -/
structure Input where
  lines : List Text
  readable : Bool
  deriving DecidableEq, Repr

namespace Input

/-- How many bytes are decoded at once. -/
def blockSize : Nat := 8192

def ofStream (stream : Stream) : Input :=
  match Utf8.decode stream.bytes with
  | ⟨text, .complete⟩ => ⟨stream.lineEnds.lines text, true⟩
  | ⟨text, .truncated⟩ => ⟨stream.lineEnds.completeLines text, false⟩
  | ⟨_, .invalid offset⟩ =>
      let before := stream.bytes.take (offset / blockSize * blockSize)
      ⟨stream.lineEnds.completeLines (Utf8.decode before).text, false⟩

end Input
end Command
end QuotedWords
