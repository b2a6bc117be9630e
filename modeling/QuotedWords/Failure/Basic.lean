import QuotedWords.Text.Quoted
import QuotedWords.Position

/-!
# Failures

Why a text cannot be split into words, and where.
-/

namespace QuotedWords

inductive Fault where
  /-- The text ends inside a quotation that was opened by this quote. -/
  | unterminatedQuote (quote : Text)
  | danglingEscape
  /-- This character after the leader stands for nothing. -/
  | unrecognizedEscape (char : Text)
  | other (message : Text)
  deriving DecidableEq, Repr

namespace Fault

def message : Fault → Text
  | .unterminatedQuote quote => "unterminated quote ".toList ++ Text.display quote
  | .danglingEscape => "unexpected end of input after escape character".toList
  | .unrecognizedEscape char =>
      "invalid escape sequence for ".toList ++ Text.display char
  | .other message => message

/-- Whether more text could close what the fault complains about. -/
def isUnterminatedQuote : Fault → Bool
  | .unterminatedQuote _ => true
  | _ => false

end Fault

/-- A fault, the place it complains about, and the text around that place. -/
structure Failure where
  fault : Fault
  /-- Where the quotation or the escape begins. -/
  position : Position
  source : Text
  /-- The number of the first line of that text. -/
  sourceLine : Int := 1
  /-- The line of the enclosing file on which the split text starts. -/
  firstLine : Int := 1
  deriving DecidableEq, Repr

namespace Failure

def message (failure : Failure) : Text :=
  failure.fault.message

/-- The failure with the whole of the split text as its source. -/
def attachSource (failure : Failure) (text : Text) : Failure :=
  { failure with source := text, sourceLine := 1 }

/-- The failure of a text that starts on the given line of a file. -/
def startingOn (failure : Failure) (line : Int) : Failure :=
  { failure with firstLine := line }

end Failure
end QuotedWords
