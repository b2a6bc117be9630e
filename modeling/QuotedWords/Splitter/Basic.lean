import QuotedWords.Dialect.Basic
import QuotedWords.Failure.Basic

/-!
# Splitters

A splitter is fed characters and yields words.  This module holds what it
remembers between characters: the words so far, the characters of the current
word, the state, and the part of the input that a failure could still point
into.
-/

namespace QuotedWords

/-- A quotation that has been opened and not been closed. -/
structure OpenQuote where
  close : Char
  mode : QuoteMode
  opener : Char
  /-- Where the opener was read. -/
  start : Position
  deriving DecidableEq, Repr

/-- Where the next character stands as far as quotations go. -/
inductive Context where
  | bare
  | quoted (quote : OpenQuote)
  deriving DecidableEq, Repr

/-- What the next character will be read as. -/
inductive State where
  | within (context : Context)
  /-- A leader was read; the next character is escaped. -/
  | escaping (resume : Context) (leader : Position)
  deriving DecidableEq, Repr

/-- The part of the input that a failure could still point into. -/
structure Window where
  text : Array Char := #[]
  /-- The number of the line on which that part starts. -/
  firstLine : Int := 1
  next : Position := .start
  deriving DecidableEq, Repr

/-- What a splitter reports while it works. -/
inductive Event where
  /-- A word was completed; words are counted from zero. -/
  | word (index : Nat) (word : Text)
  | failed (position : Position) (message : Text)
  deriving DecidableEq, Repr

/-- A splitter between two characters. -/
structure Splitter where
  words : Array Text := #[]
  buffer : Array Char := #[]
  /-- Whether there is a current word; it may be empty so far. -/
  started : Bool := false
  state : State := .within .bare
  /-- Whether the splitter takes no more characters. -/
  closed : Bool := false
  window : Window := {}
  log : Array Event := #[]
  deriving DecidableEq, Repr

namespace Splitter

def fresh : Splitter := {}

def flush (splitter : Splitter) : Splitter :=
  let word := splitter.buffer.toList
  { splitter with
    words := splitter.words.push word
    buffer := #[]
    started := false
    log := splitter.log.push (.word splitter.words.size word) }

def separate (splitter : Splitter) : Splitter :=
  if splitter.started then splitter.flush else splitter

/-- Adds a character to the current word, which it starts if there is none. -/
def emit (splitter : Splitter) (c : Char) : Splitter :=
  { splitter with buffer := splitter.buffer.push c, started := true }

/-- The failure for a fault at a position, with the input that is still known. -/
def failure (splitter : Splitter) (fault : Fault) (position : Position) : Failure :=
  { fault
    position
    source := splitter.window.text.toList
    sourceLine := splitter.window.firstLine }

def fail (splitter : Splitter) (fault : Fault) (position : Position) :
    Splitter × Failure :=
  ({ splitter with
      closed := true
      log := splitter.log.push (.failed position fault.message) },
    splitter.failure fault position)

end Splitter
end QuotedWords
