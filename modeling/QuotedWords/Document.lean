import QuotedWords.Text.Lines
import QuotedWords.Line

/-!
# Splitting a document

A document is split line by line.  When lines are joined, a line that ends
inside a quotation is continued by the next one, and the group of lines so far
is split again as a whole.  Every time that a group is split is an *attempt*;
the words of a document, its failure and what is reported on the way are all
read off its attempts.
-/

namespace QuotedWords

/-- Lines that are split together. -/
structure Group where
  /-- The number of the first line. -/
  start : Nat
  /-- The lines without their ends, with a newline between neighbours. -/
  text : Text
  deriving DecidableEq, Repr

inductive Verdict where
  | words (words : List Text)
  /-- A quotation is open, and the next line continues it. -/
  | continued
  | failed (failure : Failure)
  deriving DecidableEq, Repr

structure Attempt where
  group : Group
  /-- The number of the last line of the group. -/
  last : Nat
  log : List Event
  verdict : Verdict
  deriving DecidableEq, Repr

namespace Dialect

/--
Splits a group of lines.  Blanks at its end are not read, but those at its start
are, so that positions are those of the lines as they were written.
-/
def attempt (dialect : Dialect) (join : Bool) (group : Group) (last : Nat) :
    Attempt :=
  let text := Text.trimEnd group.text
  let reading := dialect.reading text
  { group
    last
    log := reading.splitter.log.toList
    verdict :=
      match reading.outcome with
      | .ok words => .words words
      | .error failure =>
          if join && failure.fault.isUnterminatedQuote then .continued
          else .failed ((failure.attachSource text).startingOn group.start) }

end Dialect

/-- The group of a line: that which waits for it, else a new one. -/
def Group.extend (pending : Option Group) (number : Nat) (line : Text) : Group :=
  match pending with
  | some group => { group with text := group.text ++ '\n' :: line }
  | none => { start := number, text := line }

/-- How far a document has been split. -/
structure Progress where
  attempts : List Attempt
  /-- The group that waits for its next line. -/
  pending : Option Group
  deriving DecidableEq, Repr

def Progress.cons (attempt : Attempt) (progress : Progress) : Progress :=
  { progress with attempts := attempt :: progress.attempts }

namespace Dialect

/--
Splits lines, of which the first has the given number, up to the last one or the
first failure.
-/
def progress (dialect : Dialect) (join : Bool) :
    Option Group → Nat → List Text → Progress
  | pending, _, [] => ⟨[], pending⟩
  | pending, number, line :: rest =>
      let group := Group.extend pending number (Text.trimNewlines line)
      let attempt := dialect.attempt join group number
      match attempt.verdict with
      | .words _ => (dialect.progress join none (number + 1) rest).cons attempt
      | .continued =>
          (dialect.progress join (some group) (number + 1) rest).cons attempt
      | .failed _ => ⟨[attempt], none⟩

/--
The attempts at a whole document.  A group that still waits at its end is split
once more, now without hope of a next line.
-/
def attempts (dialect : Dialect) (join : Bool) (lines : List Text) : List Attempt :=
  let progress := dialect.progress join none 1 lines
  progress.attempts ++
    match progress.pending with
    | some group => [dialect.attempt false group lines.length]
    | none => []

end Dialect

namespace Attempt

/-- The words of the group with the number of its first line, if there are any. -/
def yield? (attempt : Attempt) : Option (Nat × List Text) :=
  match attempt.verdict with
  | .words [] => none
  | .words words => some (attempt.group.start, words)
  | _ => none

def failure? (attempt : Attempt) : Option Failure :=
  match attempt.verdict with
  | .failed failure => some failure
  | _ => none

end Attempt

/-- The words of a document, line by line, and the failure that ended it, if any. -/
structure Document where
  /-- The words of every group that has any, with the number of its first line. -/
  yields : List (Nat × List Text)
  failure : Option Failure
  deriving DecidableEq, Repr

def Document.ofAttempts (attempts : List Attempt) : Document :=
  { yields := attempts.filterMap Attempt.yield?
    failure := attempts.findSome? Attempt.failure? }

def Dialect.document (dialect : Dialect) (join : Bool) (lines : List Text) : Document :=
  .ofAttempts (dialect.attempts join lines)

end QuotedWords
