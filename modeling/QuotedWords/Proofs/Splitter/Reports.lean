import QuotedWords.Proofs.Splitter.Reading

/-!
# What a splitter reports

A splitter reports every word that it completes, when it completes it, and nothing
else until it fails.  So its reports are at any time those of its words, numbered
from zero, and a failure is reported once, after all of them.
-/

namespace QuotedWords

/-- The reports of completed words. -/
def Event.ofWords (words : List Text) : List Event :=
  words.mapIdx .word

theorem Event.ofWords_append_singleton (words : List Text) (word : Text) :
    ofWords (words ++ [word]) = ofWords words ++ [.word words.length word] :=
  List.mapIdx_concat

namespace Splitter

variable {dialect : Dialect} {splitter next : Splitter} {text : Text} {failure : Failure}

/-- The splitter has reported its words, and no more. -/
def Reported (splitter : Splitter) : Prop :=
  splitter.log.toList = Event.ofWords splitter.words.toList

theorem Reported.separate (reported : splitter.Reported) : splitter.separate.Reported := by
  unfold Splitter.separate
  split
  next =>
    show (splitter.log.push _).toList = Event.ofWords (splitter.words.push _).toList
    rw [Array.toList_push, Array.toList_push, Event.ofWords_append_singleton, reported,
      Array.length_toList]
  next => exact reported

theorem Reported.step {c : Char}
    (reported : splitter.Reported)
    (steps : splitter.step dialect c = (next, none)) :
    next.Reported := by
  have advanced : (splitter.advance c).Reported := reported
  unfold Splitter.step at steps
  generalize splitter.state.action dialect c splitter.window.next = action at steps
  cases action with
  | separate =>
      cases steps
      exact advanced.separate
  | openQuote quote =>
      cases steps
      exact advanced
  | closeQuote =>
      cases steps
      exact advanced
  | lead resume leader =>
      cases steps
      exact advanced
  | keep c =>
      cases steps
      exact advanced
  | replace c resume =>
      cases steps
      exact advanced
  | reject c leader => cases steps

theorem Reported.read
    (reported : splitter.Reported)
    (reads : splitter.read dialect text = (next, none)) :
    next.Reported := by
  refine read_invariant (fun _ current => current.Reported) [] ?_ reported reads
  intro _ current c stepped holds steps
  exact holds.step steps

/-- The splitter has reported its words and, after them, the failure. -/
def ReportedFailure (splitter : Splitter) (failure : Failure) : Prop :=
  splitter.log.toList = Event.ofWords splitter.words.toList ++
    [.failed failure.position failure.message]

theorem Reported.fail (reported : splitter.Reported) (fault : Fault) (position : Position) :
    (splitter.fail fault position).1.ReportedFailure (splitter.fail fault position).2 := by
  show (splitter.log.push _).toList = _
  rw [Array.toList_push, reported]
  rfl

end Splitter

/-!
# What is reported of a text
-/

namespace Dialect

variable {dialect : Dialect} {text : Text}

/-- The words that are completed inside of a text, without its end. -/
def completed (dialect : Dialect) (text : Text) : List Text :=
  (Splitter.fresh.read dialect text).1.words.toList

end Dialect
end QuotedWords
