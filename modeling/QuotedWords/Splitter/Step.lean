import QuotedWords.Text.Blank
import QuotedWords.Splitter.Basic

/-!
# Reading one character

What a character means depends on the dialect, the state and the character
alone; that decision is an `Action`.  Carrying an action out is the same in
every dialect.
-/

namespace QuotedWords

/-- What a character means to a splitter. -/
inductive Action where
  | separate
  | openQuote (quote : OpenQuote)
  /-- It closes the quotation; the word goes on. -/
  | closeQuote
  /-- It leads an escape, after which the context is resumed. -/
  | lead (resume : Context) (leader : Position)
  | keep (c : Char)
  | replace (c : Char) (resume : Context)
  /-- It is escaped and stands for nothing; the escape was led from here. -/
  | reject (c : Char) (leader : Position)
  deriving DecidableEq, Repr

namespace State

/-- Whether the next character stands outside of quotations and escapes. -/
def isBare : State → Bool
  | .within .bare => true
  | _ => false

/-- What a character means in a dialect and a state, at the position it is read at. -/
def action (state : State) (dialect : Dialect) (c : Char) (position : Position) :
    Action :=
  match state with
  | .within .bare =>
      if Text.isBlank c then .separate
      else match dialect.quotes.get? c with
        | some rule => .openQuote ⟨rule.close, rule.mode, c, position⟩
        | none =>
            if dialect.isLeader c then .lead .bare position else .keep c
  | .within (.quoted quote) =>
      if c = quote.close then .closeQuote
      else if quote.mode = .parseEscapes ∧ dialect.isLeader c then
        .lead (.quoted quote) position
      else .keep c
  | .escaping resume leader =>
      match dialect.resolve c with
      | some replacement => .replace replacement resume
      | none => .reject c leader

end State

namespace Window

/--
Takes a character into the window.  A newline outside of quotations and escapes
ends everything a failure could name, so there the window starts anew.
-/
def push (window : Window) (c : Char) (bare : Bool) : Window :=
  let next := window.next.after c
  if c = '\n' ∧ bare then { text := #[], firstLine := next.line, next }
  else { window with text := window.text.push c, next }

end Window

namespace Splitter

def advance (splitter : Splitter) (c : Char) : Splitter :=
  { splitter with window := splitter.window.push c splitter.state.isBare }

def perform (splitter : Splitter) : Action → Splitter × Option Failure
  | .separate => (splitter.separate, none)
  | .openQuote quote =>
      ({ splitter with state := .within (.quoted quote), started := true }, none)
  | .closeQuote => ({ splitter with state := .within .bare }, none)
  | .lead resume leader => ({ splitter with state := .escaping resume leader }, none)
  | .keep c => (splitter.emit c, none)
  | .replace c resume => ({ splitter.emit c with state := .within resume }, none)
  | .reject c leader =>
      let failed := splitter.fail (.unrecognizedEscape [c]) leader
      (failed.1, some failed.2)

/-- Reads one character, without asking whether the splitter still takes any. -/
def step (dialect : Dialect) (splitter : Splitter) (c : Char) :
    Splitter × Option Failure :=
  let action := splitter.state.action dialect c splitter.window.next
  (splitter.advance c).perform action

/-- Reads a text up to its end or the first failure. -/
def read (dialect : Dialect) : Splitter → Text → Splitter × Option Failure
  | splitter, [] => (splitter, none)
  | splitter, c :: rest =>
      match splitter.step dialect c with
      | (next, none) => read dialect next rest
      | (next, some failure) => (next, some failure)

@[simp] theorem read_nil (dialect : Dialect) (splitter : Splitter) :
    splitter.read dialect [] = (splitter, none) :=
  rfl

theorem read_cons (dialect : Dialect) (splitter : Splitter) (c : Char) (rest : Text) :
    splitter.read dialect (c :: rest) =
      match splitter.step dialect c with
      | (next, none) => next.read dialect rest
      | (next, some failure) => (next, some failure) :=
  rfl

theorem read_append
    (dialect : Dialect) (splitter : Splitter) (first second : Text) :
    splitter.read dialect (first ++ second) =
      match splitter.read dialect first with
      | (next, none) => next.read dialect second
      | (next, some failure) => (next, some failure) := by
  induction first generalizing splitter with
  | nil => rfl
  | cons c rest ih =>
      rw [List.cons_append, read_cons, read_cons]
      cases splitter.step dialect c with
      | mk next failure =>
          cases failure with
          | none => exact ih next
          | some failure => rfl

/-- Ends the input: the words, or what is left open. -/
def conclude (splitter : Splitter) : Splitter × Except Failure (List Text) :=
  match splitter.state with
  | .within (.quoted quote) =>
      let failed := splitter.fail (.unterminatedQuote [quote.opener]) quote.start
      (failed.1, .error failed.2)
  | .escaping _ leader =>
      let failed := splitter.fail .danglingEscape leader
      (failed.1, .error failed.2)
  | .within .bare =>
      let done := { splitter with closed := true }.separate
      (done, .ok done.words.toList)

end Splitter
end QuotedWords
