import QuotedWords.Line
import QuotedWords.Proofs.Splitter.Meaning

/-!
# What a splitter holds, and reading in stretches

A splitter holds its words, its current word, if there is one, and its state;
the rest of it serves the reports.  This module says what every action does to
what a splitter holds, and how a reading is composed of readings of stretches.
-/

namespace QuotedWords
namespace Splitter

/-!
# What a splitter holds
-/

/-- What a splitter holds; only a current word has characters in the buffer. -/
structure Holds (splitter : Splitter) (words : List Text) (current : Option Text)
    (state : State) : Prop where
  words_eq : splitter.words.toList = words
  started_eq : splitter.started = current.isSome
  buffer_eq : splitter.buffer.toList = current.getD []
  state_eq : splitter.state = state

variable {splitter next : Splitter} {words : List Text} {current : Option Text}
  {state : State}

theorem fresh_holds : fresh.Holds [] none (.within .bare) :=
  ⟨rfl, rfl, rfl, rfl⟩

namespace Holds

theorem advance (held : splitter.Holds words current state) (c : Char) :
    (splitter.advance c).Holds words current state :=
  ⟨held.words_eq, held.started_eq, held.buffer_eq, held.state_eq⟩

theorem separate (held : splitter.Holds words current state) :
    splitter.separate.Holds (words ++ current.toList) none state := by
  unfold Splitter.separate
  cases current with
  | none =>
      have idle : splitter.started = false := held.started_eq
      rw [idle]
      constructor
      · simpa using held.words_eq
      · exact idle
      · exact held.buffer_eq
      · exact held.state_eq
  | some word =>
      have busy : splitter.started = true := held.started_eq
      have buffered : splitter.buffer.toList = word := held.buffer_eq
      rw [if_pos busy]
      constructor
      · simp [flush, held.words_eq, buffered]
      · rfl
      · rfl
      · exact held.state_eq

theorem emit (held : splitter.Holds words current state) (c : Char) :
    (splitter.emit c).Holds words (some (current.getD [] ++ [c])) state := by
  constructor
  · exact held.words_eq
  · rfl
  · simp [Splitter.emit, held.buffer_eq]
  · exact held.state_eq

theorem openQuote (held : splitter.Holds words current state) (quote : OpenQuote) :
    (splitter.perform (.openQuote quote)).1.Holds words (some (current.getD []))
      (.within (.quoted quote)) :=
  ⟨held.words_eq, rfl, held.buffer_eq, rfl⟩

theorem withState (held : splitter.Holds words current state) (other : State) :
    { splitter with state := other }.Holds words current other :=
  ⟨held.words_eq, held.started_eq, held.buffer_eq, rfl⟩

theorem conclude_bare (held : splitter.Holds words current (.within .bare)) :
    splitter.conclude.2 = .ok (words ++ current.toList) := by
  have closing : { splitter with closed := true }.Holds words current (.within .bare) :=
    ⟨held.words_eq, held.started_eq, held.buffer_eq, held.state_eq⟩
  unfold conclude
  split
  next quote quoted => cases held.state_eq.symm.trans quoted
  next resume leader escaping => cases held.state_eq.symm.trans escaping
  next => simpa using closing.separate.words_eq

end Holds

theorem conclude_quoted {quote : OpenQuote}
    (quoted : splitter.state = .within (.quoted quote)) :
    splitter.conclude.2 =
      .error (splitter.failure (.unterminatedQuote [quote.opener]) quote.start) := by
  unfold conclude
  rw [quoted]
  rfl

theorem conclude_escaping {resume : Context} {leader : Position}
    (escaping : splitter.state = .escaping resume leader) :
    splitter.conclude.2 = .error (splitter.failure .danglingEscape leader) := by
  unfold conclude
  rw [escaping]
  rfl

theorem state_of_conclude_eq_ok {found : List Text}
    (concludes : splitter.conclude.2 = .ok found) :
    splitter.state = .within .bare := by
  cases state : splitter.state with
  | within context =>
      cases context with
      | bare => rfl
      | quoted quote =>
          rw [conclude_quoted state] at concludes
          cases concludes
  | escaping resume leader =>
      rw [conclude_escaping state] at concludes
      cases concludes

/-!
# Steps
-/

variable {dialect : Dialect}

theorem step_window (dialect : Dialect) (splitter : Splitter) (c : Char) :
    (splitter.step dialect c).1.window = splitter.window.push c splitter.state.isBare := by
  unfold step
  cases splitter.state.action dialect c splitter.window.next with
  | separate =>
      unfold perform separate
      split <;> rfl
  | openQuote quote => rfl
  | closeQuote => rfl
  | lead resume leader => rfl
  | keep c => rfl
  | replace c resume => rfl
  | reject c leader => rfl

theorem push_next (window : Window) (c : Char) (bare : Bool) :
    (window.push c bare).next = window.next.after c := by
  unfold Window.push
  split <;> rfl

theorem step_next (dialect : Dialect) (splitter : Splitter) (c : Char) :
    (splitter.step dialect c).1.window.next = splitter.window.next.after c := by
  rw [step_window, push_next]

/-- What a character, read at a position, does to what is held. -/
inductive Moves (dialect : Dialect) (c : Char) (position : Position) :
    List Text → Option Text → State → List Text → Option Text → State → Prop where
  | blank {words : List Text} {current : Option Text}
      (blank : Text.isBlank c = true) :
      Moves dialect c position words current (.within .bare)
        (words ++ current.toList) none (.within .bare)
  | opener {words : List Text} {current : Option Text} {rule : QuoteRule}
      (notBlank : Text.isBlank c = false)
      (opens : dialect.quotes.get? c = some rule) :
      Moves dialect c position words current (.within .bare)
        words (some (current.getD []))
        (.within (.quoted ⟨rule.close, rule.mode, c, position⟩))
  | closer {words : List Text} {current : Option Text} {quote : OpenQuote}
      (closes : c = quote.close) :
      Moves dialect c position words current (.within (.quoted quote))
        words current (.within .bare)
  | leader {words : List Text} {current : Option Text} {context : Context}
      (leads : context.Leads dialect c) :
      Moves dialect c position words current (.within context)
        words current (.escaping context position)
  | plain {words : List Text} {current : Option Text} {context : Context}
      (plain : context.Plain dialect c) :
      Moves dialect c position words current (.within context)
        words (some (current.getD [] ++ [c])) (.within context)
  | escaped {words : List Text} {current : Option Text} {resume : Context}
      {leader : Position} {replacement : Char}
      (resolves : dialect.resolve c = some replacement) :
      Moves dialect c position words current (.escaping resume leader)
        words (some (current.getD [] ++ [replacement])) (.within resume)

section Step

variable {c : Char} {more : List Text} {further : Option Text} {after : State}

theorem Holds.step
    (held : splitter.Holds words current state) (dialect : Dialect) (c : Char)
    (moves : Moves dialect c splitter.window.next words current state more further after) :
    ∃ stepped, splitter.step dialect c = (stepped, none) ∧
      stepped.Holds more further after := by
  have taken {action : Action}
      (means : Means dialect c splitter.window.next state action) :
      splitter.step dialect c = (splitter.advance c).perform action := by
    rw [← held.state_eq] at means
    exact step_eq_perform means
  have advanced := held.advance c
  cases moves with
  | blank blank => exact ⟨_, taken (.separate blank), advanced.separate⟩
  | opener notBlank opens =>
      exact ⟨_, taken (.openQuote notBlank opens), advanced.openQuote _⟩
  | closer closes => exact ⟨_, taken (.closeQuote closes), advanced.withState _⟩
  | leader leads => exact ⟨_, taken (.lead leads), advanced.withState _⟩
  | plain plain => exact ⟨_, taken (.keep plain), advanced.emit c⟩
  | @escaped _ _ replacement resolves =>
      exact ⟨_, taken (.replace resolves), (advanced.emit replacement).withState _⟩

theorem Holds.exists_moves
    (held : splitter.Holds words current state)
    (steps : splitter.step dialect c = (next, none)) :
    ∃ more further after, next.Holds more further after ∧
      Moves dialect c splitter.window.next words current state more further after := by
  have made {more : List Text} {further : Option Text} {after : State}
      (moves : Moves dialect c splitter.window.next words current state
        more further after) :
      ∃ more further after, next.Holds more further after ∧
        Moves dialect c splitter.window.next words current state
          more further after := by
    rcases held.step dialect c moves with ⟨stepped, same, holds⟩
    cases steps.symm.trans same
    exact ⟨more, further, after, holds, moves⟩
  have means := Means.of_action dialect c splitter.window.next splitter.state
  have performs := step_eq_perform means
  generalize splitter.state.action dialect c splitter.window.next = action at means performs
  rw [held.state_eq] at means
  cases means with
  | separate blank => exact made (.blank blank)
  | openQuote notBlank opens => exact made (.opener notBlank opens)
  | closeQuote closes => exact made (.closer closes)
  | lead leads => exact made (.leader leads)
  | keep plain => exact made (.plain plain)
  | replace resolves => exact made (.escaped resolves)
  | reject unresolved => cases steps.symm.trans performs

end Step

theorem step_failed_iff {c : Char} {failure : Failure} :
    splitter.step dialect c = (next, some failure) ↔
      ∃ resume leader, splitter.state = .escaping resume leader ∧
        dialect.resolve c = none ∧
        (splitter.advance c).fail (.unrecognizedEscape [c]) leader = (next, failure) := by
  constructor
  · intro fails
    have means := Means.of_action dialect c splitter.window.next splitter.state
    rw [step_eq_perform means] at fails
    generalize splitter.state.action dialect c splitter.window.next = action at means fails
    generalize splitter.state = state at means
    cases means with
    | @reject resume leader unresolved =>
        refine ⟨resume, leader, rfl, unresolved, ?_⟩
        simpa [perform, Prod.ext_iff] using fails
    | _ => cases fails
  · rintro ⟨resume, leader, escaping, unresolved, failed⟩
    have means : Means dialect c splitter.window.next splitter.state (.reject c leader) := by
      rw [escaping]
      exact .reject unresolved
    rw [step_eq_perform means]
    simp [perform, failed]

/-!
# Reading in stretches
-/

theorem read_append_of_read {first : Text} (second : Text)
    (reads : splitter.read dialect first = (next, none)) :
    splitter.read dialect (first ++ second) = next.read dialect second := by
  rw [read_append, reads]

theorem read_append_of_failed {first : Text} {failure : Failure} (second : Text)
    (fails : splitter.read dialect first = (next, some failure)) :
    splitter.read dialect (first ++ second) = (next, some failure) := by
  rw [read_append, fails]

theorem read_singleton (dialect : Dialect) (splitter : Splitter) (c : Char) :
    splitter.read dialect [c] = splitter.step dialect c := by
  rw [read_cons]
  cases splitter.step dialect c with
  | mk stepped failure => cases failure <;> rfl

theorem read_of_read_append {first second : Text}
    (reads : splitter.read dialect (first ++ second) = (next, none)) :
    ∃ middle, splitter.read dialect first = (middle, none) ∧
      middle.read dialect second = (next, none) := by
  rw [read_append] at reads
  cases front : splitter.read dialect first with
  | mk middle failure =>
      rw [front] at reads
      cases failure with
      | none => exact ⟨middle, rfl, reads⟩
      | some failure => cases reads

theorem read_next {text : Text}
    (reads : splitter.read dialect text = (next, none)) :
    next.window.next = splitter.window.next.afterText text := by
  induction text generalizing splitter with
  | nil =>
      cases reads
      rfl
  | cons c rest ih =>
      change splitter.read dialect ([c] ++ rest) = (next, none) at reads
      rcases read_of_read_append reads with ⟨middle, stepped, tail⟩
      rw [read_singleton] at stepped
      rw [ih tail, Position.afterText_cons, ← step_next dialect, stepped]

/-- What holds at the start of a reading and is kept by every step holds at its end. -/
theorem read_invariant (Invariant : Text → Splitter → Prop) (front : Text) {text : Text}
    (kept : ∀ front current c stepped, Invariant front current →
      current.step dialect c = (stepped, none) → Invariant (front ++ [c]) stepped)
    (initially : Invariant front splitter)
    (reads : splitter.read dialect text = (next, none)) :
    Invariant (front ++ text) next := by
  induction text generalizing front splitter with
  | nil =>
      cases reads
      simpa using initially
  | cons c rest ih =>
      rw [read_cons] at reads
      cases stepped : splitter.step dialect c with
      | mk middle failure =>
          rw [stepped] at reads
          cases failure with
          | none =>
              have carried := kept front splitter c middle initially stepped
              simpa using ih (front ++ [c]) carried reads
          | some failure => cases reads

/-- A reading that fails does so at one character, all before it having been read. -/
theorem exists_step_of_read_failed {text : Text} {failure : Failure}
    (fails : splitter.read dialect text = (next, some failure)) :
    ∃ front c rest middle, text = front ++ c :: rest ∧
      splitter.read dialect front = (middle, none) ∧
      middle.step dialect c = (next, some failure) := by
  induction text generalizing splitter with
  | nil => cases fails
  | cons c rest ih =>
      rw [read_cons] at fails
      cases stepped : splitter.step dialect c with
      | mk middle stop =>
          rw [stepped] at fails
          cases stop with
          | none =>
              rcases ih fails with ⟨front, other, tail, reached, rfl, reads, failed⟩
              refine ⟨c :: front, other, tail, reached, rfl, ?_, failed⟩
              rw [read_cons, stepped]
              exact reads
          | some stop =>
              cases fails
              exact ⟨[], c, rest, splitter, rfl, rfl, stepped⟩

/-!
# The words of a text, from any splitter
-/

/-- The words that a splitter comes to with a text and the end of the input. -/
def wordsOf (dialect : Dialect) (splitter : Splitter) (text : Text) :
    Except Failure (List Text) :=
  match splitter.read dialect text with
  | (next, none) => next.conclude.2
  | (_, some failure) => .error failure

theorem wordsOf_of_read {text : Text}
    (reads : splitter.read dialect text = (next, none)) :
    splitter.wordsOf dialect text = next.conclude.2 := by
  simp [wordsOf, reads]

theorem wordsOf_of_failed {text : Text} {failure : Failure}
    (fails : splitter.read dialect text = (next, some failure)) :
    splitter.wordsOf dialect text = .error failure := by
  simp [wordsOf, fails]

theorem wordsOf_append_of_read {first : Text} (second : Text)
    (reads : splitter.read dialect first = (next, none)) :
    splitter.wordsOf dialect (first ++ second) = next.wordsOf dialect second := by
  simp [wordsOf, read_append_of_read second reads]

end Splitter

theorem Dialect.words_eq_wordsOf (dialect : Dialect) (text : Text) :
    dialect.words text = Splitter.fresh.wordsOf dialect text := by
  unfold words reading Splitter.wordsOf
  split <;> simp_all

end QuotedWords
