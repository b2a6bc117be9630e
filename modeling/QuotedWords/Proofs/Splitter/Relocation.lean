import QuotedWords.Proofs.Grammar.Recognition

/-!
# Reading further on

A splitter that has completed some words and starts on the next text does what
a fresh splitter does with that text: it adds the same words to those it has, it
fails in the same way, and all its positions are moved by the position at which
the text starts.
-/

namespace QuotedWords

/-!
# Moving positions
-/

/--
The position in a whole text of a position in a part of it that starts at the
origin.  Columns are moved on the first line of the part only.
-/
def Position.shift (position origin : Position) : Position where
  line := origin.line + position.line - 1
  column :=
    if position.line = 1 then origin.column + position.column - 1 else position.column
  offset := origin.offset + position.offset

theorem Position.start_shift (origin : Position) : start.shift origin = origin := by
  simp [shift, start]

theorem Position.after_shift {position : Position}
    (positive : 1 ≤ position.line) (origin : Position) (c : Char) :
    (position.after c).shift origin = (position.shift origin).after c := by
  unfold after
  by_cases newline : c = '\n'
  · have below : position.line + 1 ≠ 1 := by omega
    simp only [newline, if_true, shift, below, if_false, mk.injEq, true_and]
    omega
  · simp only [newline, if_false, shift, mk.injEq, true_and]
    constructor
    · split <;> omega
    · omega

theorem Position.after_line_positive {position : Position}
    (positive : 1 ≤ position.line) (c : Char) :
    1 ≤ (position.after c).line := by
  unfold after
  split
  · change 1 ≤ position.line + 1
    omega
  · exact positive

def OpenQuote.shift (origin : Position) (quote : OpenQuote) : OpenQuote :=
  { quote with start := quote.start.shift origin }

def Context.shift (origin : Position) : Context → Context
  | .bare => .bare
  | .quoted quote => .quoted (quote.shift origin)

def State.shift (origin : Position) : State → State
  | .within context => .within (context.shift origin)
  | .escaping resume leader => .escaping (resume.shift origin) (leader.shift origin)

def Action.shift (origin : Position) : Action → Action
  | .separate => .separate
  | .openQuote quote => .openQuote (quote.shift origin)
  | .closeQuote => .closeQuote
  | .lead resume leader => .lead (resume.shift origin) (leader.shift origin)
  | .keep c => .keep c
  | .replace c resume => .replace c (resume.shift origin)
  | .reject c leader => .reject c (leader.shift origin)

theorem Context.leads_shift_iff {dialect : Dialect} {context : Context} {c : Char}
    (origin : Position) :
    (context.shift origin).Leads dialect c ↔ context.Leads dialect c := by
  cases context <;> rfl

theorem Context.plain_shift_iff {dialect : Dialect} {context : Context} {c : Char}
    (origin : Position) :
    (context.shift origin).Plain dialect c ↔ context.Plain dialect c := by
  cases context <;> rfl

theorem Means.shift {dialect : Dialect} {c : Char} {position : Position} {state : State}
    {action : Action}
    (means : Means dialect c position state action) (origin : Position) :
    Means dialect c (position.shift origin) (state.shift origin) (action.shift origin) := by
  cases means with
  | separate blank => exact .separate blank
  | openQuote notBlank opens => exact .openQuote notBlank opens
  | closeQuote closes => exact .closeQuote closes
  | lead leads => exact .lead ((Context.leads_shift_iff origin).mpr leads)
  | keep plain => exact .keep ((Context.plain_shift_iff origin).mpr plain)
  | replace resolves => exact .replace resolves
  | reject unresolved => exact .reject unresolved

/-!
# Splitters that go on
-/

/-- The failure is the same one, further on. -/
structure Failure.Resumes (origin : Position) (alone resumed : Failure) : Prop where
  fault_eq : resumed.fault = alone.fault
  position_eq : resumed.position = alone.position.shift origin

namespace Splitter

/-- A splitter with earlier words is otherwise as one that started at the origin. -/
structure Resumes (earlier : List Text) (origin : Position) (alone resumed : Splitter) :
    Prop where
  words_eq : resumed.words.toList = earlier ++ alone.words.toList
  buffer_eq : resumed.buffer = alone.buffer
  started_eq : resumed.started = alone.started
  state_eq : resumed.state = alone.state.shift origin
  next_eq : resumed.window.next = alone.window.next.shift origin
  line_positive : 1 ≤ alone.window.next.line

variable {dialect : Dialect} {earlier words : List Text} {origin : Position}
  {alone resumed splitter : Splitter} {current : Option Text} {state : State}

/-- A splitter between two words goes on as a fresh one. -/
theorem Holds.resumes (held : splitter.Holds earlier none (.within .bare)) :
    Resumes earlier splitter.window.next fresh splitter where
  words_eq := by simpa [fresh] using held.words_eq
  buffer_eq := Array.toList_inj.mp held.buffer_eq
  started_eq := held.started_eq
  state_eq := held.state_eq
  next_eq := (Position.start_shift splitter.window.next).symm
  line_positive := Int.le_refl 1

namespace Resumes

theorem advance (related : Resumes earlier origin alone resumed) (c : Char) :
    Resumes earlier origin (alone.advance c) (resumed.advance c) where
  words_eq := related.words_eq
  buffer_eq := related.buffer_eq
  started_eq := related.started_eq
  state_eq := related.state_eq
  next_eq := by
    simp only [Splitter.advance, push_next, related.next_eq]
    exact (Position.after_shift related.line_positive origin c).symm
  line_positive := by
    simp only [Splitter.advance, push_next]
    exact Position.after_line_positive related.line_positive c

theorem separate (related : Resumes earlier origin alone resumed) :
    Resumes earlier origin alone.separate resumed.separate := by
  unfold Splitter.separate
  rw [related.started_eq]
  split
  · exact
      { related with
        words_eq := by simp [flush, related.words_eq, related.buffer_eq]
        buffer_eq := rfl
        started_eq := rfl }
  · exact related

theorem perform (related : Resumes earlier origin alone resumed) (action : Action) :
    Resumes earlier origin (alone.perform action).1
        (resumed.perform (action.shift origin)).1 ∧
      Option.Rel (Failure.Resumes origin) (alone.perform action).2
        (resumed.perform (action.shift origin)).2 := by
  cases action with
  | separate => exact ⟨related.separate, .none⟩
  | openQuote quote =>
      exact ⟨{ related with state_eq := rfl, started_eq := rfl }, .none⟩
  | closeQuote => exact ⟨{ related with state_eq := rfl }, .none⟩
  | lead resume leader => exact ⟨{ related with state_eq := rfl }, .none⟩
  | keep c =>
      exact ⟨{ related with
        buffer_eq := by simp [Splitter.perform, Action.shift, emit, related.buffer_eq]
        started_eq := rfl }, .none⟩
  | replace c resume =>
      exact ⟨{ related with
        buffer_eq := by simp [Splitter.perform, Action.shift, emit, related.buffer_eq]
        started_eq := rfl
        state_eq := rfl }, .none⟩
  | reject c leader => exact ⟨{ related with }, .some ⟨rfl, rfl⟩⟩

theorem step (related : Resumes earlier origin alone resumed) (dialect : Dialect)
    (c : Char) :
    Resumes earlier origin (alone.step dialect c).1 (resumed.step dialect c).1 ∧
      Option.Rel (Failure.Resumes origin) (alone.step dialect c).2
        (resumed.step dialect c).2 := by
  have means := Means.of_action dialect c alone.window.next alone.state
  have moved := means.shift origin
  rw [← related.state_eq, ← related.next_eq] at moved
  rw [step_eq_perform means, step_eq_perform moved]
  exact (related.advance c).perform _

theorem read (related : Resumes earlier origin alone resumed) (dialect : Dialect)
    (text : Text) :
    Resumes earlier origin (alone.read dialect text).1 (resumed.read dialect text).1 ∧
      Option.Rel (Failure.Resumes origin) (alone.read dialect text).2
        (resumed.read dialect text).2 := by
  induction text generalizing alone resumed with
  | nil => exact ⟨related, .none⟩
  | cons c rest ih =>
      rcases related.step dialect c with ⟨kept, alike⟩
      rw [read_cons, read_cons]
      cases steps : alone.step dialect c with
      | mk alone' failure =>
          cases moves : resumed.step dialect c with
          | mk resumed' failure' =>
              rw [steps, moves] at kept alike
              cases alike with
              | none => exact ih kept
              | some same => exact ⟨kept, .some same⟩

theorem read_eq_none {text : Text} {next : Splitter}
    (related : Resumes earlier origin alone resumed)
    (reads : alone.read dialect text = (next, none)) :
    ∃ moved, resumed.read dialect text = (moved, none) ∧
      Resumes earlier origin next moved := by
  rcases related.read dialect text with ⟨kept, alike⟩
  rw [reads] at kept alike
  cases moves : resumed.read dialect text with
  | mk moved failure =>
      rw [moves] at kept alike
      cases alike with
      | none => exact ⟨moved, rfl, kept⟩

theorem read_eq_some {text : Text} {next : Splitter} {failure : Failure}
    (related : Resumes earlier origin alone resumed)
    (fails : alone.read dialect text = (next, some failure)) :
    ∃ moved further, resumed.read dialect text = (moved, some further) ∧
      Failure.Resumes origin failure further := by
  rcases related.read dialect text with ⟨kept, alike⟩
  rw [fails] at alike
  cases moves : resumed.read dialect text with
  | mk moved stop =>
      rw [moves] at alike
      cases alike with
      | some same => exact ⟨moved, _, rfl, same⟩

theorem holds (related : Resumes earlier origin alone resumed)
    (held : alone.Holds words current state) :
    resumed.Holds (earlier ++ words) current (state.shift origin) := by
  constructor
  · rw [related.words_eq, held.words_eq]
  · rw [related.started_eq, held.started_eq]
  · rw [related.buffer_eq, held.buffer_eq]
  · rw [related.state_eq, held.state_eq]

theorem readsTo {text : Text}
    (related : Resumes earlier origin alone resumed)
    (reads : alone.ReadsTo dialect text words current state) :
    resumed.ReadsTo dialect text (earlier ++ words) current (state.shift origin) := by
  rcases reads with ⟨next, reads, held⟩
  rcases related.read_eq_none reads with ⟨moved, continues, kept⟩
  exact ⟨moved, continues, kept.holds held⟩

theorem conclude_error {failure : Failure}
    (related : Resumes earlier origin alone resumed)
    (fails : alone.conclude.2 = .error failure) :
    ∃ further, resumed.conclude.2 = .error further ∧
      Failure.Resumes origin failure further := by
  have moved := related.state_eq
  cases state : alone.state with
  | within context =>
      rw [state] at moved
      cases context with
      | bare =>
          unfold conclude at fails
          simp [state] at fails
      | quoted quote =>
          cases (conclude_quoted state).symm.trans fails
          exact ⟨_, conclude_quoted moved, rfl, rfl⟩
  | escaping resume leader =>
      rw [state] at moved
      cases (conclude_escaping state).symm.trans fails
      exact ⟨_, conclude_escaping moved, rfl, rfl⟩

theorem wordsOf_error {text : Text} {failure : Failure}
    (related : Resumes earlier origin alone resumed)
    (fails : alone.wordsOf dialect text = .error failure) :
    ∃ further, resumed.wordsOf dialect text = .error further ∧
      Failure.Resumes origin failure further := by
  cases reading : alone.read dialect text with
  | mk next stop =>
      cases stop with
      | none =>
          rw [wordsOf_of_read reading] at fails
          rcases related.read_eq_none reading with ⟨moved, continues, kept⟩
          rw [wordsOf_of_read continues]
          exact kept.conclude_error fails
      | some stop =>
          rw [wordsOf_of_failed reading] at fails
          cases fails
          rcases related.read_eq_some reading with ⟨moved, further, continues, same⟩
          rw [wordsOf_of_failed continues]
          exact ⟨further, rfl, same⟩

end Resumes
end Splitter
end QuotedWords
