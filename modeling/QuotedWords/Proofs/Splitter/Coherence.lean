import QuotedWords.Proofs.Splitter.Transcript

/-!
# The states that a session can reach

An open quotation was opened by a character that opens it in the dialect, an
escape was led by the leader, and there are no characters without a current
word.  Every step keeps this, and so do failures and the end of the input, so it
holds whatever is called.  The words that are complete stay as they are.
-/

namespace QuotedWords

/-- Where the next character stands, or the one after the escaped one. -/
def State.context : State → Context
  | .within context => context
  | .escaping resume _ => resume

namespace Splitter

variable {dialect : Dialect} {splitter : Splitter}

/-- What the state, the buffer and the current word have to do with one another. -/
structure Coherent (dialect : Dialect) (splitter : Splitter) : Prop where
  quoted : ∀ quote, splitter.state.context = .quoted quote →
    Text.isBlank quote.opener = false ∧
      dialect.quotes.get? quote.opener = some ⟨quote.close, quote.mode⟩ ∧
      splitter.started = true
  escaping_bare : ∀ leader, splitter.state = .escaping .bare leader →
    ∃ c, dialect.leader = some c ∧ Text.isBlank c = false ∧ dialect.quotes.get? c = none
  escaping_quoted : ∀ quote leader, splitter.state = .escaping (.quoted quote) leader →
    quote.mode = .parseEscapes ∧ ∃ c, dialect.leader = some c ∧ c ≠ quote.close
  buffered : splitter.buffer ≠ #[] → splitter.started = true

/-- There is no current word. -/
structure Idle (splitter : Splitter) : Prop where
  started_eq : splitter.started = false
  buffer_eq : splitter.buffer = #[]

/-!
# Coherence is kept
-/

theorem coherent_of_bare
    (bare : splitter.state = .within .bare)
    (buffered : splitter.buffer ≠ #[] → splitter.started = true) :
    splitter.Coherent dialect := by
  constructor
  · intro quote quoted
    rw [bare] at quoted
    cases quoted
  · intro leader escaping
    cases bare.symm.trans escaping
  · intro quote leader escaping
    cases bare.symm.trans escaping
  · exact buffered

theorem fresh_coherent (dialect : Dialect) : fresh.Coherent dialect :=
  coherent_of_bare rfl fun filled => absurd rfl filled

theorem separate_idle (buffered : splitter.buffer ≠ #[] → splitter.started = true) :
    splitter.separate.Idle := by
  unfold separate
  split
  next => exact ⟨rfl, rfl⟩
  next idle =>
    constructor
    · rw [Bool.not_eq_true] at idle
      exact idle
    · exact Classical.not_not.mp fun filled => idle (buffered filled)

theorem coherent_of_idle (bare : splitter.state = .within .bare) (idle : splitter.Idle) :
    splitter.Coherent dialect :=
  coherent_of_bare bare fun filled => absurd idle.buffer_eq filled

/-- With a current word only the state matters. -/
theorem coherent_of_started {context : Context}
    (started : splitter.started = true)
    (state : splitter.state = .within context)
    (quoted : ∀ quote, context = .quoted quote →
      Text.isBlank quote.opener = false ∧
        dialect.quotes.get? quote.opener = some ⟨quote.close, quote.mode⟩) :
    splitter.Coherent dialect := by
  constructor
  · intro quote same
    rw [state] at same
    rcases quoted quote same with ⟨notBlank, opens⟩
    exact ⟨notBlank, opens, started⟩
  · intro leader escaping
    cases state.symm.trans escaping
  · intro quote leader escaping
    cases state.symm.trans escaping
  · exact fun _ => started

theorem Coherent.opens (coherent : splitter.Coherent dialect) {context : Context}
    (same : splitter.state.context = context) :
    ∀ quote, context = .quoted quote →
      Text.isBlank quote.opener = false ∧
        dialect.quotes.get? quote.opener = some ⟨quote.close, quote.mode⟩ := by
  intro quote quoted
  rcases coherent.quoted quote (same.trans quoted) with ⟨notBlank, opens, -⟩
  exact ⟨notBlank, opens⟩

theorem Coherent.lead {context : Context} {c : Char} {position : Position}
    (coherent : splitter.Coherent dialect)
    (state : splitter.state = .within context)
    (leads : context.Leads dialect c) :
    { splitter with state := .escaping context position }.Coherent dialect := by
  constructor
  · intro quote quoted
    apply coherent.quoted quote
    rw [state]
    exact quoted
  · rintro leader ⟨⟩
    exact ⟨c, leads.2.2, leads.1, leads.2.1⟩
  · rintro quote leader ⟨⟩
    exact ⟨leads.2.1, c, leads.2.2, leads.1⟩
  · exact coherent.buffered

/-- Coherence speaks of the state, the buffer and the current word alone. -/
theorem Coherent.of_eq {other : Splitter}
    (coherent : splitter.Coherent dialect)
    (state : other.state = splitter.state)
    (buffer : other.buffer = splitter.buffer)
    (started : other.started = splitter.started) :
    other.Coherent dialect := by
  constructor
  · rw [state, started]
    exact coherent.quoted
  · rw [state]
    exact coherent.escaping_bare
  · rw [state]
    exact coherent.escaping_quoted
  · rw [buffer, started]
    exact coherent.buffered

theorem Coherent.perform {c : Char} {position : Position} {action : Action}
    (coherent : splitter.Coherent dialect)
    (means : Means dialect c position splitter.state action) :
    (splitter.perform action).1.Coherent dialect := by
  generalize same : splitter.state = state at means
  -- A blank leaves no word; whatever else is done to the buffer starts one.
  cases means with
  | separate blank =>
      exact coherent_of_idle ((separate_state splitter).trans same)
        (separate_idle coherent.buffered)
  | openQuote notBlank opens =>
      refine coherent_of_started rfl rfl ?_
      rintro quote ⟨⟩
      exact ⟨notBlank, opens⟩
  | closeQuote closes => exact coherent_of_bare rfl coherent.buffered
  | lead leads => exact coherent.lead same leads
  | keep plain =>
      refine coherent_of_started rfl same ?_
      exact coherent.opens (congrArg State.context same)
  | replace resolves =>
      refine coherent_of_started rfl rfl ?_
      exact coherent.opens (congrArg State.context same)
  | reject unresolved => exact coherent.of_eq rfl rfl rfl

theorem Coherent.step (coherent : splitter.Coherent dialect) (c : Char) :
    (splitter.step dialect c).1.Coherent dialect := by
  have means := Means.of_action dialect c splitter.window.next splitter.state
  have advanced : (splitter.advance c).Coherent dialect := coherent.of_eq rfl rfl rfl
  rw [step_eq_perform means]
  exact advanced.perform means

theorem Coherent.conclude (coherent : splitter.Coherent dialect) :
    splitter.conclude.1.Coherent dialect := by
  unfold Splitter.conclude
  split
  next => exact coherent.of_eq rfl rfl rfl
  next => exact coherent.of_eq rfl rfl rfl
  next bare =>
    exact coherent_of_idle ((separate_state _).trans bare) (separate_idle coherent.buffered)

/-!
# Complete words are kept
-/

theorem words_prefix_separate (splitter : Splitter) :
    splitter.words.toList <+: splitter.separate.words.toList := by
  unfold separate
  split
  next => simp [flush]
  next => exact List.prefix_rfl

theorem words_prefix_step (dialect : Dialect) (splitter : Splitter) (c : Char) :
    splitter.words.toList <+: (splitter.step dialect c).1.words.toList := by
  unfold step
  cases splitter.state.action dialect c splitter.window.next with
  | separate => exact words_prefix_separate (splitter.advance c)
  | openQuote quote => exact List.prefix_rfl
  | closeQuote => exact List.prefix_rfl
  | lead resume leader => exact List.prefix_rfl
  | keep c => exact List.prefix_rfl
  | replace c resume => exact List.prefix_rfl
  | reject c leader => exact List.prefix_rfl

theorem words_prefix_conclude (splitter : Splitter) :
    splitter.words.toList <+: splitter.conclude.1.words.toList := by
  unfold conclude
  split
  next => exact List.prefix_rfl
  next => exact List.prefix_rfl
  next => exact words_prefix_separate { splitter with closed := true }

/-!
# What every step keeps, every call keeps
-/

section Calls

variable (Invariant : Splitter → Prop)
  (step : ∀ splitter c, splitter.closed = false → Invariant splitter →
    Invariant (splitter.step dialect c).1)

include step

theorem feedPiece_invariant (holds : Invariant splitter) (piece : Text) :
    Invariant (splitter.feedPiece dialect piece).1 := by
  unfold feedPiece
  split
  next => exact holds
  next opened =>
    rw [Bool.not_eq_true] at opened
    split
    · exact step splitter _ opened holds
    · exact holds

theorem feedPieces_invariant (holds : Invariant splitter) (pieces : List Text) :
    Invariant (splitter.feedPieces dialect pieces).1 := by
  induction pieces generalizing splitter with
  | nil => exact holds
  | cons piece rest ih =>
      have next := feedPiece_invariant Invariant step holds piece
      cases fed : splitter.feedPiece dialect piece with
      | mk reached refusal =>
          rw [fed] at next
          cases refusal with
          | none =>
              rw [feedPieces_cons_of_fed rest fed]
              exact ih next
          | some refusal =>
              rw [feedPieces_cons_of_refused rest fed]
              exact next

variable (conclude : ∀ splitter, splitter.closed = false → Invariant splitter →
  Invariant splitter.conclude.1)

include conclude

theorem call_invariant (holds : Invariant splitter) (request : Call) :
    Invariant (splitter.call dialect request).1 := by
  have fed (pieces : List Text) :
      Invariant (call.fed (splitter.feedPieces dialect pieces)).1 := by
    rw [call_fed_fst]
    exact feedPieces_invariant Invariant step holds pieces
  cases request with
  | piece piece =>
      have single := fed [piece]
      rw [feedPieces_singleton] at single
      exact single
  | pieces pieces => exact fed pieces
  | text text => exact fed _
  | line line => exact fed _
  | finish =>
      change Invariant splitter.finish.1
      unfold finish
      split
      next => exact holds
      next opened =>
        rw [Bool.not_eq_true] at opened
        exact conclude splitter opened holds

theorem callAll_invariant (holds : Invariant splitter) (calls : List Call) :
    Invariant (splitter.callAll dialect calls) := by
  induction calls generalizing splitter with
  | nil => exact holds
  | cons request rest ih =>
      exact ih (call_invariant Invariant step conclude holds request)

end Calls

theorem callAll_coherent (dialect : Dialect) (calls : List Call) :
    (fresh.callAll dialect calls).Coherent dialect := by
  refine callAll_invariant (Coherent dialect) ?_ ?_ (fresh_coherent dialect) calls
  · intro splitter c _ coherent
    exact coherent.step c
  · intro splitter _ coherent
    exact coherent.conclude

theorem words_prefix_callAll (dialect : Dialect) (splitter : Splitter) (calls : List Call) :
    splitter.words.toList <+: (splitter.callAll dialect calls).words.toList := by
  refine callAll_invariant (fun later => splitter.words.toList <+: later.words.toList)
    ?_ ?_ List.prefix_rfl calls
  · intro later c _ before
    exact before.trans (words_prefix_step dialect later c)
  · intro later _ before
    exact before.trans (words_prefix_conclude later)

theorem callAll_of_closed (dialect : Dialect) (closed : splitter.closed = true)
    (calls : List Call) :
    splitter.callAll dialect calls = splitter := by
  refine callAll_invariant (fun later => later = splitter) ?_ ?_ rfl calls
  · rintro _ c opened rfl
    cases closed.symm.trans opened
  · rintro _ opened rfl
    cases closed.symm.trans opened

theorem callAll_append (dialect : Dialect) (splitter : Splitter)
    (calls more : List Call) :
    splitter.callAll dialect (calls ++ more) =
      (splitter.callAll dialect calls).callAll dialect more :=
  List.foldl_append

/-!
# Between two words, and at the end
-/

theorem Coherent.idle_of_blank {c : Char}
    (coherent : splitter.Coherent dialect)
    (opened : splitter.closed = false)
    (bare : splitter.state = .within .bare)
    (blank : Text.isBlank c = true) :
    (splitter.call dialect (.piece [c])).1.Idle := by
  have means : Means dialect c splitter.window.next splitter.state .separate := by
    rw [bare]
    exact .separate blank
  change (call.fed (splitter.feedPiece dialect [c])).1.Idle
  rw [call_fed_fst, feedPiece_single dialect opened, step_eq_perform means]
  exact separate_idle coherent.buffered

theorem separate_words (splitter : Splitter) :
    splitter.separate.words.toList =
      splitter.words.toList ++ if splitter.started then [splitter.buffer.toList] else [] := by
  unfold separate
  split
  next busy => simp [flush]
  next => simp

/-- Success at the end leaves no current word, and the words are those answered. -/
theorem Coherent.finished {words : List Text}
    (coherent : splitter.Coherent dialect)
    (finished : (splitter.call dialect .finish).2 = .ok (some words)) :
    words = splitter.words.toList ++
        (if splitter.started then [splitter.buffer.toList] else []) ∧
      (splitter.call dialect .finish).1.Idle ∧
      (splitter.call dialect .finish).1.words.toList = words ∧
      (splitter.call dialect .finish).1.closed = true := by
  change splitter.finish.2.map some = _ at finished
  change _ ∧ splitter.finish.1.Idle ∧ splitter.finish.1.words.toList = words ∧
    splitter.finish.1.closed = true
  cases opened : splitter.closed with
  | true =>
      rw [finish_of_closed opened] at finished
      cases finished
  | false =>
      rw [finish_eq_conclude opened] at finished ⊢
      unfold Splitter.conclude at finished ⊢
      split at finished
      next => cases finished
      next => cases finished
      next =>
        cases finished
        refine ⟨separate_words _, separate_idle coherent.buffered, rfl, ?_⟩
        unfold separate
        split <;> rfl

/--
Whatever has been called on a splitter, it is coherent.  A blank read outside of
quotations and escapes leaves no current word, nor does success at the end,
which answers the complete words and the current one; nothing is changed after
it.  And complete words stay, whatever else is called.
-/
theorem session_stays_coherent (dialect : Dialect) (calls : List Call) :
    (fresh.callAll dialect calls).Coherent dialect ∧
    (∀ c, (fresh.callAll dialect calls).closed = false →
      (fresh.callAll dialect calls).state = .within .bare → Text.isBlank c = true →
      (fresh.callAll dialect (calls ++ [.piece [c]])).Idle) ∧
    (∀ words, ((fresh.callAll dialect calls).call dialect .finish).2 = .ok (some words) →
      words = (fresh.callAll dialect calls).words.toList ++
          (if (fresh.callAll dialect calls).started then
            [(fresh.callAll dialect calls).buffer.toList] else []) ∧
        ∀ more, (fresh.callAll dialect (calls ++ .finish :: more)).Idle ∧
          (fresh.callAll dialect (calls ++ .finish :: more)).words.toList = words) ∧
    ∀ more, (fresh.callAll dialect calls).words.toList <+:
      (fresh.callAll dialect (calls ++ more)).words.toList := by
  have coherent := callAll_coherent dialect calls
  refine ⟨coherent, ?_, ?_, ?_⟩
  · intro c opened bare blank
    rw [callAll_append]
    exact coherent.idle_of_blank opened bare blank
  · intro words finished
    rcases coherent.finished finished with ⟨sum, idle, same, closed⟩
    refine ⟨sum, ?_⟩
    intro more
    have stays : fresh.callAll dialect (calls ++ .finish :: more) =
        ((fresh.callAll dialect calls).call dialect .finish).1 := by
      rw [callAll_append]
      exact callAll_of_closed dialect closed more
    rw [stays]
    exact ⟨idle, same⟩
  · intro more
    rw [callAll_append]
    exact words_prefix_callAll dialect _ more

/-- Words answered at the end stay after a piece that is refused and after further calls. -/
theorem session_keeps_words_with_quotation :
    let calls : List Call := [.text "a 'b ".toList, .piece [], .text "c'd".toList]
    let words : List Text := ["a".toList, "b cd".toList]
    ((fresh.callAll .shell calls).call .shell .finish).2 = .ok (some words) ∧
      ∀ more, (fresh.callAll .shell (calls ++ .finish :: more)).words.toList = words := by
  intro calls words
  have finished : ((fresh.callAll .shell calls).call .shell .finish).2 = .ok (some words) := by
    decide
  refine ⟨finished, ?_⟩
  intro more
  rcases session_stays_coherent .shell calls with ⟨-, -, ends, -⟩
  exact ((ends words finished).2 more).2

end Splitter
end QuotedWords
