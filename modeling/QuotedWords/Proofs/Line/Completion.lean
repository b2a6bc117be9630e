import QuotedWords.Proofs.Line.Outcome

/-!
# Completing a text

What can be added to a text so that it has words.  A text that ends inside a
quotation lacks the closer, one that ends after a leader lacks a character that
an escape stands for, and one in which an escape stands for nothing cannot be
completed at all.
-/

namespace QuotedWords

open Grammar

variable {dialect : Dialect} {text : Text}

theorem Dialect.exists_resolve (dialect : Dialect) :
    ∃ c meant, dialect.resolve c = some meant := by
  unfold resolve resolveEscape
  split
  next => exact ⟨'a', 'a', rfl⟩
  next filled =>
    unfold Table.isEmpty at filled
    unfold Table.get?
    cases entries : dialect.escapes.entries with
    | nil => simp [entries] at filled
    | cons entry rest =>
        have found : (entry :: rest).lookup entry.1 = some entry.2 := by
          rw [Table.lookup_cons, if_pos rfl]
        exact ⟨entry.1, entry.2, found⟩

namespace Splitter

variable {splitter : Splitter} {words : List Text} {current : Option Text}

theorem Holds.wordsOf_close {quote : OpenQuote}
    (held : splitter.Holds words current (.within (.quoted quote))) :
    splitter.wordsOf dialect [quote.close] = .ok (words ++ current.toList) := by
  rcases held.step dialect _ (.closer rfl) with ⟨closed, steps, holds⟩
  rw [wordsOf_of_read ((read_singleton dialect splitter quote.close).trans steps)]
  exact holds.conclude_bare

theorem Holds.wordsOf_bare_or_quoted {context : Context}
    (held : splitter.Holds words current (.within context)) :
    (∃ found, splitter.wordsOf dialect [] = .ok found) ∨
      ∃ failure quote, splitter.wordsOf dialect [] = .error failure ∧
        failure.fault = .unterminatedQuote quote := by
  rw [wordsOf_of_read (read_nil dialect splitter)]
  cases context with
  | bare => exact Or.inl ⟨_, held.conclude_bare⟩
  | quoted quote => exact Or.inr ⟨_, _, conclude_quoted held.state_eq, rfl⟩

/-- From every state that a splitter can be in some text leads to words. -/
theorem Holds.exists_completion {state : State}
    (held : splitter.Holds words current state) (dialect : Dialect) :
    ∃ more found, splitter.wordsOf dialect more = .ok found := by
  have within {splitter : Splitter} {words : List Text} {current : Option Text}
      {context : Context} (held : splitter.Holds words current (.within context)) :
      ∃ more found, splitter.wordsOf dialect more = .ok found := by
    cases context with
    | bare =>
        exact ⟨[], _, (wordsOf_of_read (read_nil dialect splitter)).trans held.conclude_bare⟩
    | quoted quote => exact ⟨[quote.close], _, held.wordsOf_close⟩
  cases state with
  | within context => exact within held
  | escaping resume leader =>
      rcases dialect.exists_resolve with ⟨c, meant, resolves⟩
      rcases held.step dialect c (.escaped resolves) with ⟨stepped, steps, holds⟩
      rcases within holds with ⟨more, found, completes⟩
      refine ⟨[c] ++ more, found, ?_⟩
      rw [wordsOf_append_of_read more ((read_singleton dialect splitter c).trans steps)]
      exact completes

end Splitter

/-!
# What a failure says about longer texts
-/

theorem Splitter.fresh_feedText_append_of_refused {refusal : Refusal}
    (refused : (fresh.feedText dialect text).2 = some refusal) (more : Text) :
    (fresh.feedText dialect (text ++ more)).2 = some refusal := by
  rcases exists_read_of_refused refused with ⟨last, failure, stops, rfl⟩
  rw [feedText_eq_read rfl, read_append_of_failed more stops]
  rfl

theorem Splitter.unrecognizedEscape_of_refused {refusal : Refusal}
    (refused : (fresh.feedText dialect text).2 = some refusal) :
    ∃ failure c, refusal = .failed failure ∧
      failure.fault = .unrecognizedEscape [c] := by
  rcases exists_read_of_refused refused with ⟨last, failure, stops, rfl⟩
  rcases exists_step_of_read_failed stops with ⟨_, c, _, _, _, _, steps⟩
  rcases step_failed_iff.mp steps with ⟨_, _, _, _, failed⟩
  rw [← show _ = failure from congrArg Prod.snd failed]
  exact ⟨_, c, rfl, rfl⟩

theorem Dialect.exists_words_append
    (fed : (Splitter.fresh.feedText dialect text).2 = none) :
    ∃ more words, dialect.words (text ++ more) = .ok words := by
  have reads := Splitter.read_of_fed fed
  rcases Splitter.reflects_of_read reads with ⟨_, _, _, held, _⟩
  rcases held.exists_completion dialect with ⟨more, found, completes⟩
  refine ⟨more, found, ?_⟩
  rw [Dialect.words_eq_wordsOf, Splitter.wordsOf_append_of_read more reads, completes]

theorem Dialect.words_append_close {failure : Failure} {quote : Text}
    (fails : dialect.words text = .error failure)
    (unterminated : failure.fault = .unterminatedQuote quote) :
    ∃ opener rule, quote = [opener] ∧ dialect.quotes.get? opener = some rule ∧
      dialect.words (text ++ [rule.close]) =
        .ok ((Splitter.fresh.feedText dialect text).1.words.toList ++
          [(Splitter.fresh.feedText dialect text).1.buffer.toList]) := by
  cases Dialect.fails_of_words fails with
  | @unterminated last words current found reads held beginning =>
      cases unterminated
      cases beginning with
      | @quoted _ _ _ _ _ _ before notBlank opens start content =>
          refine ⟨found.opener, found.rule, rfl, opens, ?_⟩
          have buffered := held.buffer_eq
          rw [Dialect.words_eq_wordsOf, Splitter.wordsOf_append_of_read _ reads,
            Splitter.feedText_eq_read rfl, reads, held.words_eq, buffered]
          exact held.wordsOf_close
  | dangling reads held beginning => cases unterminated
  | unrecognized parts reads held beginning unresolved => cases unterminated

theorem Dialect.words_append_escaped {failure : Failure} {c meant : Char}
    (fails : dialect.words text = .error failure)
    (dangling : failure.fault = .danglingEscape)
    (resolves : dialect.resolve c = some meant) :
    (Splitter.fresh.feedText dialect (text ++ [c])).2 = none ∧
      ((∃ words, dialect.words (text ++ [c]) = .ok words) ∨
        ∃ failure quote, dialect.words (text ++ [c]) = .error failure ∧
          failure.fault = .unterminatedQuote quote) := by
  cases Dialect.fails_of_words fails with
  | unterminated reads held beginning => cases dangling
  | unrecognized parts reads held beginning unresolved => cases dangling
  | @dangling last words current resume leader reads held beginning =>
      rcases held.step dialect c (.escaped resolves) with ⟨stepped, steps, holds⟩
      have extended : Splitter.fresh.read dialect (text ++ [c]) = (stepped, none) := by
        rw [Splitter.read_append_of_read [c] reads, Splitter.read_singleton, steps]
      constructor
      · rw [Splitter.feedText_eq_read rfl, extended]
        rfl
      · have ends := Splitter.wordsOf_append_of_read [] extended
        rw [List.append_nil] at ends
        rw [Dialect.words_eq_wordsOf, ends]
        exact holds.wordsOf_bare_or_quoted

/--
An unrecognized escape stays whatever follows it.  Any other text can be
completed: inside a quotation by the closer, which ends the last word, and after
a leader by every character that resolves, of which there are some.
-/
theorem Dialect.fails_for_good_or_incomplete (dialect : Dialect) (text : Text) :
    (∀ refusal, (Splitter.fresh.feedText dialect text).2 = some refusal →
      (∃ failure c, refusal = .failed failure ∧
        failure.fault = .unrecognizedEscape [c]) ∧
      ∀ more, (Splitter.fresh.feedText dialect (text ++ more)).2 = some refusal) ∧
    ((Splitter.fresh.feedText dialect text).2 = none →
      ∃ more words, dialect.words (text ++ more) = .ok words) ∧
    (∀ failure quote, dialect.words text = .error failure →
      failure.fault = .unterminatedQuote quote →
        ∃ opener rule, quote = [opener] ∧ dialect.quotes.get? opener = some rule ∧
          dialect.words (text ++ [rule.close]) =
            .ok ((Splitter.fresh.feedText dialect text).1.words.toList ++
              [(Splitter.fresh.feedText dialect text).1.buffer.toList])) ∧
    (∀ failure, dialect.words text = .error failure →
      failure.fault = .danglingEscape →
        (∃ c meant, dialect.resolve c = some meant) ∧
        ∀ c meant, dialect.resolve c = some meant →
          (Splitter.fresh.feedText dialect (text ++ [c])).2 = none ∧
          ((∃ words, dialect.words (text ++ [c]) = .ok words) ∨
            ∃ failure quote, dialect.words (text ++ [c]) = .error failure ∧
              failure.fault = .unterminatedQuote quote)) := by
  refine ⟨?_, exists_words_append, ?_, ?_⟩
  · intro refusal refused
    constructor
    · exact Splitter.unrecognizedEscape_of_refused refused
    · exact Splitter.fresh_feedText_append_of_refused refused
  · intro failure quote fails unterminated
    exact words_append_close fails unterminated
  · intro failure fails dangling
    refine ⟨dialect.exists_resolve, ?_⟩
    intro c meant resolves
    exact words_append_escaped fails dangling resolves

/-- A quotation inside of a word is completed by its closer. -/
theorem Dialect.closer_completes_quotation_in_word :
    ∃ failure, Dialect.shell.words "a b'c ".toList = .error failure ∧
      failure.fault = .unterminatedQuote ['\''] ∧
      ∃ opener rule, ['\''] = [opener] ∧ Dialect.shell.quotes.get? opener = some rule ∧
        Dialect.shell.words ("a b'c ".toList ++ [rule.close]) =
          .ok ["a".toList, "bc ".toList] := by
  have fails : Dialect.shell.words "a b'c ".toList =
      .error ⟨.unterminatedQuote ['\''], ⟨1, 4, 3⟩, "a b'c ".toList, 1, 1⟩ := by
    decide
  rcases (fails_for_good_or_incomplete Dialect.shell "a b'c ".toList).2.2.1 _ _ fails rfl with
    ⟨opener, rule, isOpener, opens, completes⟩
  exact ⟨_, fails, rfl, opener, rule, isOpener, opens, completes⟩

end QuotedWords
