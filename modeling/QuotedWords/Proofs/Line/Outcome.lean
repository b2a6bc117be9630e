import QuotedWords.Proofs.Grammar.Recognition

/-!
# How a text fails to have words

A text fails in one of three ways: it ends inside a quotation, it ends after a
leader, or a character in it is escaped and stands for nothing.  Each way comes
with the beginning of a line up to the place at which reading stopped.
-/

namespace QuotedWords

open Grammar

namespace Dialect

/-- The ways in which a text fails to have words. -/
inductive Fails (dialect : Dialect) (text : Text) : Failure → Prop where
  | unterminated {last : Splitter} {words : List Text} {current : Option Text}
      {quote : OpenQuote}
      (reads : Splitter.fresh.read dialect text = (last, none))
      (held : last.Holds words current (.within (.quoted quote)))
      (beginning : Beginning dialect text words current (.within (.quoted quote))) :
      Fails dialect text
        (last.failure (.unterminatedQuote [quote.opener]) quote.start)
  | dangling {last : Splitter} {words : List Text} {current : Option Text}
      {resume : Context} {leader : Position}
      (reads : Splitter.fresh.read dialect text = (last, none))
      (held : last.Holds words current (.escaping resume leader))
      (beginning : Beginning dialect text words current (.escaping resume leader)) :
      Fails dialect text (last.failure .danglingEscape leader)
  | unrecognized {front rest : Text} {c : Char} {middle : Splitter}
      {words : List Text} {current : Option Text} {resume : Context} {leader : Position}
      (parts : text = front ++ c :: rest)
      (reads : Splitter.fresh.read dialect front = (middle, none))
      (held : middle.Holds words current (.escaping resume leader))
      (beginning : Beginning dialect front words current (.escaping resume leader))
      (unresolved : dialect.resolve c = none) :
      Fails dialect text
        ((middle.advance c).failure (.unrecognizedEscape [c]) leader)

variable {dialect : Dialect} {text : Text} {failure : Failure}

theorem fails_of_read {next : Splitter}
    (fails : Splitter.fresh.read dialect text = (next, some failure)) :
    dialect.Fails text failure := by
  rcases Splitter.exists_step_of_read_failed fails with
    ⟨front, c, rest, middle, parts, reads, steps⟩
  rcases Splitter.step_failed_iff.mp steps with
    ⟨resume, leader, escaping, unresolved, failed⟩
  rcases Splitter.reflects_of_read reads with ⟨_, words, current, held, beginning⟩
  rw [escaping] at held beginning
  rw [← show _ = failure from congrArg Prod.snd failed]
  exact .unrecognized parts reads held beginning unresolved

/-- A text fails where reading it stops, or else at its end. -/
theorem read_or_conclude_of_words
    (fails : dialect.words text = .error failure) :
    (∃ last, Splitter.fresh.read dialect text = (last, some failure)) ∨
      ∃ last, Splitter.fresh.read dialect text = (last, none) ∧
        last.conclude.2 = .error failure := by
  rw [words_eq_wordsOf] at fails
  cases reading : Splitter.fresh.read dialect text with
  | mk last stop =>
      cases stop with
      | some stop =>
          rw [Splitter.wordsOf_of_failed reading] at fails
          cases fails
          exact Or.inl ⟨last, rfl⟩
      | none =>
          rw [Splitter.wordsOf_of_read reading] at fails
          exact Or.inr ⟨last, rfl, fails⟩

theorem fails_of_words
    (fails : dialect.words text = .error failure) :
    dialect.Fails text failure := by
  rcases read_or_conclude_of_words fails with ⟨last, reading⟩ | ⟨last, reading, concludes⟩
  · exact fails_of_read reading
  · rcases Splitter.reflects_of_read reading with
      ⟨_, words, current, held, beginning⟩
    cases state : last.state with
    | within context =>
        rw [state] at held beginning
        cases context with
        | bare => cases held.conclude_bare.symm.trans concludes
        | quoted quote =>
            cases (Splitter.conclude_quoted state).symm.trans concludes
            exact .unterminated reading held beginning
    | escaping resume leader =>
        rw [state] at held beginning
        cases (Splitter.conclude_escaping state).symm.trans concludes
        exact .dangling reading held beginning

/-- Where the end of the text is not to blame, reading stops before it. -/
theorem exists_read_of_words
    (fails : dialect.words text = .error failure)
    (closed : failure.fault.isUnterminatedQuote = false)
    (led : failure.fault ≠ .danglingEscape) :
    ∃ last, Splitter.fresh.read dialect text = (last, some failure) := by
  rcases read_or_conclude_of_words fails with stops | ⟨last, -, concludes⟩
  · exact stops
  · unfold Splitter.conclude at concludes
    split at concludes
    · cases concludes
      cases closed
    · cases concludes
      exact absurd rfl led
    · cases concludes

theorem split_eq_ok_iff {line : Text} {words : List Text} :
    dialect.split line = .ok words ↔ dialect.words (Text.trim line) = .ok words := by
  change (dialect.words (Text.trim line)).mapError _ = .ok words ↔ _
  cases dialect.words (Text.trim line) with
  | ok found => exact Iff.rfl
  | error cause => exact ⟨nofun, nofun⟩

/-- A line that cannot be split fails as its trimmed text does, but shows all of it. -/
theorem exists_words_of_split {line : Text}
    (fails : dialect.split line = .error failure) :
    ∃ cause, dialect.words (Text.trim line) = .error cause ∧
      failure = cause.attachSource (Text.trim line) := by
  change (dialect.words (Text.trim line)).mapError _ = .error failure at fails
  cases found : dialect.words (Text.trim line) with
  | ok words =>
      rw [found] at fails
      cases fails
  | error cause =>
      rw [found] at fails
      cases fails
      exact ⟨cause, rfl, rfl⟩

end Dialect
end QuotedWords
