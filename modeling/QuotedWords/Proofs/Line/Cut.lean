import QuotedWords.Proofs.Position
import QuotedWords.Proofs.Splitter.Relocation

/-!
# Cutting a text at a blank

A blank that stands outside of quotations and escapes cuts a text in two.  What
follows it is split as if nothing stood before: with the same words, which come
after those of the front, or with the same failure, at a place that is moved past
the front.
-/

namespace QuotedWords

open Grammar

/-!
# Failures behind a text
-/

/-- The failure complains about the same, at the place behind a text that comes first. -/
structure Failure.MovedPast (before : Text) (failure further : Failure) : Prop where
  fault_eq : further.fault = failure.fault
  offset_eq : further.position.offset = failure.position.offset + before.length
  line_eq : further.position.line = failure.position.line + before.count '\n'
  /-- On its first line alone the rest stands behind the last line of what comes first. -/
  column_eq : further.position.column =
    if failure.position.line = 1 then failure.position.column + before.lastLine.length
    else failure.position.column

theorem Failure.Resumes.movedPast {before : Text} {failure further : Failure}
    (resumes : Failure.Resumes (Position.start.afterText before) failure further) :
    Failure.MovedPast before failure further := by
  have follows := Position.start_afterText_follows before
  constructor
  · exact resumes.fault_eq
  · rw [resumes.position_eq]
    show (Position.start.afterText before).offset + failure.position.offset = _
    rw [follows.offset_eq, Int.add_comm]
  · rw [resumes.position_eq]
    show (Position.start.afterText before).line + failure.position.line - 1 = _
    rw [follows.line_eq]
    omega
  · rw [resumes.position_eq]
    show (if failure.position.line = 1 then
      (Position.start.afterText before).column + failure.position.column - 1 else _) = _
    rw [follows.column_eq]
    split
    next => omega
    next => rfl

namespace Dialect

variable {dialect : Dialect} {before text : Text} {words : List Text}

/-- Behind a beginning that ends between two words a text fails as it does alone. -/
theorem exists_words_append_of_beginning {failure : Failure}
    (beginning : Beginning dialect before words none (.within .bare))
    (fails : dialect.words text = .error failure) :
    ∃ further, dialect.words (before ++ text) = .error further ∧
      Failure.Resumes (Position.start.afterText before) failure further := by
  rcases Splitter.fresh_readsTo_of_beginning beginning with ⟨next, reads, held⟩
  have related := held.resumes
  rw [Splitter.read_next reads] at related
  rw [words_eq_wordsOf] at fails
  rcases related.wordsOf_error fails with ⟨further, continues, same⟩
  refine ⟨further, ?_, same⟩
  rw [words_eq_wordsOf, Splitter.wordsOf_append_of_read text reads]
  exact continues

/-!
# One blank
-/

variable {front rest : Text} {blank : Char}

theorem words_append_blank {more : List Text}
    (found : dialect.words front = .ok words)
    (isBlank : Text.isBlank blank = true)
    (later : dialect.words rest = .ok more) :
    dialect.words (front ++ blank :: rest) = .ok (words ++ more) := by
  rw [words_eq_ok_iff] at found later ⊢
  have gap : Text.AllBlank [blank] := Text.allBlank_nil.cons isBlank
  simpa using found.append_gap gap (List.cons_ne_nil blank []) later

theorem exists_words_append_blank {failure : Failure}
    (found : dialect.words front = .ok words)
    (isBlank : Text.isBlank blank = true)
    (fails : dialect.words rest = .error failure) :
    ∃ further, dialect.words (front ++ blank :: rest) = .error further ∧
      failure.MovedPast (front ++ [blank]) further := by
  have line := (words_eq_ok_iff dialect front words).mp found
  have gap : Text.AllBlank [blank] := Text.allBlank_nil.cons isBlank
  have beginning := line.beginning_gap gap (List.cons_ne_nil blank [])
  rcases exists_words_append_of_beginning beginning fails with ⟨further, continues, resumes⟩
  refine ⟨further, ?_, resumes.movedPast⟩
  rw [← List.append_cons] at continues
  exact continues

/--
If a text can be split, then it can be cut off, with the blank behind it, from any
text in which it comes first: what is left has the words that are missing, or
fails alike, with the same message, at a place that is moved past what was cut off.
-/
theorem blank_cuts_text (dialect : Dialect) {front : Text} {words : List Text}
    {blank : Char}
    (found : dialect.words front = .ok words)
    (isBlank : Text.isBlank blank = true) (rest : Text) :
    (∀ more, dialect.words rest = .ok more →
      dialect.words (front ++ blank :: rest) = .ok (words ++ more)) ∧
    ∀ failure, dialect.words rest = .error failure →
      ∃ further, dialect.words (front ++ blank :: rest) = .error further ∧
        further.message = failure.message ∧
        failure.MovedPast (front ++ [blank]) further := by
  constructor
  · intro more later
    exact words_append_blank found isBlank later
  · intro failure fails
    rcases exists_words_append_blank found isBlank fails with ⟨further, continues, moved⟩
    refine ⟨further, continues, ?_, moved⟩
    exact congrArg Fault.message moved.fault_eq

/--
A quotation over a line end and a blank of full width, before a rest that has a word
and before one that fails on its first line.
-/
theorem blank_behind_quotation_cuts_text :
    let front := "a 'b\nc'".toList
    Dialect.shell.words front = .ok ["a".toList, "b\nc".toList] ∧
      Text.isBlank '\u3000' = true ∧
      Dialect.shell.words (front ++ '\u3000' :: "d\\ e".toList) =
        .ok ["a".toList, "b\nc".toList, "d e".toList] ∧
      ∃ further, Dialect.shell.words (front ++ '\u3000' :: "d \"e".toList) = .error further ∧
        further.fault = .unterminatedQuote ['"'] ∧ further.position.offset = 10 ∧
        further.position.line = 2 ∧ further.position.column = 6 := by
  intro front
  have found : Dialect.shell.words front = .ok ["a".toList, "b\nc".toList] := by decide
  have isBlank : Text.isBlank '\u3000' = true := by decide
  have later : Dialect.shell.words "d\\ e".toList = .ok ["d e".toList] := by decide
  have fails : Dialect.shell.words "d \"e".toList =
      .error ⟨.unterminatedQuote ['"'], ⟨1, 3, 2⟩, "d \"e".toList, 1, 1⟩ := by
    decide
  refine ⟨found, isBlank, ?_, ?_⟩
  · exact (blank_cuts_text Dialect.shell found isBlank _).1 _ later
  · rcases (blank_cuts_text Dialect.shell found isBlank _).2 _ fails with
      ⟨further, continues, -, moved⟩
    exact ⟨further, continues, moved.fault_eq, moved.offset_eq, moved.line_eq,
      moved.column_eq⟩

end Dialect
end QuotedWords
