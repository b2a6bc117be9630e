import QuotedWords.Proofs.Document.Place

/-!
# Documents whose lines are not joined

Without joining every line is split on its own, in its place: the document is
split to its end if each of its lines can be split, and else fails at the first
that cannot.
-/

namespace QuotedWords

namespace Dialect

variable {dialect : Dialect} {line other : Text} {lines : List Text} {failure : Failure}

/-!
# Splitting a line in its place
-/

/-- The line can be split in its place. -/
def Splits (dialect : Dialect) (line : Text) : Prop :=
  ∃ words, dialect.splitInPlace line = .ok words

theorem splitInPlace_eq_of_trimEnd_eq
    (same : Text.trimEnd line = Text.trimEnd other) :
    dialect.splitInPlace line = dialect.splitInPlace other := by
  rw [splitInPlace, splitInPlace, same]

theorem splitInPlace_of_words {words : List Text}
    (found : dialect.words (Text.trimEnd line) = .ok words) :
    dialect.splitInPlace line = .ok words := by
  rw [splitInPlace, found]
  rfl

theorem splitInPlace_of_failure {cause : Failure}
    (fails : dialect.words (Text.trimEnd line) = .error cause) :
    dialect.splitInPlace line = .error (cause.attachSource (Text.trimEnd line)) := by
  rw [splitInPlace, fails]
  rfl

theorem splits_iff :
    dialect.Splits line ↔ ∃ words, dialect.words (Text.trimEnd line) = .ok words := by
  cases found : dialect.words (Text.trimEnd line) with
  | ok words =>
      have splits : dialect.Splits line := ⟨words, splitInPlace_of_words found⟩
      exact ⟨fun _ => ⟨words, rfl⟩, fun _ => splits⟩
  | error cause =>
      constructor
      · rintro ⟨words, splits⟩
        cases (splitInPlace_of_failure found).symm.trans splits
      · rintro ⟨words, ⟨⟩⟩

theorem trimEnd_trimNewlines (line : Text) :
    Text.trimEnd (Text.trimNewlines line) = Text.trimEnd line := by
  rcases Text.exists_trimNewlines_append line with ⟨ends, parts, blank⟩
  conv => rhs; rw [parts]
  exact (Text.trimEnd_append_of_allBlank _ blank).symm

/-!
# Splitting every line
-/

theorem documentFrom_unjoined_complete_iff (dialect : Dialect) (last number : Nat)
    (lines : List Text) :
    (dialect.documentFrom false last none number lines).failure = none ↔
      ∀ line ∈ lines, dialect.Splits line := by
  induction lines generalizing number with
  | nil =>
      rw [documentFrom_nil]
      exact ⟨nofun, fun _ => rfl⟩
  | cons line rest ih =>
      rw [List.forall_mem_cons, ← ih (number + 1)]
      generalize grows : Group.extend none number (Text.trimNewlines line) = group
      have same : Text.trimEnd group.text = Text.trimEnd line := by
        rw [← grows]
        exact trimEnd_trimNewlines line
      cases found : dialect.words (Text.trimEnd group.text) with
      | ok words =>
          have verdict := attempt_verdict_of_words false number found
          rw [documentFrom_cons_of_words last rest grows verdict]
          rw [same] at found
          have splits : dialect.Splits line := ⟨words, splitInPlace_of_words found⟩
          exact ⟨fun completes => ⟨splits, completes⟩, And.right⟩
      | error cause =>
          have verdict := attempt_verdict_of_failure false number found
          rw [documentFrom_cons_of_failed last rest grows verdict]
          rw [same] at found
          constructor
          · nofun
          · rintro ⟨⟨words, splits⟩, -⟩
            cases (splitInPlace_of_failure found).symm.trans splits

/-- Unless lines are joined, a document is split to its end when every line can be split. -/
theorem document_unjoined_complete_iff (dialect : Dialect) (lines : List Text) :
    (dialect.document false lines).failure = none ↔ ∀ line ∈ lines, dialect.Splits line :=
  dialect.documentFrom_unjoined_complete_iff lines.length 1 lines

/-- Unless lines are joined, a document fails as its first line does that cannot be split. -/
theorem exists_failing_line
    (fails : (dialect.document false lines).failure = some failure) :
    ∃ front line back cause, lines = front ++ line :: back ∧
      (∀ earlier ∈ front, dialect.Splits earlier) ∧
      dialect.splitInPlace line = .error cause ∧
      failure = cause.startingOn (front.length + 1 : Nat) := by
  rcases exists_failing_group fails with ⟨front, part, back, parts, group⟩
  rcases List.length_eq_one_iff.mp group.length_eq_one with ⟨line, rfl⟩
  rcases group.failure_eq with ⟨cause, failed, same⟩
  have text : Text.trimEnd (Group.textOf [line]) = Text.trimEnd line := by
    rw [Group.textOf, List.map_singleton, Text.joinWith_singleton, trimEnd_trimNewlines]
  rw [text] at failed same
  have completes : (dialect.document false front).failure = none :=
    congrArg Document.failure group.settled_eq
  exact ⟨front, line, back, _, by simpa using parts,
    (dialect.document_unjoined_complete_iff front).mp completes,
    splitInPlace_of_failure failed, same⟩

end Dialect
end QuotedWords
