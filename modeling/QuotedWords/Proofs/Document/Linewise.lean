import QuotedWords.Proofs.Document.Unjoined
import QuotedWords.Proofs.Line.Trimmed

/-!
# Documents and their lines

Without joining, a document is no more than its lines: it yields the words of
each line that has any, up to the first line that cannot be split.  Joining
changes nothing unless that line ends inside a quotation.
-/

namespace QuotedWords
namespace Dialect

/-!
# What the lines come to on their own
-/

/-- The lines before the first that cannot be split. -/
def splitLines (dialect : Dialect) (lines : List Text) : List Text :=
  lines.takeWhile fun line => (dialect.split line).isOk

/-- The words of lines that have any, each with the number of its line. -/
def yieldsOfLines (dialect : Dialect) (start : Nat) (lines : List Text) :
    List (Nat × List Text) :=
  (lines.zipIdx start).filterMap fun entry =>
    match dialect.split entry.1 with
    | .ok (word :: words) => some (entry.2, word :: words)
    | _ => none

/-- The first line that cannot be split: its number, and how it fails. -/
def firstFailing? (dialect : Dialect) (start : Nat) (lines : List Text) :
    Option (Nat × Failure) :=
  (lines.zipIdx start).findSome? fun entry =>
    match dialect.split entry.1 with
    | .ok _ => none
    | .error failure => some (entry.2, failure)

/--
The document is that of lines split one by one, of which the first has the given
number.  Its failure is that of the first line that cannot be split.
-/
structure IsLinewise (dialect : Dialect) (start : Nat) (lines : List Text)
    (document : Document) : Prop where
  yields_eq : document.yields = dialect.yieldsOfLines start (dialect.splitLines lines)
  failure_rel : Option.Rel
    (fun failing failure => failure.fault = failing.2.fault ∧ failure.firstLine = failing.1)
    (dialect.firstFailing? start lines) document.failure

section Lines

variable {dialect : Dialect} {line : Text}

theorem splitLines_cons_of_words {words : List Text} (rest : List Text)
    (splits : dialect.split line = .ok words) :
    dialect.splitLines (line :: rest) = line :: dialect.splitLines rest := by
  have passes : (dialect.split line).isOk = true := by
    rw [splits]
    rfl
  exact List.takeWhile_cons_of_pos passes

theorem splitLines_cons_of_failure {failure : Failure} (rest : List Text)
    (fails : dialect.split line = .error failure) :
    dialect.splitLines (line :: rest) = [] := by
  have stops : ¬ (dialect.split line).isOk = true := by
    rw [fails]
    exact Bool.false_ne_true
  exact List.takeWhile_cons_of_neg stops

theorem yieldsOfLines_cons {words : List Text} (start : Nat) (rest : List Text)
    (splits : dialect.split line = .ok words) :
    dialect.yieldsOfLines start (line :: rest) =
      (if words = [] then [] else [(start, words)]) ++
        dialect.yieldsOfLines (start + 1) rest := by
  rw [yieldsOfLines, List.zipIdx_cons, List.filterMap_cons, splits]
  cases words <;> rfl

theorem firstFailing?_cons_of_words {words : List Text} (start : Nat) (rest : List Text)
    (splits : dialect.split line = .ok words) :
    dialect.firstFailing? start (line :: rest) = dialect.firstFailing? (start + 1) rest := by
  rw [firstFailing?, List.zipIdx_cons, List.findSome?_cons, splits]
  rfl

theorem firstFailing?_cons_of_failure {failure : Failure} (start : Nat) (rest : List Text)
    (fails : dialect.split line = .error failure) :
    dialect.firstFailing? start (line :: rest) = some (start, failure) := by
  rw [firstFailing?, List.zipIdx_cons, List.findSome?_cons, fails]

end Lines

/-!
# The attempt at a line of its own
-/

theorem concur_split_words_trimEnd (dialect : Dialect) (line : Text) :
    Concur (fun cause failure => failure.fault = cause.fault) (dialect.split line)
      (dialect.words (Text.trimEnd (Text.trimNewlines line))) := by
  have alike := dialect.concur_split_splitInPlace line
  rw [splitInPlace, ← trimEnd_trimNewlines line] at alike
  generalize dialect.split line = outcome at alike ⊢
  cases found : dialect.words (Text.trimEnd (Text.trimNewlines line)) with
  | ok words =>
      rw [found] at alike
      cases alike
      exact .answer words
  | error failure =>
      rw [found] at alike
      cases alike with
      | error behind => exact .error behind.fault_eq

/-- A group of one line has the words of the line, or fails as the line does. -/
theorem attempt_verdict_of_line (dialect : Dialect) (number : Nat) (line : Text) :
    (∃ words, dialect.split line = .ok words ∧ ∀ join,
      (dialect.attempt join ⟨number, Text.trimNewlines line⟩ number).verdict =
        .words words) ∨
    ∃ cause failure, dialect.split line = .error cause ∧
      failure.fault = cause.fault ∧ failure.firstLine = (number : Int) ∧ ∀ join,
        (dialect.attempt join ⟨number, Text.trimNewlines line⟩ number).verdict =
          if join && failure.fault.isUnterminatedQuote then .continued
          else .failed failure := by
  rcases (dialect.concur_split_words_trimEnd line).answers_or_errors with
    ⟨words, splits, found⟩ | ⟨cause, failure, splits, found, fault⟩
  · exact Or.inl ⟨words, splits, fun join => attempt_verdict_of_words join number found⟩
  · let shown := failure.attachSource (Text.trimEnd (Text.trimNewlines line))
    refine Or.inr ⟨cause, shown.startingOn number, splits, fault, rfl, ?_⟩
    intro join
    exact @attempt_verdict_of_failure dialect ⟨number, _⟩ failure join number found

theorem toList_yield?_of_words {attempt : Attempt} {words : List Text}
    (verdict : attempt.verdict = .words words) :
    attempt.yield?.toList = if words = [] then [] else [(attempt.group.start, words)] := by
  rw [Attempt.yield?, verdict]
  cases words <;> rfl

/-!
# Documents, line by line
-/

variable {dialect : Dialect}

theorem documentFrom_unjoined_isLinewise (dialect : Dialect) (last start : Nat)
    (lines : List Text) :
    dialect.IsLinewise start lines (dialect.documentFrom false last none start lines) := by
  induction lines generalizing start with
  | nil =>
      rw [documentFrom_nil]
      exact ⟨rfl, .none⟩
  | cons line rest ih =>
      have grows : Group.extend none start (Text.trimNewlines line) =
          ⟨start, Text.trimNewlines line⟩ := rfl
      rcases dialect.attempt_verdict_of_line start line with
        ⟨words, splits, verdict⟩ | ⟨cause, failure, fails, fault, number, verdict⟩
      · rcases ih (start + 1) with ⟨yields, later⟩
        rw [documentFrom_cons_of_words last rest grows (verdict false)]
        constructor
        · rw [splitLines_cons_of_words rest splits, yieldsOfLines_cons start _ splits,
            ← yields, toList_yield?_of_words (verdict false)]
          rfl
        · rw [firstFailing?_cons_of_words start rest splits]
          exact later
      · rw [documentFrom_cons_of_failed last rest grows (verdict false)]
        constructor
        · rw [splitLines_cons_of_failure rest fails]
          rfl
        · rw [firstFailing?_cons_of_failure start rest fails]
          exact .some ⟨fault, number⟩

theorem documentFrom_joined_eq (last start : Nat) {lines : List Text}
    (closed : ∀ failure,
      (dialect.documentFrom false last none start lines).failure = some failure →
      failure.fault.isUnterminatedQuote = false) :
    dialect.documentFrom true last none start lines =
      dialect.documentFrom false last none start lines := by
  induction lines generalizing start with
  | nil => rw [documentFrom_nil, documentFrom_nil]
  | cons line rest ih =>
      have grows : Group.extend none start (Text.trimNewlines line) =
          ⟨start, Text.trimNewlines line⟩ := rfl
      rcases dialect.attempt_verdict_of_line start line with
        ⟨words, splits, verdict⟩ | ⟨cause, failure, fails, fault, number, verdict⟩
      · rw [documentFrom_cons_of_words last rest grows (verdict false)] at closed ⊢
        rw [documentFrom_cons_of_words last rest grows (verdict true), ih (start + 1) closed,
          toList_yield?_of_words (verdict true), toList_yield?_of_words (verdict false)]
        rfl
      · rw [documentFrom_cons_of_failed last rest grows (verdict false)] at closed ⊢
        have joined := verdict true
        rw [closed failure rfl] at joined
        exact documentFrom_cons_of_failed last rest grows joined

/--
Without joining, a document yields the words of its lines, each line split on its
own, up to the first line that cannot be split, and fails as that line does, with
its number.  With joining it is the same document, unless without joining it fails
inside a quotation.
-/
theorem unjoined_document_is_linewise (dialect : Dialect) (lines : List Text) :
    dialect.IsLinewise 1 lines (dialect.document false lines) ∧
    ((∀ failure, (dialect.document false lines).failure = some failure →
        failure.fault.isUnterminatedQuote = false) →
      dialect.document true lines = dialect.document false lines) :=
  ⟨dialect.documentFrom_unjoined_isLinewise lines.length 1 lines,
    documentFrom_joined_eq lines.length 1⟩

/-- A blank line yields nothing, and the fourth line fails after a leader, joined or not. -/
theorem document_with_leader_at_line_end :
    let lines := ["a 'b c'\r\n".toList, "\n".toList, " 'd' e".toList, "f \\ \n".toList,
      "g".toList]
    let document := Dialect.shell.document false lines
    document.yields = [(1, ["a".toList, "b c".toList]), (3, ["d".toList, "e".toList])] ∧
      (∃ failure, document.failure = some failure ∧ failure.fault = .danglingEscape ∧
        failure.firstLine = 4) ∧
      Dialect.shell.document true lines = document := by
  intro lines document
  have closed : ∀ failure, document.failure = some failure →
      failure.fault.isUnterminatedQuote = false := by
    rintro failure ⟨⟩
    rfl
  refine ⟨by decide, ⟨_, rfl, rfl, rfl⟩, ?_⟩
  exact (unjoined_document_is_linewise Dialect.shell lines).2 closed

end Dialect
end QuotedWords
