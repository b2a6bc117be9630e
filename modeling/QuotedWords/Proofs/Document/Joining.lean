import QuotedWords.Proofs.Document.Attempts
import QuotedWords.Proofs.Line.Outcome
import QuotedWords.Proofs.Splitter.Growth
import QuotedWords.Proofs.Splitter.Relocation
import QuotedWords.Proofs.Text.Lines

/-!
# Joined lines read as one text

Splitting a document with its lines joined reads groups of lines, each with a
fresh splitter and without the blanks at its end.  Yet it comes to the words of
one splitter that reads the whole text: a group that has words leaves that one
splitter between two words, and a group that fails makes it fail alike.
-/

namespace QuotedWords

open Grammar

/-- Neither the leader nor any closer is a blank. -/
structure Dialect.MarksAreSolid (dialect : Dialect) : Prop where
  leader_solid : ∀ c, dialect.leader = some c → Text.isBlank c = false
  close_solid : ∀ opener rule, dialect.quotes.get? opener = some rule →
    Text.isBlank rule.close = false

namespace Splitter

variable {dialect : Dialect} {splitter : Splitter} {earlier words : List Text}
  {text more : Text} {failure : Failure}

/-!
# One group of lines
-/

theorem Holds.readsTo_past_group
    (held : splitter.Holds earlier none (.within .bare))
    (found : dialect.words (Text.trimEnd text) = .ok words) :
    splitter.ReadsTo dialect (text ++ ['\n']) (earlier ++ words) none
      (.within .bare) := by
  have line := (dialect.words_eq_ok_iff _ _).mp found
  rcases Text.exists_trimEnd_append text with ⟨dropped, parts, all⟩
  have beginning := line.beginning_gap (all.append Text.allBlank_newline) (by simp)
  rw [← List.append_assoc, ← parts] at beginning
  exact held.resumes.readsTo (fresh_readsTo_of_beginning beginning)

theorem Holds.wordsOf_group
    (held : splitter.Holds earlier none (.within .bare))
    (found : dialect.words (Text.trimEnd text) = .ok words) :
    splitter.wordsOf dialect text = .ok (earlier ++ words) := by
  have line := (dialect.words_eq_ok_iff _ _).mp found
  rcases Text.exists_trimEnd_append text with ⟨dropped, parts, all⟩
  have whole := line.append_blanks all
  rw [← parts] at whole
  rcases whole.beginning with ⟨complete, unfinished, beginning, rfl⟩
  have reads := held.resumes.readsTo (fresh_readsTo_of_beginning beginning)
  rw [← List.append_assoc]
  exact reads.wordsOf

theorem Holds.wordsOf_group_hopeless
    (held : splitter.Holds earlier none (.within .bare))
    (fails : dialect.words (Text.trimEnd text) = .error failure)
    (closed : failure.fault.isUnterminatedQuote = false)
    (led : failure.fault ≠ .danglingEscape)
    (more : Text) :
    ∃ further, splitter.wordsOf dialect (text ++ more) = .error further ∧
      further.fault = failure.fault := by
  rcases Dialect.exists_read_of_words fails closed led with ⟨last, stops⟩
  rcases Text.exists_trimEnd_append text with ⟨dropped, parts, _⟩
  have stopped := read_append_of_failed (dropped ++ more) stops
  rw [← List.append_assoc, ← parts] at stopped
  rcases held.resumes.read_eq_some stopped with ⟨moved, further, continues, same⟩
  exact ⟨further, wordsOf_of_failed continues, same.fault_eq⟩

theorem inside_of_blanks {rule : QuoteRule} {blanks : Text}
    (plain : ∀ c ∈ blanks, c ≠ rule.close ∧ dialect.leader ≠ some c) :
    Inside dialect rule blanks blanks := by
  induction blanks with
  | nil => exact .nil
  | cons c rest ih =>
      rcases List.forall_mem_cons.mp plain with ⟨⟨notClose, notLeader⟩, others⟩
      exact .plain notClose (fun leads => notLeader leads.2) (ih others)

theorem wordsOf_append_blanks_of_unterminated {blanks : Text}
    (solid : dialect.MarksAreSolid)
    (fails : dialect.words text = .error failure)
    (unclosed : failure.fault.isUnterminatedQuote = true)
    (all : Text.AllBlank blanks) :
    ∃ further, dialect.words (text ++ blanks) = .error further ∧
      further.fault = failure.fault := by
  cases Dialect.fails_of_words fails with
  | dangling => cases unclosed
  | unrecognized => cases unclosed
  | @unterminated last words current quote reads held beginning =>
      cases beginning with
      | @quoted _ _ _ _ _ _ before notBlank opens start content =>
          have inside : Inside dialect quote.rule blanks blanks := by
            apply inside_of_blanks
            intro c member
            have blank := all c member
            constructor
            · rintro rfl
              cases blank.symm.trans (solid.close_solid _ _ opens)
            · intro leads
              cases blank.symm.trans (solid.leader_solid c leads)
          rcases held.reads_inside inside rfl with ⟨final, continues, holds⟩
          rw [Dialect.words_eq_wordsOf, wordsOf_append_of_read blanks reads,
            wordsOf_of_read continues, conclude_quoted holds.state_eq]
          exact ⟨_, rfl, rfl⟩

theorem Holds.wordsOf_group_unterminated {blanks : Text}
    (held : splitter.Holds earlier none (.within .bare))
    (solid : dialect.MarksAreSolid)
    (fails : dialect.words (Text.trimEnd text) = .error failure)
    (unclosed : failure.fault.isUnterminatedQuote = true)
    (all : Text.AllBlank blanks) :
    ∃ further, splitter.wordsOf dialect (text ++ blanks) = .error further ∧
      further.fault = failure.fault := by
  rcases Text.exists_trimEnd_append text with ⟨dropped, parts, blank⟩
  have trailing : Text.AllBlank (dropped ++ blanks) := blank.append all
  rcases wordsOf_append_blanks_of_unterminated solid fails unclosed trailing with
    ⟨alone, stays, same⟩
  rw [← List.append_assoc, ← parts, Dialect.words_eq_wordsOf] at stays
  rcases held.resumes.wordsOf_error stays with ⟨further, stays, resumes⟩
  exact ⟨further, stays, resumes.fault_eq.trans same⟩

end Splitter

/-!
# All groups of a document
-/

/-- What stands in front of the next line: the group that waits, and its newline. -/
def Group.waiting : Option Group → Text
  | some group => group.text ++ ['\n']
  | none => []

theorem Group.extend_text (pending : Option Group) (number : Nat) (line : Text) :
    (Group.extend pending number line).text = Group.waiting pending ++ line := by
  cases pending <;> simp [Group.extend, Group.waiting]

/-- The group ends inside a quotation. -/
def Group.Unclosed (dialect : Dialect) (group : Group) : Prop :=
  ∃ failure, dialect.words (Text.trimEnd group.text) = .error failure ∧
    failure.fault.isUnterminatedQuote = true

/--
A document agrees with the outcome of one reading that has had earlier words: it
has the words of that reading, or its fault, unless the document stops after a
leader that could go on, or with a quotation that blanks could close.
-/
structure Document.Agrees (dialect : Dialect) (earlier : List Text)
    (outcome : Except Failure (List Text)) (document : Document) : Prop where
  words : document.failure = none →
    outcome = .ok (earlier ++ document.yields.flatMap Prod.snd)
  fault : ∀ failure, document.failure = some failure →
    failure.fault ≠ .danglingEscape →
    (failure.fault.isUnterminatedQuote = true → dialect.MarksAreSolid) →
    ∃ further, outcome = .error further ∧ further.fault = failure.fault

namespace Document

variable {dialect : Dialect} {earlier : List Text} {attempt : Attempt}
  {attempts : List Attempt} {outcome : Except Failure (List Text)}

theorem agrees_nil (ends : outcome = .ok earlier) :
    (ofAttempts []).Agrees dialect earlier outcome := by
  refine ⟨?_, nofun⟩
  intro _
  rw [ends]
  exact congrArg _ (List.append_nil earlier).symm

theorem agrees_of_words {words : List Text}
    (verdict : attempt.verdict = .words words)
    (rest : (ofAttempts attempts).Agrees dialect (earlier ++ words) outcome) :
    (ofAttempts (attempt :: attempts)).Agrees dialect earlier outcome := by
  rcases ofAttempts_cons_of_words attempts verdict with ⟨sameFailure, sameWords⟩
  constructor
  · rw [sameFailure, sameWords, ← List.append_assoc]
    exact rest.words
  · rw [sameFailure]
    exact rest.fault

theorem agrees_of_failed {failure : Failure}
    (verdict : attempt.verdict = .failed failure)
    (fails : failure.fault ≠ .danglingEscape →
      (failure.fault.isUnterminatedQuote = true → dialect.MarksAreSolid) →
      ∃ further, outcome = .error further ∧ further.fault = failure.fault) :
    (ofAttempts (attempt :: attempts)).Agrees dialect earlier outcome := by
  have failed := ofAttempts_cons_of_failed attempts verdict
  constructor
  · rw [failed]
    nofun
  · rw [failed]
    rintro _ ⟨⟩
    exact fails

end Document

namespace Dialect

variable {dialect : Dialect} {splitter : Splitter} {earlier : List Text}

theorem agrees_of_unclosed {group : Group}
    (held : splitter.Holds earlier none (.within .bare))
    (unclosed : group.Unclosed dialect) (blanks : Text)
    (all : Text.AllBlank blanks) (last : Nat) :
    (Document.ofAttempts [dialect.attempt false group last]).Agrees dialect earlier
      (splitter.wordsOf dialect (group.text ++ blanks)) := by
  rcases unclosed with ⟨failure, fails, isOpen⟩
  have verdict := attempt_verdict_of_failure false last fails
  rw [Bool.false_and, if_neg Bool.false_ne_true] at verdict
  refine Document.agrees_of_failed verdict ?_
  intro _ solid
  rcases held.wordsOf_group_unterminated (solid isOpen) fails isOpen all with
    ⟨further, stays, same⟩
  exact ⟨further, stays, same⟩

/--
An attempt at a group, with lines joined: words, an open quotation, or a failure
that no further text undoes, unless it is a leader at the end.
-/
theorem attempt_cases (dialect : Dialect) (group : Group) (last : Nat) :
    (∃ words, dialect.words (Text.trimEnd group.text) = .ok words ∧
      (dialect.attempt true group last).verdict = .words words) ∨
    (group.Unclosed dialect ∧ (dialect.attempt true group last).verdict = .continued) ∨
    ∃ cause failure, dialect.words (Text.trimEnd group.text) = .error cause ∧
      cause.fault.isUnterminatedQuote = false ∧ failure.fault = cause.fault ∧
      (dialect.attempt true group last).verdict = .failed failure := by
  cases found : dialect.words (Text.trimEnd group.text) with
  | ok words => exact Or.inl ⟨words, rfl, attempt_verdict_of_words true last found⟩
  | error failure =>
      have verdict := attempt_verdict_of_failure true last found
      cases isOpen : failure.fault.isUnterminatedQuote with
      | true =>
          rw [isOpen, Bool.and_self, if_pos rfl] at verdict
          exact Or.inr (Or.inl ⟨⟨failure, found, isOpen⟩, verdict⟩)
      | false =>
          rw [isOpen, Bool.and_false, if_neg Bool.false_ne_true] at verdict
          have same (text : Text) (start : Int) :
              ((failure.attachSource text).startingOn start).fault = failure.fault := rfl
          exact Or.inr (Or.inr ⟨failure, _, rfl, isOpen, same _ _, verdict⟩)

theorem agrees_of_hopeless {group : Group} {cause failure : Failure} {number : Nat}
    (held : splitter.Holds earlier none (.within .bare))
    (fails : dialect.words (Text.trimEnd group.text) = .error cause)
    (closed : cause.fault.isUnterminatedQuote = false)
    (same : failure.fault = cause.fault)
    (verdict : (dialect.attempt true group number).verdict = .failed failure)
    (more : Text) :
    (Document.ofAttempts [dialect.attempt true group number]).Agrees
      dialect earlier (splitter.wordsOf dialect (group.text ++ more)) := by
  refine Document.agrees_of_failed verdict ?_
  intro led _
  rw [same] at led ⊢
  exact held.wordsOf_group_hopeless fails closed led more

theorem agrees_of_last_line {pending : Option Group} {number last : Nat} {body : Text}
    (held : splitter.Holds earlier none (.within .bare))
    (trimmed : Text.trimNewlines body = body) :
    (Document.ofAttempts
      ((dialect.progress true pending number [body]).completed dialect last)).Agrees
      dialect earlier
      (splitter.wordsOf dialect (Group.waiting pending ++ body)) := by
  rw [← Group.extend_text pending number body]
  generalize grows : Group.extend pending number body = group
  rw [← trimmed] at grows
  rcases dialect.attempt_cases group number with
    ⟨words, found, verdict⟩ | ⟨unclosed, verdict⟩ |
      ⟨cause, failure, fails, closed, same, verdict⟩
  · rw [progress_cons_of_words grows verdict, progress_nil, Progress.completed_cons,
      Progress.completed_of_none]
    exact Document.agrees_of_words verdict (Document.agrees_nil (held.wordsOf_group found))
  · rw [progress_cons_of_continued grows verdict, Progress.completed_cons,
      Document.ofAttempts_cons_of_continued _ verdict]
    have agrees := agrees_of_unclosed held unclosed [] nofun last
    rw [List.append_nil] at agrees
    exact agrees
  · rw [progress_cons_of_failed grows verdict, Progress.completed_of_none]
    have agrees := agrees_of_hopeless held fails closed same verdict []
    rw [List.append_nil] at agrees
    exact agrees

/-- From every line on, the joined lines agree with one reading of what is left. -/
theorem progress_agrees (dialect : Dialect) (last : Nat) (text : Text)
    (noReturn : '\r' ∉ text) (pending : Option Group) (number : Nat)
    (splitter : Splitter) (earlier : List Text)
    (waits : ∀ group ∈ pending, group.Unclosed dialect)
    (held : splitter.Holds earlier none (.within .bare)) :
    (Document.ofAttempts
      ((dialect.progress true pending number (Text.newlineEnded text)).completed
        dialect last)).Agrees dialect earlier
      (splitter.wordsOf dialect (Group.waiting pending ++ text)) := by
  -- The reading stands still while a group grows and moves past it when it has words.
  induction text using Text.line_induction generalizing pending number splitter earlier with
  | last body noNewline =>
      rw [Text.newlineEnded_of_not_mem noNewline]
      split
      next empty =>
        subst empty
        rw [List.append_nil, progress_nil]
        cases pending with
        | none =>
            have ends := (held.readsTo_nil dialect).wordsOf
            rw [Option.toList_none, List.append_nil] at ends
            exact Document.agrees_nil ends
        | some group =>
            exact agrees_of_unclosed held (waits group rfl) ['\n'] Text.allBlank_newline last
      next => exact agrees_of_last_line held (Text.trimNewlines_eq_self noNewline noReturn)
  | line body rest noNewline ih =>
      simp only [List.mem_append, List.mem_cons, not_or] at noReturn
      rcases noReturn with ⟨noReturnBody, _, noReturnRest⟩
      have trimmed := Text.trimNewlines_append_newline noNewline noReturnBody
      have joined : Group.waiting pending ++ (body ++ '\n' :: rest) =
          (Group.extend pending number body).text ++ ['\n'] ++ rest := by
        simp [Group.extend_text]
      rw [Text.newlineEnded_append rest noNewline, joined]
      generalize grows : Group.extend pending number body = group
      rw [← trimmed] at grows
      rcases dialect.attempt_cases group number with
        ⟨words, found, verdict⟩ | ⟨unclosed, verdict⟩ |
          ⟨cause, failure, fails, closed, same, verdict⟩
      · rw [progress_cons_of_words grows verdict, Progress.completed_cons]
        rcases held.readsTo_past_group found with ⟨next, reads, holds⟩
        rw [Splitter.wordsOf_append_of_read rest reads]
        exact Document.agrees_of_words verdict
          (ih noReturnRest none (number + 1) next _ nofun holds)
      · rw [progress_cons_of_continued grows verdict, Progress.completed_cons,
          Document.ofAttempts_cons_of_continued _ verdict]
        refine ih noReturnRest (some group) (number + 1) splitter earlier ?_ held
        intro waiting isWaiting
        rcases Option.some.inj isWaiting with rfl
        exact unclosed
      · rw [progress_cons_of_failed grows verdict, Progress.completed_of_none,
          List.append_assoc]
        exact agrees_of_hopeless held fails closed same verdict (['\n'] ++ rest)

end Dialect

/-!
# The document and the whole text
-/

theorem Splitter.keeps_blanks {dialect : Dialect} {front blanks rest : Text}
    {quote : OpenQuote} {found : List Text}
    (quoted : dialect.LeavesIn front (.within (.quoted quote)))
    (plain : ∀ c ∈ blanks, c ≠ quote.close ∧ dialect.leader ≠ some c)
    (finds : dialect.words (front ++ blanks ++ rest) = .ok found) :
    Keeps (fresh.feedText dialect front).1.words.toList
      ((fresh.feedText dialect front).1.buffer.toList ++ blanks) found := by
  have reads := read_of_fed quoted.1
  rcases reflects_of_read reads with ⟨_, words, current, held, beginning⟩
  rw [quoted.2] at held beginning
  cases beginning with
  | quoted =>
      rw [held.words_eq, held.buffer_eq]
      have inside : Inside dialect quote.rule blanks blanks := inside_of_blanks plain
      rcases held.reads_inside inside rfl with ⟨filled, continues, holds⟩
      rw [Dialect.words_eq_wordsOf, List.append_assoc, wordsOf_append_of_read _ reads,
        wordsOf_append_of_read rest continues] at finds
      exact holds.wordsOf_keeps finds

/-- What a document with joined lines has to do with one reading of its whole text. -/
structure Document.Refines (dialect : Dialect) (text : Text) (document : Document) :
    Prop where
  /-- Without a failure the words of the document are those of the text. -/
  words : document.failure = none →
    dialect.words text = .ok (document.yields.flatMap Prod.snd)
  increasing : (document.yields.map Prod.fst).Pairwise (· < ·)
  unrecognized : ∀ failure char, document.failure = some failure →
    failure.fault = .unrecognizedEscape char →
    ∃ further, dialect.words text = .error further ∧
      further.fault = .unrecognizedEscape char
  /-- A blank that closes or leads could end the quotation after it was trimmed. -/
  unterminated : dialect.MarksAreSolid →
    ∀ failure quote, document.failure = some failure →
      failure.fault = .unterminatedQuote quote →
      ∃ further, dialect.words text = .error further ∧
        further.fault = .unterminatedQuote quote
  /-- Blanks at the end of a line inside of a quotation stay in the word. -/
  keeps_blanks : ∀ front blanks rest quote,
    text = front ++ blanks ++ '\n' :: rest →
    dialect.LeavesIn front (.within (.quoted quote)) →
    Text.AllBlank blanks →
    (∀ c ∈ blanks, c ≠ quote.close ∧ dialect.leader ≠ some c) →
    document.failure = none →
    Keeps (Splitter.fresh.feedText dialect front).1.words.toList
      ((Splitter.fresh.feedText dialect front).1.buffer.toList ++ blanks)
      (document.yields.flatMap Prod.snd)

/--
Splitting a text without carriage returns line by line, with its lines joined,
loses, repeats and alters nothing of what one reading of the whole text gives.
-/
theorem Dialect.joined_document_refines (dialect : Dialect) {text : Text}
    (noReturn : '\r' ∉ text) :
    (dialect.document true (Text.newlineEnded text)).Refines dialect text := by
  have agrees := dialect.progress_agrees (Text.newlineEnded text).length text noReturn
    none 1 .fresh [] nofun Splitter.fresh_holds
  rw [← attempts_eq_completed] at agrees
  change (dialect.document true (Text.newlineEnded text)).Agrees dialect []
    (Splitter.fresh.wordsOf dialect text) at agrees
  rw [← words_eq_wordsOf] at agrees
  constructor
  · exact agrees.words
  · exact dialect.document_yields_increase true _
  · intro failure char fails unrecognized
    have led : failure.fault ≠ .danglingEscape := by simp [unrecognized]
    have closed : failure.fault.isUnterminatedQuote = true → dialect.MarksAreSolid := by
      simp [unrecognized, Fault.isUnterminatedQuote]
    rcases agrees.fault failure fails led closed with ⟨further, stops, same⟩
    exact ⟨further, stops, same.trans unrecognized⟩
  · intro solid failure quote fails unterminated
    have led : failure.fault ≠ .danglingEscape := by simp [unterminated]
    rcases agrees.fault failure fails led (fun _ => solid) with ⟨further, stops, same⟩
    exact ⟨further, stops, same.trans unterminated⟩
  · rintro front blanks rest quote rfl quoted _ plain completes
    exact Splitter.keeps_blanks quoted plain (agrees.words completes)

/-- A quotation over a line end, with a blank before it, and a line of its own. -/
theorem words_of_quotation_over_line_end :
    '\r' ∉ "a 'b \nc' d\n e".toList ∧
      (Dialect.shell.document true
        (Text.newlineEnded "a 'b \nc' d\n e".toList)).failure = none ∧
      Dialect.shell.words "a 'b \nc' d\n e".toList =
        .ok ["a".toList, "b \nc".toList, "d".toList, "e".toList] :=
  ⟨by decide, by decide,
    (Dialect.shell.joined_document_refines (by decide)).words (by decide)⟩

end QuotedWords
