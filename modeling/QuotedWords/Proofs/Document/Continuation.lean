import QuotedWords.Proofs.Document.Groups
import QuotedWords.Proofs.Splitter.Coherence

/-!
# Lines that are left inside a quotation

When lines are joined, whether a line is continued is decided on the text of its
group without the blanks at its end, yet the quotation goes on with all of that
text.  The two disagree in one case alone: the first of the blanks was escaped
inside the quotation, and without it the text ends after a leader.
-/

namespace QuotedWords

variable {dialect : Dialect} {text : Text} {quote : OpenQuote}

/-!
# Blanks read inside a quotation
-/

namespace Splitter

variable {splitter next : Splitter}

/-- A blank opens no quotation, so one that is open after it was open before it. -/
theorem context_of_step_blank {c : Char}
    (blank : Text.isBlank c = true)
    (steps : splitter.step dialect c = (next, none))
    (quoted : next.state.context = .quoted quote) :
    splitter.state.context = .quoted quote := by
  have means := Means.of_action dialect c splitter.window.next splitter.state
  rw [step_eq_perform means] at steps
  generalize splitter.state.action dialect c splitter.window.next = action at means steps
  generalize same : splitter.state = state at means
  cases means with
  | separate =>
      cases steps
      rw [separate_state] at quoted
      exact (congrArg State.context same).symm.trans quoted
  | openQuote notBlank => cases notBlank.symm.trans blank
  | closeQuote =>
      cases steps
      cases quoted
  | lead =>
      cases steps
      exact quoted
  | keep =>
      cases steps
      exact (congrArg State.context same).symm.trans quoted
  | replace =>
      cases steps
      exact quoted
  | reject => cases steps

theorem context_of_read_blanks {blanks : Text}
    (all : Text.AllBlank blanks)
    (reads : splitter.read dialect blanks = (next, none))
    (quoted : next.state.context = .quoted quote) :
    splitter.state.context = .quoted quote := by
  induction blanks generalizing splitter with
  | nil =>
      cases reads
      exact quoted
  | cons c rest ih =>
      rcases List.forall_mem_cons.mp all with ⟨blank, others⟩
      change splitter.read dialect ([c] ++ rest) = (next, none) at reads
      rcases read_of_read_append reads with ⟨middle, stepped, continues⟩
      rw [read_singleton] at stepped
      exact context_of_step_blank blank stepped (ih others continues)

end Splitter

/-!
# The text without the blanks at its end
-/

namespace Dialect

/-- A leader inside the quotation escapes the first of the blanks at the end of the text. -/
def EscapesBlankAtEnd (dialect : Dialect) (quote : OpenQuote) (text : Text) : Prop :=
  ∃ front leader blanks, text = front ++ leader :: blanks ∧
    dialect.LeavesIn front (.within (.quoted quote)) ∧
    (Context.quoted quote).Leads dialect leader ∧
    Text.isBlank leader = false ∧ blanks ≠ [] ∧ Text.AllBlank blanks

theorem LeavesIn.trimmed
    (leaves : dialect.LeavesIn text (.within (.quoted quote))) :
    dialect.LeavesIn (Text.trimEnd text) (.within (.quoted quote)) ∨
      ∃ leader, dialect.LeavesIn (Text.trimEnd text) (.escaping (.quoted quote) leader) := by
  rcases leavesIn_iff.mp leaves with ⟨last, reads, state⟩
  rcases Text.exists_trimEnd_append text with ⟨blanks, parts, all⟩
  rw [parts] at reads
  rcases Splitter.read_of_read_append reads with ⟨middle, front, back⟩
  have quoted := Splitter.context_of_read_blanks all back (congrArg State.context state)
  cases reached : middle.state with
  | within context =>
      rw [reached] at quoted
      cases quoted
      exact Or.inl (leavesIn_iff.mpr ⟨middle, front, reached⟩)
  | escaping resume leader =>
      rw [reached] at quoted
      cases quoted
      exact Or.inr ⟨leader, leavesIn_iff.mpr ⟨middle, front, reached⟩⟩

theorem words_of_leavesIn_quoted
    (leaves : dialect.LeavesIn text (.within (.quoted quote))) :
    ∃ failure, dialect.words text = .error failure ∧
      failure.fault = .unterminatedQuote [quote.opener] := by
  rcases leavesIn_iff.mp leaves with ⟨last, reads, state⟩
  rw [words_eq_wordsOf, Splitter.wordsOf_of_read reads, Splitter.conclude_quoted state]
  exact ⟨_, rfl, rfl⟩

theorem words_of_leavesIn_escaping {resume : Context} {leader : Position}
    (leaves : dialect.LeavesIn text (.escaping resume leader)) :
    ∃ failure, dialect.words text = .error failure ∧ failure.fault = .danglingEscape := by
  rcases leavesIn_iff.mp leaves with ⟨last, reads, state⟩
  rw [words_eq_wordsOf, Splitter.wordsOf_of_read reads, Splitter.conclude_escaping state]
  exact ⟨_, rfl, rfl⟩

/-- A text that leaves off after a leader ends with it. -/
theorem LeavesIn.exists_leader {context : Context} {position : Position}
    (leaves : dialect.LeavesIn text (.escaping context position)) :
    ∃ front leader, text = front ++ [leader] ∧
      dialect.LeavesIn front (.within context) ∧ context.Leads dialect leader := by
  rcases leavesIn_iff.mp leaves with ⟨last, reads, state⟩
  rcases Splitter.reflects_of_read reads with ⟨-, words, current, -, beginning⟩
  rw [state] at beginning
  cases beginning with
  | @escaping front _ _ _ leader before leads =>
      exact ⟨front, leader, rfl, leavesIn_of_beginning before, leads⟩

theorem LeavesIn.escaping {context : Context} {leader : Char}
    (leaves : dialect.LeavesIn text (.within context))
    (leads : context.Leads dialect leader) :
    ∃ position, dialect.LeavesIn (text ++ [leader]) (.escaping context position) := by
  rcases leavesIn_iff.mp leaves with ⟨last, reads, state⟩
  rcases Splitter.reflects_of_read reads with ⟨-, words, current, -, beginning⟩
  rw [state] at beginning
  exact ⟨_, leavesIn_of_beginning (beginning.escaping leads)⟩

/-- Without the blanks at its end the text leaves off after the leader of the first of them. -/
theorem EscapesBlankAtEnd.words_trimEnd
    (escapes : dialect.EscapesBlankAtEnd quote text) :
    ∃ failure, dialect.words (Text.trimEnd text) = .error failure ∧
      failure.fault = .danglingEscape := by
  rcases escapes with ⟨front, leader, blanks, rfl, leaves, leads, solid, -, all⟩
  rw [Text.trimEnd_append_blanks front solid all]
  rcases leaves.escaping leads with ⟨position, escaping⟩
  exact words_of_leavesIn_escaping escaping

theorem LeavesIn.words_trimEnd
    (leaves : dialect.LeavesIn text (.within (.quoted quote)))
    (unescaped : ¬ dialect.EscapesBlankAtEnd quote text) :
    ∃ failure, dialect.words (Text.trimEnd text) = .error failure ∧
      failure.fault = .unterminatedQuote [quote.opener] := by
  rcases leaves.trimmed with open? | ⟨position, escaping⟩
  · exact words_of_leavesIn_quoted open?
  · exfalso
    apply unescaped
    rcases escaping.exists_leader with ⟨front, leader, trimmed, before, leads⟩
    rcases Text.exists_trimEnd_append text with ⟨blanks, parts, all⟩
    have solid : Text.isBlank leader = false := Text.last_of_dropEndWhile_eq trimmed
    refine ⟨front, leader, blanks, ?_, before, leads, solid, ?_, all⟩
    · rw [trimmed, List.append_assoc] at parts
      exact parts
    · -- Blanks were trimmed: with them the text leaves off in the quotation.
      rintro rfl
      rw [List.append_nil] at parts
      rw [← parts] at escaping
      cases leaves.2.symm.trans escaping.2

/-!
# The attempt at a group that is left inside a quotation
-/

section Attempt

variable {group : Group}

theorem attempt_fails_of_escaped_blank (join : Bool) (last : Nat)
    (escapes : dialect.EscapesBlankAtEnd quote group.text) :
    ∃ failure, (dialect.attempt join group last).verdict = .failed failure ∧
      failure.fault = .danglingEscape := by
  rcases escapes.words_trimEnd with ⟨cause, fails, fault⟩
  have closed : cause.fault.isUnterminatedQuote = false := by
    rw [fault]
    rfl
  have verdict := attempt_verdict_of_failure join last fails
  rw [closed, Bool.and_false, if_neg Bool.false_ne_true] at verdict
  exact ⟨_, verdict, fault⟩

variable (leaves : dialect.LeavesIn group.text (.within (.quoted quote)))
  (unescaped : ¬ dialect.EscapesBlankAtEnd quote group.text)

include leaves unescaped

theorem unclosed_of_leavesIn_quoted : group.Unclosed dialect := by
  rcases leaves.words_trimEnd unescaped with ⟨cause, fails, fault⟩
  refine ⟨cause, fails, ?_⟩
  rw [fault]
  rfl

theorem attempt_continues (last : Nat) :
    (dialect.attempt true group last).verdict = .continued := by
  rcases leaves.words_trimEnd unescaped with ⟨cause, fails, fault⟩
  rw [attempt_verdict_of_failure true last fails, fault]
  rfl

theorem attempt_fails_at_end (last : Nat) :
    ∃ failure, (dialect.attempt false group last).verdict = .failed failure ∧
      failure.fault = .unterminatedQuote [quote.opener] := by
  rcases leaves.words_trimEnd unescaped with ⟨cause, fails, fault⟩
  exact ⟨_, attempt_verdict_of_failure false last fails, fault⟩

end Attempt

/-!
# The lines of an attempt
-/

section Lines

variable {join : Bool} {settled waiting rest : List Text} {yields : List (Nat × List Text)}
  {line : Text} {group : Group}

/-- The progress over the rest of the lines, after settled and waiting ones. -/
def progressFrom (dialect : Dialect) (join : Bool) (settled waiting rest : List Text) :
    Progress :=
  dialect.progress join (Group.ofLines? (settled.length + 1) waiting)
    (settled.length + 1 + waiting.length) rest

theorem progressFrom_cons_of_words {words : List Text} (rest : List Text)
    (grown : group = ⟨settled.length + 1, Group.textOf (waiting ++ [line])⟩)
    (verdict : (dialect.attempt join group (settled.length + 1 + waiting.length)).verdict =
      .words words) :
    dialect.progressFrom join settled waiting (line :: rest) =
      (dialect.progressFrom join (settled ++ waiting ++ [line]) [] rest).cons
        (dialect.attempt join group (settled.length + 1 + waiting.length)) := by
  have grows := (Group.extend_ofLines? (settled.length + 1) waiting line).trans grown.symm
  have number : settled.length + 1 + waiting.length + 1 =
      (settled ++ waiting ++ [line]).length + 1 := by
    simp only [List.length_append, List.length_singleton]
    omega
  rw [progressFrom, progress_cons_of_words grows verdict, number]
  rfl

theorem progressFrom_cons_of_continued (rest : List Text)
    (grown : group = ⟨settled.length + 1, Group.textOf (waiting ++ [line])⟩)
    (verdict : (dialect.attempt join group (settled.length + 1 + waiting.length)).verdict =
      .continued) :
    dialect.progressFrom join settled waiting (line :: rest) =
      (dialect.progressFrom join settled (waiting ++ [line]) rest).cons
        (dialect.attempt join group (settled.length + 1 + waiting.length)) := by
  have grows := (Group.extend_ofLines? (settled.length + 1) waiting line).trans grown.symm
  have some : waiting ++ [line] ≠ [] := by simp
  rw [progressFrom, progress_cons_of_continued grows verdict, progressFrom, Group.ofLines?,
    if_neg some, ← grown, List.length_append, List.length_singleton, Nat.add_assoc _ _ 1]

theorem progressFrom_cons_of_failed {failure : Failure} (rest : List Text)
    (grown : group = ⟨settled.length + 1, Group.textOf (waiting ++ [line])⟩)
    (verdict : (dialect.attempt join group (settled.length + 1 + waiting.length)).verdict =
      .failed failure) :
    dialect.progressFrom join settled waiting (line :: rest) =
      ⟨[dialect.attempt join group (settled.length + 1 + waiting.length)], none⟩ :=
  progress_cons_of_failed
    ((Group.extend_ofLines? (settled.length + 1) waiting line).trans grown.symm) verdict

/-- The first attempt is that at the waiting lines with the next one. -/
theorem exists_later_of_progressFrom_cons (dialect : Dialect) (join : Bool)
    (settled waiting : List Text) (line : Text) (rest : List Text) :
    ∃ later, (dialect.progressFrom join settled waiting (line :: rest)).attempts =
      dialect.attempt join ⟨settled.length + 1, Group.textOf (waiting ++ [line])⟩
        (settled.length + 1 + waiting.length) :: later := by
  generalize grown :
    Group.mk (settled.length + 1) (Group.textOf (waiting ++ [line])) = group
  cases verdict :
      (dialect.attempt join group (settled.length + 1 + waiting.length)).verdict with
  | words words =>
      rw [progressFrom_cons_of_words rest grown.symm verdict]
      exact ⟨_, rfl⟩
  | continued =>
      rw [progressFrom_cons_of_continued rest grown.symm verdict]
      exact ⟨_, rfl⟩
  | failed failure =>
      rw [progressFrom_cons_of_failed rest grown.symm verdict]
      exact ⟨[], rfl⟩

/-- Every attempt is made at a line that follows settled and waiting ones. -/
theorem Reaches.exists_line {attempt : Attempt} {before after : List Attempt}
    (reaches : dialect.Reaches join settled waiting yields)
    (point : (dialect.progressFrom join settled waiting rest).attempts =
      before ++ attempt :: after) :
    ∃ (front part : List Text) (line : Text) (back : List Text)
        (found : List (Nat × List Text)),
      settled ++ waiting ++ rest = front ++ part ++ line :: back ∧
      dialect.Reaches join front part found ∧
      (dialect.progressFrom join front part (line :: back)).attempts = attempt :: after := by
  -- As long as it is not the next line's, the attempt is one at the lines after it.
  induction rest generalizing settled waiting yields before with
  | nil =>
      rw [progressFrom, progress_nil] at point
      simp at point
  | cons line rest ih =>
      cases before with
      | nil => exact ⟨settled, waiting, line, rest, yields, rfl, reaches, point⟩
      | cons first before =>
          generalize grown :
            Group.mk (settled.length + 1) (Group.textOf (waiting ++ [line])) = group
          have cases := dialect.attempt_verdict_cases join group
            (settled.length + 1 + waiting.length)
          rcases cases with
            ⟨words, verdict⟩ | ⟨joins, unclosed, verdict⟩ | ⟨cause, failed, verdict⟩
          · rw [progressFrom_cons_of_words rest grown.symm verdict] at point
            have next := reaches.settle grown.symm verdict
            have same : settled ++ waiting ++ line :: rest =
                settled ++ waiting ++ [line] ++ [] ++ rest := by simp
            rw [same]
            exact ih next (List.cons.inj point).2
          · rw [progressFrom_cons_of_continued rest grown.symm verdict] at point
            have next := reaches.wait grown.symm joins unclosed verdict
            have same : settled ++ waiting ++ line :: rest =
                settled ++ (waiting ++ [line]) ++ rest := by simp
            rw [same]
            exact ih next (List.cons.inj point).2
          · rw [progressFrom_cons_of_failed rest grown.symm verdict] at point
            have later := (List.cons.inj point).2
            simp at later

/-- The attempt is made at the last of these lines, which come after the settled ones. -/
structure AttemptedAt (settled part : List Text) (attempt : Attempt) : Prop where
  nonempty : part ≠ []
  group_eq : attempt.group = ⟨settled.length + 1, Group.textOf part⟩
  last_eq : attempt.last = settled.length + part.length

theorem attemptedAt_of_progressFrom_cons {attempt : Attempt} {after : List Attempt}
    (point : (dialect.progressFrom join settled waiting (line :: rest)).attempts =
      attempt :: after) :
    attempt = dialect.attempt join ⟨settled.length + 1, Group.textOf (waiting ++ [line])⟩
        (settled.length + 1 + waiting.length) ∧
      AttemptedAt settled (waiting ++ [line]) attempt := by
  rcases dialect.exists_later_of_progressFrom_cons join settled waiting line rest with
    ⟨later, attempts⟩
  rw [attempts] at point
  cases point
  refine ⟨rfl, by simp, rfl, ?_⟩
  change settled.length + 1 + waiting.length = _
  rw [List.length_append, List.length_singleton]
  omega

theorem Reaches.document_failure_of_end {failure : Failure}
    (reaches : dialect.Reaches join settled waiting yields)
    (some : waiting ≠ [])
    (fails : (dialect.attempt false ⟨settled.length + 1, Group.textOf waiting⟩
      (settled ++ waiting).length).verdict = .failed failure) :
    (dialect.document join (settled ++ waiting)).failure = failure := by
  have whole := reaches.whole_eq (settled ++ waiting).length []
  rw [Group.ofLines?, if_neg some, documentFrom_nil_of_failed _ fails, List.append_nil]
    at whole
  exact congrArg Document.failure whole

theorem Reaches.document_failure_of_line {failure : Failure}
    (reaches : dialect.Reaches join settled waiting yields)
    (fails : (dialect.attempt join ⟨settled.length + 1, Group.textOf (waiting ++ [line])⟩
      (settled.length + 1 + waiting.length)).verdict = .failed failure) :
    (dialect.document join (settled ++ waiting ++ line :: rest)).failure = failure := by
  have whole := reaches.whole_eq (settled ++ waiting ++ line :: rest).length (line :: rest)
  have grows := Group.extend_ofLines? (settled.length + 1) waiting line
  rw [documentFrom_cons_of_failed _ rest grows fails] at whole
  exact congrArg Document.failure whole

end Lines

/--
At every line, joined to its group, that leaves a quotation open: unless a blank
at the end of the group is escaped there, the line does not fail.  The next line
is appended to the group, and if there is none the document fails with the quote
that opens the quotation.  With an escaped blank the document fails at this line,
as if its end were that of the input.
-/
theorem open_quotation_is_continued {lines : List Text} {before after : List Attempt}
    {attempt : Attempt}
    (point : (dialect.progress true none 1 lines).attempts = before ++ attempt :: after)
    (leaves : dialect.LeavesIn attempt.group.text (.within (.quoted quote))) :
    ∃ settled part rest, lines = settled ++ part ++ rest ∧
      AttemptedAt settled part attempt ∧
      (¬ dialect.EscapesBlankAtEnd quote attempt.group.text →
        attempt.verdict = .continued ∧
        (∀ line more, rest = line :: more → ∃ next later,
          after = next :: later ∧ AttemptedAt settled (part ++ [line]) next) ∧
        (rest = [] → after = [] ∧ ∃ failure,
          (dialect.document true lines).failure = some failure ∧
          failure.fault = .unterminatedQuote [quote.opener])) ∧
      (dialect.EscapesBlankAtEnd quote attempt.group.text →
        ∃ failure, attempt.verdict = .failed failure ∧
          (dialect.document true lines).failure = some failure ∧
          failure.fault = .danglingEscape) := by
  rcases (dialect.reaches_nil true).exists_line point with
    ⟨settled, waiting, line, rest, yields, parts, reaches, here⟩
  change lines = _ at parts
  have parted : lines = settled ++ (waiting ++ [line]) ++ rest := by simp [parts]
  rcases attemptedAt_of_progressFrom_cons here with ⟨made, attempted⟩
  refine ⟨settled, waiting ++ [line], rest, parted, attempted, ?_, ?_⟩
  · intro unescaped
    rw [attempted.group_eq] at leaves unescaped
    have verdict := attempt_continues leaves unescaped (settled.length + 1 + waiting.length)
    rw [progressFrom_cons_of_continued rest rfl verdict] at here
    have later : (dialect.progressFrom true settled (waiting ++ [line]) rest).attempts = after :=
      (List.cons.inj here).2
    refine ⟨made ▸ verdict, ?_, ?_⟩
    · rintro next more rfl
      rcases dialect.exists_later_of_progressFrom_cons true settled (waiting ++ [line]) next more
        with ⟨others, attempts⟩
      rw [attempts] at later
      exact ⟨_, others, later.symm, (attemptedAt_of_progressFrom_cons attempts).2⟩
    · rintro rfl
      have waits := reaches.wait rfl rfl (unclosed_of_leavesIn_quoted leaves unescaped) verdict
      rcases attempt_fails_at_end leaves unescaped (settled ++ (waiting ++ [line])).length with
        ⟨failure, fails, fault⟩
      rw [progressFrom, progress_nil] at later
      rw [parted, List.append_nil]
      exact ⟨later.symm, failure, waits.document_failure_of_end (by simp) fails, fault⟩
  · intro escapes
    rw [attempted.group_eq] at escapes
    rcases attempt_fails_of_escaped_blank true (settled.length + 1 + waiting.length) escapes with
      ⟨failure, fails, fault⟩
    rw [parts]
    exact ⟨failure, made ▸ fails, reaches.document_failure_of_line fails, fault⟩

/-- A quotation with a blank at the end of its first line goes on with the second. -/
theorem quotation_with_blank_at_line_end_is_continued :
    let lines := ["'a ".toList, "b'".toList]
    let quote : OpenQuote := ⟨'\'', .ignoreEscapes, '\'', ⟨1, 1, 0⟩⟩
    let first := Dialect.shell.attempt true ⟨1, "'a ".toList⟩ 1
    let second := Dialect.shell.attempt true ⟨1, "'a \nb'".toList⟩ 2
    (Dialect.shell.progress true none 1 lines).attempts = [first, second] ∧
      Dialect.shell.LeavesIn first.group.text (.within (.quoted quote)) ∧
      first.verdict = .continued ∧
      ∃ settled part line, AttemptedAt settled part first ∧
        AttemptedAt settled (part ++ [line]) second := by
  intro lines quote first second
  have point : (Dialect.shell.progress true none 1 lines).attempts = [] ++ [first, second] :=
    rfl
  have leaves : Dialect.shell.LeavesIn first.group.text (.within (.quoted quote)) :=
    ⟨by decide, by decide⟩
  have unescaped : ¬ Dialect.shell.EscapesBlankAtEnd quote first.group.text := by
    rintro ⟨front, leader, blanks, -, -, leads, -⟩
    cases leads.2.1
  rcases open_quotation_is_continued point leaves with
    ⟨settled, part, rest, parts, attempted, continues, -⟩
  rcases continues unescaped with ⟨verdict, appends, ends⟩
  refine ⟨point, leaves, verdict, ?_⟩
  cases rest with
  | nil => cases (ends rfl).1
  | cons line more =>
      rcases appends line more rfl with ⟨next, later, follows, joined⟩
      cases follows
      exact ⟨settled, part, line, attempted, joined⟩

/-- An escaped blank at the end of the first line is trimmed, and the document fails. -/
theorem quotation_with_escaped_blank_at_line_end_fails :
    let lines := ["\"a\\ ".toList, "b\"".toList]
    let quote : OpenQuote := ⟨'"', .parseEscapes, '"', ⟨1, 1, 0⟩⟩
    ∃ attempt after failure,
      (Dialect.shell.progress true none 1 lines).attempts = attempt :: after ∧
      Dialect.shell.LeavesIn attempt.group.text (.within (.quoted quote)) ∧
      attempt.verdict = .failed failure ∧ failure.fault = .danglingEscape := by
  intro lines quote
  refine ⟨Dialect.shell.attempt true ⟨1, "\"a\\ ".toList⟩ 1, [], _, rfl, ?_, rfl, rfl⟩
  constructor
  · decide
  · decide

end Dialect
end QuotedWords
