import QuotedWords.Proofs.Position
import QuotedWords.Proofs.Line.Outcome

/-!
# Failures point at the offence

The position of a failure is that of one character of the text: of the opener of
a quotation that stays open, or of the leader of an escape that is cut short or
stands for nothing.
-/

namespace QuotedWords

open Grammar

variable {dialect : Dialect} {text : Text}

/-- A closer inside of a quotation is escaped there. -/
theorem Grammar.Inside.exists_leader {rule : QuoteRule} {value front rest : Text}
    (content : Inside dialect rule text value)
    (parts : text = front ++ rule.close :: rest) :
    ∃ escaped leader kept meant, front = escaped ++ [leader] ∧
      Inside dialect rule escaped kept ∧
      leader ≠ rule.close ∧ rule.mode = .parseEscapes ∧ dialect.leader = some leader ∧
      dialect.resolve rule.close = some meant := by
  induction content generalizing front with
  | nil => simp at parts
  | @plain c _ value notClose notLeader _ ih =>
      cases front with
      | nil => exact absurd (List.cons.inj parts).1 notClose
      | cons d front =>
          simp only [List.cons_append, List.cons.injEq] at parts
          rcases parts with ⟨rfl, parts⟩
          rcases ih parts with ⟨escaped, leader, kept, meant, rfl, inner, found⟩
          exact ⟨c :: escaped, leader, c :: kept, meant, rfl,
            .plain notClose notLeader inner, found⟩
  | @escape lead c meant _ value mode leads notClose resolves _ ih =>
      match front with
      | [] => exact absurd (List.cons.inj parts).1 notClose
      | [d] =>
          simp only [List.cons_append, List.nil_append, List.cons.injEq] at parts
          rcases parts with ⟨rfl, rfl, -⟩
          exact ⟨[], lead, [], meant, rfl, .nil, notClose, mode, leads, resolves⟩
      | d :: e :: front =>
          simp only [List.cons_append, List.cons.injEq] at parts
          rcases parts with ⟨rfl, rfl, parts⟩
          rcases ih parts with ⟨escaped, leader, kept, other, rfl, inner, found⟩
          exact ⟨lead :: c :: escaped, leader, meant :: kept, other, rfl,
            .escape mode leads notClose resolves inner, found⟩

namespace Dialect

/--
The closer after the text is the second character of an escape that was led
inside of the quotation.
-/
def EscapesCloser (dialect : Dialect) (quote : OpenQuote) (text : Text) : Prop :=
  ∃ front leader position meant, text = front ++ [leader] ∧
    dialect.leader = some leader ∧ quote.mode = .parseEscapes ∧
    dialect.LeavesIn front (.within (.quoted quote)) ∧
    position.Follows front ∧
    dialect.LeavesIn text (.escaping (.quoted quote) position) ∧
    dialect.resolve quote.close = some meant

/-- What a fault at a position says about the character there and the text around it. -/
def Offends (dialect : Dialect) (before : Text) (c : Char) (after : Text)
    (position : Position) : Fault → Prop
  | .unterminatedQuote quote =>
      quote = [c] ∧ dialect.LeavesIn before (.within .bare) ∧
        ∃ rule, dialect.quotes.get? c = some rule ∧
          (∀ inside rest, after = inside ++ rule.close :: rest →
            dialect.EscapesCloser ⟨rule.close, rule.mode, c, position⟩
              (before ++ c :: inside)) ∧
          (rule.mode = .ignoreEscapes ∨ dialect.leader = none → rule.close ∉ after)
  | .danglingEscape => dialect.leader = some c ∧ after = []
  | .unrecognizedEscape char =>
      dialect.leader = some c ∧ dialect.escapes.isEmpty = false ∧
        ∃ escaped rest, after = escaped :: rest ∧ char = [escaped] ∧
          dialect.escapes.get? escaped = none
  | .other _ => False

theorem offends_of_quoted {before inside value : Text} {words : List Text}
    {current : Option Text} {quote : OpenQuote}
    (front : Beginning dialect before words current (.within .bare))
    (notBlank : Text.isBlank quote.opener = false)
    (opens : dialect.quotes.get? quote.opener = some quote.rule)
    (start : quote.start = Position.start.afterText before)
    (content : Inside dialect quote.rule inside value) :
    dialect.Offends before quote.opener inside quote.start
      (.unterminatedQuote [quote.opener]) := by
  have escapes (part rest : Text) (parts : inside = part ++ quote.close :: rest) :
      dialect.EscapesCloser quote (before ++ quote.opener :: part) := by
    rcases content.exists_leader parts with
      ⟨escaped, leader, kept, meant, rfl, inner, notClose, mode, leads, resolves⟩
    have opened := front.quoted notBlank opens start inner
    have led : (Context.quoted quote).Leads dialect leader := ⟨notClose, mode, leads⟩
    refine ⟨before ++ quote.opener :: escaped, leader, _, meant, by simp, leads, mode,
      leavesIn_of_beginning opened, Position.start_afterText_follows _, ?_, resolves⟩
    simpa using leavesIn_of_beginning (opened.escaping led)
  refine ⟨rfl, leavesIn_of_beginning front, quote.rule, opens, escapes, ?_⟩
  intro literal closes
  rcases List.append_of_mem closes with ⟨part, rest, parts⟩
  rcases escapes part rest parts with ⟨_, leader, _, _, _, leads, mode, _⟩
  rcases literal with ignores | leaderless
  · cases ignores.symm.trans mode
  · cases leaderless.symm.trans leads

theorem exists_offence_of_words {failure : Failure}
    (fails : dialect.words text = .error failure) :
    ∃ before c after, text = before ++ c :: after ∧
      failure.position.Follows before ∧
      dialect.Offends before c after failure.position failure.fault := by
  cases fails_of_words fails with
  | @unterminated last words current quote reads held beginning =>
      cases beginning with
      | @quoted before inside _ _ _ _ front notBlank opens start content =>
          refine ⟨before, quote.opener, inside, rfl, ?_, ?_⟩
          · change quote.start.Follows before
            rw [start]
            exact Position.start_afterText_follows before
          · exact offends_of_quoted front notBlank opens start content
  | dangling reads held beginning =>
      cases beginning with
      | @escaping before _ _ _ leader front leads =>
          exact ⟨before, leader, [], rfl, Position.start_afterText_follows before,
            leads.leader, rfl⟩
  | @unrecognized _ rest c _ _ _ _ _ parts reads held beginning unresolved =>
      cases beginning with
      | @escaping before _ _ _ leader front leads =>
          unfold resolve resolveEscape at unresolved
          split at unresolved
          next => cases unresolved
          next filled =>
            rw [Bool.not_eq_true] at filled
            exact ⟨before, leader, c :: rest, by simpa using parts,
              Position.start_afterText_follows before, leads.leader, filled, c, rest,
              rfl, rfl, unresolved⟩

/--
A failure of a line shows the whole of the trimmed line, and its position is
that of a character of it: the opener of a quotation that is never closed, the
leader at the end, or the leader of an escape that stands for nothing.
-/
theorem split_failure_points_at_offence {line : Text} {failure : Failure}
    (fails : dialect.split line = .error failure) :
    failure.source = Text.trim line ∧ failure.sourceLine = 1 ∧
      0 ≤ failure.position.offset ∧
      failure.position.offset < (Text.trim line).length ∧
      ∃ before c after, Text.trim line = before ++ c :: after ∧
        failure.position.Follows before ∧
        dialect.Offends before c after failure.position failure.fault := by
  rcases exists_words_of_split fails with ⟨cause, failed, rfl⟩
  rcases exists_offence_of_words failed with ⟨before, c, after, parts, follows, offends⟩
  have offset : cause.position.offset = before.length := follows.offset_eq
  refine ⟨rfl, rfl, ?_, ?_, before, c, after, parts, follows, offends⟩
  · change 0 ≤ cause.position.offset
    omega
  · change cause.position.offset < (Text.trim line).length
    rw [parts, List.length_append, List.length_cons]
    omega

/-- The quote on the second line stays open: the closer after it is escaped. -/
theorem split_points_at_quote_with_escaped_closer :
    ∃ failure, Dialect.shell.split " p\n\"a\\\"b ".toList = .error failure ∧
      failure.position = ⟨2, 1, 2⟩ ∧
      ∃ before c after, "p\n\"a\\\"b".toList = before ++ c :: after ∧
        failure.position.Follows before ∧
        Dialect.shell.Offends before c after failure.position failure.fault := by
  have fails : Dialect.shell.split " p\n\"a\\\"b ".toList =
      .error ⟨.unterminatedQuote ['"'], ⟨2, 1, 2⟩, "p\n\"a\\\"b".toList, 1, 1⟩ := by
    decide
  have points := split_failure_points_at_offence fails
  exact ⟨_, fails, rfl, points.2.2.2.2⟩

end Dialect
end QuotedWords
