import QuotedWords.Proofs.Position
import QuotedWords.Proofs.Line.Outcome

/-!
# The character that a failure complains about

A failure of a text stands at one character of it: the opener of the quotation
that stays open, or the leader of the escape that is cut short or stands for
nothing.
-/

namespace QuotedWords

open Grammar

/-- The fault complains about this character, which opens a quotation or leads an escape. -/
def Dialect.Blames (dialect : Dialect) (c : Char) : Fault → Prop
  | .unterminatedQuote quote =>
      quote = [c] ∧ Text.isBlank c = false ∧ dialect.quotes.get? c ≠ none
  | .danglingEscape => dialect.leader = some c
  | .unrecognizedEscape _ => dialect.leader = some c
  | .other _ => False

/-- No blank leads an escape. -/
def Dialect.LeaderIsSolid (dialect : Dialect) : Prop :=
  ∀ c, dialect.leader = some c → Text.isBlank c = false

theorem Style.leaderIsSolid (style : Style) : style.dialect.LeaderIsSolid := by
  intro c leads
  cases style with
  | whitespace => cases leads
  | shell =>
      cases leads
      decide
  | c =>
      cases leads
      decide

theorem Dialect.Blames.not_blank {dialect : Dialect} {c : Char} {fault : Fault}
    (blames : dialect.Blames c fault)
    (solid : dialect.LeaderIsSolid) :
    Text.isBlank c = false := by
  cases fault with
  | unterminatedQuote quote => exact blames.2.1
  | danglingEscape => exact solid c blames
  | unrecognizedEscape char => exact solid c blames
  | other message => exact blames.elim

theorem Position.Follows.place_unique {position : Position}
    {before front after rest : Text} {c d : Char}
    (first : position.Follows before) (second : position.Follows front)
    (same : before ++ c :: after = front ++ d :: rest) :
    before = front ∧ c = d ∧ after = rest := by
  have length : before.length = front.length := by
    have := first.offset_eq.symm.trans second.offset_eq
    omega
  rcases List.append_inj same length with ⟨fronts, rests⟩
  exact ⟨fronts, List.cons.inj rests⟩

namespace Dialect

variable {dialect : Dialect} {text : Text} {failure : Failure}

/-- The place of a failure is that of the character it complains about. -/
theorem exists_place_of_words
    (fails : dialect.words text = .error failure) :
    ∃ before c after, text = before ++ c :: after ∧
      failure.position.Follows before ∧ dialect.Blames c failure.fault ∧
      (failure.fault = .danglingEscape → after = []) := by
  cases fails_of_words fails with
  | @unterminated last words current quote reads held beginning =>
      cases beginning with
      | @quoted before inside _ _ _ _ front notBlank opens start content =>
          have opener : dialect.quotes.get? quote.opener ≠ none := by simp [opens]
          have follows : quote.start.Follows before := by
            rw [start]
            exact Position.start_afterText_follows before
          refine ⟨before, quote.opener, inside, rfl, follows, ⟨rfl, notBlank, opener⟩, ?_⟩
          intro dangling
          cases dangling
  | dangling reads held beginning =>
      cases beginning with
      | @escaping before _ _ _ leader front leads =>
          exact ⟨before, leader, [], rfl, Position.start_afterText_follows before,
            leads.leader, fun _ => rfl⟩
  | @unrecognized _ rest c _ _ _ _ _ parts reads held beginning unresolved =>
      cases beginning with
      | @escaping before _ _ _ leader front leads =>
          refine ⟨before, leader, c :: rest, by simpa using parts,
            Position.start_afterText_follows before, leads.leader, ?_⟩
          intro dangling
          cases dangling

end Dialect
end QuotedWords
