import QuotedWords.Splitter.Step

/-!
# What a character can mean

Every action has one rule, or two, under which it is taken.  The rules are
collected in one relation; it holds between a state and an action exactly when
the splitter takes that action, so whatever is proved of one step is proved rule
by rule, with the reasons for the step at hand.
-/

namespace QuotedWords

theorem Dialect.isLeader_iff {dialect : Dialect} {c : Char} :
    dialect.isLeader c = true ↔ dialect.leader = some c := by
  simp [isLeader]

namespace Context

/-- In this context the character leads an escape. -/
def Leads (dialect : Dialect) (context : Context) (c : Char) : Prop :=
  match context with
  | .bare =>
      Text.isBlank c = false ∧ dialect.quotes.get? c = none ∧ dialect.leader = some c
  | .quoted quote =>
      c ≠ quote.close ∧ quote.mode = .parseEscapes ∧ dialect.leader = some c

/-- In this context the character stands for itself. -/
def Plain (dialect : Dialect) (context : Context) (c : Char) : Prop :=
  match context with
  | .bare =>
      Text.isBlank c = false ∧ dialect.quotes.get? c = none ∧ dialect.leader ≠ some c
  | .quoted quote =>
      c ≠ quote.close ∧ ¬ (quote.mode = .parseEscapes ∧ dialect.leader = some c)

theorem Leads.leader
    {dialect : Dialect} {context : Context} {c : Char}
    (leads : context.Leads dialect c) :
    dialect.leader = some c := by
  cases context with
  | bare => exact leads.2.2
  | quoted quote => exact leads.2.2

end Context

/-- The rules by which a character, read at a position, gets its meaning in a state. -/
inductive Means (dialect : Dialect) (c : Char) (position : Position) :
    State → Action → Prop where
  | separate
      (blank : Text.isBlank c = true) :
      Means dialect c position (.within .bare) .separate
  | openQuote {rule : QuoteRule}
      (notBlank : Text.isBlank c = false)
      (opens : dialect.quotes.get? c = some rule) :
      Means dialect c position (.within .bare)
        (.openQuote ⟨rule.close, rule.mode, c, position⟩)
  | closeQuote {quote : OpenQuote}
      (closes : c = quote.close) :
      Means dialect c position (.within (.quoted quote)) .closeQuote
  | lead {context : Context}
      (leads : context.Leads dialect c) :
      Means dialect c position (.within context) (.lead context position)
  | keep {context : Context}
      (plain : context.Plain dialect c) :
      Means dialect c position (.within context) (.keep c)
  | replace {resume : Context} {leader : Position} {replacement : Char}
      (resolves : dialect.resolve c = some replacement) :
      Means dialect c position (.escaping resume leader) (.replace replacement resume)
  | reject {resume : Context} {leader : Position}
      (unresolved : dialect.resolve c = none) :
      Means dialect c position (.escaping resume leader) (.reject c leader)

namespace Means

variable {dialect : Dialect} {c : Char} {position : Position} {state : State}

theorem of_action (dialect : Dialect) (c : Char) (position : Position) (state : State) :
    Means dialect c position state (state.action dialect c position) := by
  cases state with
  | within context =>
      cases context with
      | bare =>
          by_cases blank : Text.isBlank c = true
          · simpa [State.action, blank] using Means.separate blank
          · rw [Bool.not_eq_true] at blank
            cases opens : dialect.quotes.get? c with
            | some rule =>
                simpa [State.action, blank, opens] using Means.openQuote blank opens
            | none =>
                by_cases leader : dialect.leader = some c
                · have leads : Context.bare.Leads dialect c := ⟨blank, opens, leader⟩
                  simpa [State.action, blank, opens, Dialect.isLeader_iff, leader] using
                    Means.lead leads
                · have plain : Context.bare.Plain dialect c := ⟨blank, opens, leader⟩
                  simpa [State.action, blank, opens, Dialect.isLeader_iff, leader] using
                    Means.keep plain
      | quoted quote =>
          by_cases closes : c = quote.close
          · simpa [State.action, closes] using Means.closeQuote closes
          · by_cases leader : quote.mode = .parseEscapes ∧ dialect.leader = some c
            · have leads : (Context.quoted quote).Leads dialect c := ⟨closes, leader⟩
              simpa [State.action, closes, Dialect.isLeader_iff, leader] using
                Means.lead leads
            · have plain : (Context.quoted quote).Plain dialect c := ⟨closes, leader⟩
              simpa only [State.action, closes, Dialect.isLeader_iff, leader, if_false] using
                Means.keep plain
  | escaping resume leader =>
      cases resolves : dialect.resolve c with
      | some replacement =>
          simpa [State.action, resolves] using Means.replace resolves
      | none =>
          simpa [State.action, resolves] using Means.reject resolves

theorem action_eq {action : Action} (means : Means dialect c position state action) :
    state.action dialect c position = action := by
  cases means with
  | separate blank => simp [State.action, blank]
  | openQuote notBlank opens => simp [State.action, notBlank, opens]
  | closeQuote closes => simp [State.action, closes]
  | @lead context leads =>
      cases context with
      | bare =>
          rcases leads with ⟨notBlank, notOpener, leader⟩
          simp [State.action, notBlank, notOpener, Dialect.isLeader_iff, leader]
      | quoted quote =>
          rcases leads with ⟨notClose, mode, leader⟩
          simp [State.action, notClose, mode, Dialect.isLeader_iff, leader]
  | @keep context plain =>
      cases context with
      | bare =>
          rcases plain with ⟨notBlank, notOpener, notLeader⟩
          simp [State.action, notBlank, notOpener, Dialect.isLeader_iff, notLeader]
      | quoted quote =>
          rcases plain with ⟨notClose, notLeader⟩
          simp only [State.action, notClose, Dialect.isLeader_iff, notLeader, if_false]
  | replace resolves => simp [State.action, resolves]
  | reject unresolved => simp [State.action, unresolved]

end Means

namespace Splitter

theorem step_eq_perform
    {dialect : Dialect} {splitter : Splitter} {c : Char} {action : Action}
    (means : Means dialect c splitter.window.next splitter.state action) :
    splitter.step dialect c = (splitter.advance c).perform action := by
  unfold step
  rw [means.action_eq]

end Splitter
end QuotedWords
