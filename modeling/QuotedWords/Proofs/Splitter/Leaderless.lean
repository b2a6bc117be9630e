import QuotedWords.Proofs.Line.Blame
import QuotedWords.Proofs.Splitter.Coherence

/-!
# Dialects without a leader

Without a leader nothing is an escape: neither what escapes stand for nor the mode
of a quotation has a say.  Two such dialects whose quotes have the same closers
take the same steps, so splitters that are called alike hold the same and answer
the same, but for the modes that they remember.
-/

namespace QuotedWords

/-!
# Forgetting modes
-/

/-- The open quotation, with one mode for all. -/
def OpenQuote.forgetMode (quote : OpenQuote) : OpenQuote :=
  { quote with mode := .ignoreEscapes }

def Context.forgetMode : Context → Context
  | .bare => .bare
  | .quoted quote => .quoted quote.forgetMode

def State.forgetMode : State → State
  | .within context => .within context.forgetMode
  | .escaping resume leader => .escaping resume.forgetMode leader

def Action.forgetMode : Action → Action
  | .openQuote quote => .openQuote quote.forgetMode
  | .lead resume leader => .lead resume.forgetMode leader
  | .replace c resume => .replace c resume.forgetMode
  | action => action

theorem OpenQuote.close_eq_of_forgetMode {quote quote' : OpenQuote}
    (same : (Context.quoted quote).forgetMode = (Context.quoted quote').forgetMode) :
    quote.close = quote'.close := by
  have close := congrArg OpenQuote.close (Context.quoted.inj same)
  exact close

theorem State.isBare_forgetMode (state : State) :
    state.forgetMode.isBare = state.isBare := by
  cases state with
  | within context => cases context <;> rfl
  | escaping resume leader => rfl

/-!
# Two dialects without a leader
-/

/-- The dialects have no leader, and the same quotes with the same closers. -/
structure Dialect.LeaderlessAlike (dialect other : Dialect) : Prop where
  leaderless : dialect.leader = none
  other_leaderless : other.leader = none
  closers_eq : ∀ c, (dialect.quotes.get? c).map QuoteRule.close =
    (other.quotes.get? c).map QuoteRule.close

/-- What a character means in the one dialect, it means in the other, but for modes. -/
theorem Dialect.LeaderlessAlike.exists_means {dialect other : Dialect} {c : Char}
    {position : Position} {context context' : Context} {action : Action}
    (alike : dialect.LeaderlessAlike other)
    (same : context.forgetMode = context'.forgetMode)
    (means : Means dialect c position (.within context) action) :
    ∃ action', Means other c position (.within context') action' ∧
      action.forgetMode = action'.forgetMode := by
  have closers := alike.closers_eq c
  cases means with
  | separate blank =>
      cases context' with
      | bare => exact ⟨_, .separate blank, rfl⟩
      | quoted quote => cases same
  | @openQuote rule notBlank opens =>
      cases context' with
      | bare =>
          rw [opens] at closers
          rcases Option.map_eq_some_iff.mp closers.symm with ⟨rule', opens', close⟩
          refine ⟨_, .openQuote notBlank opens', ?_⟩
          simp only [Action.forgetMode, OpenQuote.forgetMode, close]
      | quoted quote => cases same
  | @closeQuote quote closes =>
      cases context' with
      | bare => cases same
      | quoted quote' =>
          have close := OpenQuote.close_eq_of_forgetMode same
          exact ⟨_, .closeQuote (closes.trans close), rfl⟩
  | lead leads => cases alike.leaderless.symm.trans leads.leader
  | keep plain =>
      refine ⟨.keep c, .keep ?_, rfl⟩
      have notLeader : other.leader ≠ some c := by
        rw [alike.other_leaderless]
        nofun
      cases context with
      | bare =>
          cases context' with
          | bare =>
              rw [plain.2.1] at closers
              exact ⟨plain.1, Option.map_eq_none_iff.mp closers.symm, notLeader⟩
          | quoted quote => cases same
      | quoted quote =>
          cases context' with
          | bare => cases same
          | quoted quote' =>
              have close := OpenQuote.close_eq_of_forgetMode same
              exact ⟨close ▸ plain.1, fun led => notLeader led.2⟩

namespace Splitter

variable {dialect other : Dialect} {splitter one two : Splitter}

/-!
# Splitters without their modes
-/

/-- The splitter, but for the mode of the quotation in its state. -/
def forgetMode (splitter : Splitter) : Splitter :=
  { splitter with state := splitter.state.forgetMode }

theorem advance_forgetMode (splitter : Splitter) (c : Char) :
    (splitter.advance c).forgetMode = splitter.forgetMode.advance c := by
  have bare := State.isBare_forgetMode splitter.state
  unfold forgetMode advance
  simp only [bare]

theorem separate_forgetMode (splitter : Splitter) :
    splitter.separate.forgetMode = splitter.forgetMode.separate := by
  unfold separate
  show _ = if splitter.started then _ else _
  split <;> rfl

/-- To carry an action out, no mode has to be known. -/
theorem perform_forgetMode (splitter : Splitter) (action : Action) :
    (splitter.perform action).1.forgetMode =
        (splitter.forgetMode.perform action.forgetMode).1 ∧
      (splitter.perform action).2 = (splitter.forgetMode.perform action.forgetMode).2 := by
  cases action with
  | separate => exact ⟨separate_forgetMode splitter, rfl⟩
  | openQuote quote => exact ⟨rfl, rfl⟩
  | closeQuote => exact ⟨rfl, rfl⟩
  | lead resume leader => exact ⟨rfl, rfl⟩
  | keep c => exact ⟨rfl, rfl⟩
  | replace c resume => exact ⟨rfl, rfl⟩
  | reject c leader => exact ⟨rfl, rfl⟩

theorem conclude_forgetMode (splitter : Splitter) :
    splitter.conclude.1.forgetMode = splitter.forgetMode.conclude.1 ∧
      splitter.conclude.2 = splitter.forgetMode.conclude.2 := by
  rcases splitter with ⟨words, buffer, started, state, closed, window, log⟩
  cases state with
  | within context =>
      cases context with
      | bare => cases started <;> exact ⟨rfl, rfl⟩
      | quoted quote => exact ⟨rfl, rfl⟩
  | escaping resume leader => exact ⟨rfl, rfl⟩

/-!
# Splitters side by side
-/

/-- An escape would have been led by a leader. -/
theorem Coherent.exists_within
    (coherent : splitter.Coherent dialect)
    (leaderless : dialect.leader = none) :
    ∃ context, splitter.state = .within context := by
  cases state : splitter.state with
  | within context => exact ⟨context, rfl⟩
  | escaping resume leader =>
      cases resume with
      | bare =>
          rcases coherent.escaping_bare leader state with ⟨c, leads, -⟩
          cases leaderless.symm.trans leads
      | quoted quote =>
          rcases coherent.escaping_quoted quote leader state with ⟨-, c, leads, -⟩
          cases leaderless.symm.trans leads

/-- Two splitters that have come to the same, each in its dialect, but for modes. -/
structure Abreast (dialect other : Dialect) (one two : Splitter) : Prop where
  coherent : one.Coherent dialect
  other_coherent : two.Coherent other
  forgetMode_eq : one.forgetMode = two.forgetMode

theorem fresh_abreast (dialect other : Dialect) : Abreast dialect other fresh fresh :=
  ⟨fresh_coherent dialect, fresh_coherent other, rfl⟩

theorem Abreast.closed_eq (abreast : Abreast dialect other one two) :
    one.closed = two.closed := by
  show one.forgetMode.closed = two.forgetMode.closed
  rw [abreast.forgetMode_eq]

theorem Abreast.step
    (abreast : Abreast dialect other one two)
    (alike : dialect.LeaderlessAlike other) (c : Char) :
    Abreast dialect other (one.step dialect c).1 (two.step other c).1 ∧
      (one.step dialect c).2 = (two.step other c).2 := by
  rcases abreast.coherent.exists_within alike.leaderless with ⟨context, state⟩
  rcases abreast.other_coherent.exists_within alike.other_leaderless with ⟨context', state'⟩
  have next : one.window.next = two.window.next := by
    show one.forgetMode.window.next = two.forgetMode.window.next
    rw [abreast.forgetMode_eq]
  have same : context.forgetMode = context'.forgetMode := by
    have states := congrArg Splitter.state abreast.forgetMode_eq
    change one.state.forgetMode = two.state.forgetMode at states
    rw [state, state'] at states
    exact State.within.inj states
  have means := Means.of_action dialect c one.window.next one.state
  have stepped := step_eq_perform means
  generalize one.state.action dialect c one.window.next = action at means stepped
  rw [state] at means
  rcases alike.exists_means same means with ⟨action', means', acts⟩
  rw [next, ← state'] at means'
  have stepped' := step_eq_perform means'
  -- Both carry out the same action on the same splitter, but for modes.
  have performs := perform_forgetMode (one.advance c) action
  have performs' := perform_forgetMode (two.advance c) action'
  rw [advance_forgetMode, abreast.forgetMode_eq, acts] at performs
  rw [advance_forgetMode] at performs'
  refine ⟨⟨abreast.coherent.step c, abreast.other_coherent.step c, ?_⟩, ?_⟩
  · rw [stepped, stepped']
    exact performs.1.trans performs'.1.symm
  · rw [stepped, stepped']
    exact performs.2.trans performs'.2.symm

theorem Abreast.conclude
    (abreast : Abreast dialect other one two) :
    Abreast dialect other one.conclude.1 two.conclude.1 ∧
      one.conclude.2 = two.conclude.2 := by
  have concludes := conclude_forgetMode one
  rw [abreast.forgetMode_eq] at concludes
  have concludes' := conclude_forgetMode two
  refine ⟨⟨abreast.coherent.conclude, abreast.other_coherent.conclude, ?_⟩, ?_⟩
  · exact concludes.1.trans concludes'.1.symm
  · exact concludes.2.trans concludes'.2.symm

/-!
# Calls
-/

theorem Abreast.feedPiece
    (abreast : Abreast dialect other one two)
    (alike : dialect.LeaderlessAlike other) (piece : Text) :
    Abreast dialect other (one.feedPiece dialect piece).1 (two.feedPiece other piece).1 ∧
      (one.feedPiece dialect piece).2 = (two.feedPiece other piece).2 := by
  have closed := abreast.closed_eq
  cases ended : one.closed with
  | true =>
      rw [feedPiece_of_closed ended, feedPiece_of_closed (closed.symm.trans ended)]
      exact ⟨abreast, rfl⟩
  | false =>
      have ended' := closed.symm.trans ended
      by_cases single : ∃ c, piece = [c]
      · rcases single with ⟨c, rfl⟩
        rw [feedPiece_single dialect ended, feedPiece_single other ended']
        rcases abreast.step alike c with ⟨next, failure⟩
        exact ⟨next, congrArg (Option.map Refusal.failed) failure⟩
      · have several : ∀ c, piece ≠ [c] := fun c same => single ⟨c, same⟩
        rw [feedPiece_of_not_single ended several, feedPiece_of_not_single ended' several]
        exact ⟨abreast, rfl⟩

theorem Abreast.feedPieces
    (abreast : Abreast dialect other one two)
    (alike : dialect.LeaderlessAlike other) (pieces : List Text) :
    Abreast dialect other (one.feedPieces dialect pieces).1 (two.feedPieces other pieces).1 ∧
      (one.feedPieces dialect pieces).2 = (two.feedPieces other pieces).2 := by
  induction pieces generalizing one two with
  | nil => exact ⟨abreast, rfl⟩
  | cons piece rest ih =>
      rcases abreast.feedPiece alike piece with ⟨next, refused⟩
      cases fed : one.feedPiece dialect piece with
      | mk one' refusal =>
          cases fed' : two.feedPiece other piece with
          | mk two' refusal' =>
              rw [fed, fed'] at next refused
              change refusal = refusal' at refused
              subst refused
              cases refusal with
              | none =>
                  rw [feedPieces_cons_of_fed rest fed, feedPieces_cons_of_fed rest fed']
                  exact ih next
              | some refusal =>
                  rw [feedPieces_cons_of_refused rest fed,
                    feedPieces_cons_of_refused rest fed']
                  exact ⟨next, rfl⟩

theorem Abreast.finish
    (abreast : Abreast dialect other one two) :
    Abreast dialect other one.finish.1 two.finish.1 ∧ one.finish.2 = two.finish.2 := by
  have closed := abreast.closed_eq
  cases ended : one.closed with
  | true =>
      rw [finish_of_closed ended, finish_of_closed (closed.symm.trans ended)]
      exact ⟨abreast, rfl⟩
  | false =>
      rw [finish_eq_conclude ended, finish_eq_conclude (closed.symm.trans ended)]
      rcases abreast.conclude with ⟨next, answer⟩
      exact ⟨next, congrArg (Except.mapError Refusal.failed) answer⟩

theorem call_fed_snd_eq {came came' : Splitter × Option Refusal}
    (same : came.2 = came'.2) :
    (call.fed came).2 = (call.fed came').2 := by
  rcases came with ⟨next, refusal⟩
  rcases came' with ⟨next', refusal'⟩
  change refusal = refusal' at same
  subst same
  cases refusal <;> rfl

theorem Abreast.call
    (abreast : Abreast dialect other one two)
    (alike : dialect.LeaderlessAlike other) (request : Call) :
    Abreast dialect other (one.call dialect request).1 (two.call other request).1 ∧
      (one.call dialect request).2 = (two.call other request).2 := by
  by_cases feeds : request = .finish
  · subst feeds
    rcases abreast.finish with ⟨next, answer⟩
    exact ⟨next, congrArg (Except.map some) answer⟩
  · rw [Transcript.call_eq_fed dialect one feeds, Transcript.call_eq_fed other two feeds,
      call_fed_fst, call_fed_fst]
    rcases abreast.feedPieces alike request.fedPieces with ⟨next, refusal⟩
    exact ⟨next, call_fed_snd_eq refusal⟩

theorem Abreast.callAll
    (abreast : Abreast dialect other one two)
    (alike : dialect.LeaderlessAlike other) (calls : List Call) :
    Abreast dialect other (one.callAll dialect calls) (two.callAll other calls) := by
  induction calls generalizing one two with
  | nil => exact abreast
  | cons request rest ih => exact ih (abreast.call alike request).1

/-- What is left open without a leader is a quotation. -/
theorem unterminatedQuote_of_leaderless {calls : List Call} {request : Call}
    {failure : Failure}
    (leaderless : dialect.leader = none)
    (failed : ((fresh.callAll dialect calls).call dialect request).2 =
      .error (.failed failure)) :
    ∃ quote, failure.fault = .unterminatedQuote quote := by
  rw [Transcript.callAll_fresh] at failed
  have fails := Transcript.words_of_call_failed (Transcript.ofCalls_sound dialect calls) failed
  rcases Dialect.exists_place_of_words fails with ⟨before, c, after, -, -, blames, -⟩
  cases fault : failure.fault with
  | unterminatedQuote quote => exact ⟨quote, rfl⟩
  | danglingEscape =>
      rw [fault] at blames
      cases leaderless.symm.trans blames
  | unrecognizedEscape char =>
      rw [fault] at blames
      cases leaderless.symm.trans blames
  | other message =>
      rw [fault] at blames
      cases blames

/--
Splitters of two dialects without a leader whose quotes have the same closers hold
the same after the same calls, but for the modes of quotations, whatever these
modes are and whatever escapes would stand for.  They answer every call alike, and
the only failure that they ever answer with is an unterminated quote.
-/
theorem leaderless_sessions_agree
    (alike : dialect.LeaderlessAlike other) (calls : List Call) :
    (fresh.callAll dialect calls).forgetMode = (fresh.callAll other calls).forgetMode ∧
    ∀ request,
      ((fresh.callAll dialect calls).call dialect request).2 =
        ((fresh.callAll other calls).call other request).2 ∧
      ∀ failure, ((fresh.callAll dialect calls).call dialect request).2 =
          .error (.failed failure) →
        ∃ quote, failure.fault = .unterminatedQuote quote := by
  have abreast := (fresh_abreast dialect other).callAll alike calls
  refine ⟨abreast.forgetMode_eq, ?_⟩
  intro request
  refine ⟨(abreast.call alike request).2, ?_⟩
  intro failure failed
  exact unterminatedQuote_of_leaderless alike.leaderless failed

/-- Modes are exchanged and escapes stand for other characters; the backslash is plain. -/
theorem leaderless_sessions_agree_on_backslash :
    let dialect := { Dialect.shell with leader := none }
    let other : Dialect :=
      { quotes := .ofList
          [('"', ⟨'"', .ignoreEscapes⟩), ('\'', ⟨'\'', .parseEscapes⟩)]
        escapes := Style.cEscapes }
    let calls : List Call := [.text "a \"b\\".toList, .piece []]
    let failure : Failure :=
      ⟨.unterminatedQuote ['"'], ⟨1, 3, 2⟩, "a \"b\\".toList, 1, 1⟩
    dialect.LeaderlessAlike other ∧
      (fresh.callAll dialect calls).forgetMode = (fresh.callAll other calls).forgetMode ∧
      ((fresh.callAll dialect calls).call dialect .finish).2 = .error (.failed failure) ∧
      ((fresh.callAll other calls).call other .finish).2 = .error (.failed failure) := by
  intro dialect other calls failure
  have closers (c : Char) : (dialect.quotes.get? c).map QuoteRule.close =
      (other.quotes.get? c).map QuoteRule.close := by
    simp only [dialect, other, Dialect.shell, Style.dialect, Table.ofList, List.foldl_cons,
      List.foldl_nil, Table.get?_insert]
    by_cases double : c = '"'
    · rw [double]
      rfl
    · rw [if_neg double, if_neg double]
      split <;> rfl
  have alike : dialect.LeaderlessAlike other := ⟨rfl, rfl, closers⟩
  have failed : ((fresh.callAll dialect calls).call dialect .finish).2 =
      .error (.failed failure) := by
    decide
  rcases leaderless_sessions_agree alike calls with ⟨same, answers⟩
  exact ⟨alike, same, failed, (answers .finish).1.symm.trans failed⟩

end Splitter
end QuotedWords
