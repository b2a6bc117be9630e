import QuotedWords.Proofs.Splitter.Session
import QuotedWords.Proofs.Grammar.Beginning

/-!
# Reading recognises the grammar

A text that a fresh splitter has read is a beginning of a line, and comes to
what the splitter then holds; conversely every beginning of a line is read, and
leaves the splitter with what it comes to.  The two together make the words of a
text those that the grammar gives to it.
-/

namespace QuotedWords

open Grammar

variable {dialect : Dialect} {splitter next : Splitter} {text : Text}
  {words : List Text} {current : Option Text} {state : State}

/-!
# What has been read is a beginning of a line
-/

/-- What a splitter holds is what the text comes to as a beginning of a line. -/
structure Splitter.Reflects (dialect : Dialect) (text : Text) (splitter : Splitter) :
    Prop where
  next_eq : splitter.window.next = Position.start.afterText text
  beginning : ∃ words current,
    splitter.Holds words current splitter.state ∧
      Beginning dialect text words current splitter.state

theorem Splitter.fresh_reflects (dialect : Dialect) : fresh.Reflects dialect [] :=
  ⟨rfl, [], none, fresh_holds, .nil⟩

theorem Splitter.Reflects.step {c : Char}
    (reflects : splitter.Reflects dialect text)
    (steps : splitter.step dialect c = (next, none)) :
    next.Reflects dialect (text ++ [c]) := by
  rcases reflects with ⟨nextEq, words, current, held, beginning⟩
  have advanced : next.window.next = Position.start.afterText (text ++ [c]) := by
    rw [Position.afterText_append, ← nextEq, ← show _ = next from congrArg Prod.fst steps]
    exact step_next dialect splitter c
  refine ⟨advanced, ?_⟩
  rcases held.exists_moves steps with ⟨more, further, after, holds, moves⟩
  rw [nextEq] at moves
  rw [holds.state_eq]
  refine ⟨more, further, holds, ?_⟩
  generalize splitter.state = state at beginning moves
  cases moves with
  | blank blank => exact beginning.append_blank blank
  | opener notBlank opens => exact beginning.append_opener notBlank opens
  | closer closes =>
      subst closes
      exact beginning.append_closer
  | leader leads => exact beginning.escaping leads
  | plain plain => exact beginning.append_piece (Piece.plain plain)
  | escaped resolves => exact beginning.append_escaped resolves

theorem Splitter.reflects_of_read
    (reads : fresh.read dialect text = (next, none)) :
    next.Reflects dialect text :=
  read_invariant (fun front current => current.Reflects dialect front) []
    (fun _ _ _ _ reflects steps => reflects.step steps) (fresh_reflects dialect) reads

/-!
# Every beginning of a line is read
-/

namespace Splitter

/-- The text is read without failure, and this is what is held after it. -/
def ReadsTo (dialect : Dialect) (splitter : Splitter) (text : Text) (words : List Text)
    (current : Option Text) (state : State) : Prop :=
  ∃ next, splitter.read dialect text = (next, none) ∧ next.Holds words current state

theorem Holds.readsTo_nil (held : splitter.Holds words current state)
    (dialect : Dialect) :
    splitter.ReadsTo dialect [] words current state :=
  ⟨splitter, rfl, held⟩

theorem readsTo_cons {c : Char}
    (steps : splitter.step dialect c = (next, none))
    (rest : next.ReadsTo dialect text words current state) :
    splitter.ReadsTo dialect (c :: text) words current state := by
  rcases rest with ⟨last, reads, held⟩
  refine ⟨last, ?_, held⟩
  rw [read_cons, steps]
  exact reads

theorem ReadsTo.append {second : Text} {more : List Text} {further : Option Text}
    {after : State}
    (front : splitter.ReadsTo dialect text words current state)
    (back : ∀ middle : Splitter,
      middle.window.next = splitter.window.next.afterText text →
      middle.Holds words current state →
      middle.ReadsTo dialect second more further after) :
    splitter.ReadsTo dialect (text ++ second) more further after := by
  rcases front with ⟨middle, reads, held⟩
  rcases back middle (read_next reads) held with ⟨last, continues, ends⟩
  exact ⟨last, (read_append_of_read second reads).trans continues, ends⟩

theorem ReadsTo.wordsOf
    (reads : splitter.ReadsTo dialect text words current (.within .bare)) :
    splitter.wordsOf dialect text = .ok (words ++ current.toList) := by
  rcases reads with ⟨last, reads, held⟩
  rw [wordsOf_of_read reads, held.conclude_bare]

namespace Holds

theorem reads_inside {quote : OpenQuote} {rule : QuoteRule} {word value : Text}
    (held : splitter.Holds words (some word) (.within (.quoted quote)))
    (content : Inside dialect rule text value)
    (same : quote.rule = rule) :
    splitter.ReadsTo dialect text words (some (word ++ value))
      (.within (.quoted quote)) := by
  subst same
  induction content generalizing splitter word with
  | nil => simpa using held.readsTo_nil dialect
  | @plain c _ value notClose notLeader _ ih =>
      rcases held.step dialect c (.plain ⟨notClose, notLeader⟩) with
        ⟨stepped, steps, holds⟩
      simpa using readsTo_cons steps (ih holds)
  | @escape leader c meant _ value mode leads notClose resolves _ ih =>
      rcases held.step dialect leader (.leader ⟨notClose, mode, leads⟩) with
        ⟨pending, leading, waits⟩
      rcases waits.step dialect c (.escaped resolves) with ⟨stepped, steps, holds⟩
      simpa using readsTo_cons leading (readsTo_cons steps (ih holds))

theorem reads_segment {value : Text}
    (held : splitter.Holds words current (.within .bare))
    (segment : Segment dialect text value) :
    splitter.ReadsTo dialect text words (some (current.getD [] ++ value))
      (.within .bare) := by
  cases segment with
  | @plain c notBlank notOpener notLeader =>
      rcases held.step dialect c (.plain ⟨notBlank, notOpener, notLeader⟩) with
        ⟨stepped, steps, holds⟩
      exact readsTo_cons steps (holds.readsTo_nil dialect)
  | @escape leader c meant notBlank notOpener leads resolves =>
      rcases held.step dialect leader (.leader ⟨notBlank, notOpener, leads⟩) with
        ⟨pending, leading, waits⟩
      rcases waits.step dialect c (.escaped resolves) with ⟨stepped, steps, holds⟩
      exact readsTo_cons leading (readsTo_cons steps (holds.readsTo_nil dialect))
  | quotation notBlank opens content =>
      rcases held.step dialect _ (.opener notBlank opens) with ⟨opened, steps, holds⟩
      refine readsTo_cons steps ((holds.reads_inside content rfl).append ?_)
      intro middle _ filled
      rcases filled.step dialect _ (.closer rfl) with ⟨closed, closing, ends⟩
      exact readsTo_cons closing (ends.readsTo_nil dialect)

theorem reads_word {value : Text}
    (held : splitter.Holds words current (.within .bare))
    (word : Word dialect text value) :
    splitter.ReadsTo dialect text words (some (current.getD [] ++ value))
      (.within .bare) := by
  induction word generalizing splitter current with
  | segment segment => exact held.reads_segment segment
  | cons segment _ ih =>
      refine (held.reads_segment segment).append ?_
      intro middle _ holds
      simpa using ih holds

theorem reads_blank {c : Char}
    (held : splitter.Holds words current (.within .bare))
    (blank : Text.isBlank c = true) :
    splitter.ReadsTo dialect [c] (words ++ current.toList) none (.within .bare) := by
  rcases held.step dialect c (.blank blank) with ⟨stepped, steps, holds⟩
  exact readsTo_cons steps (holds.readsTo_nil dialect)

end Holds

theorem fresh_readsTo_of_ended
    (ended : Ended dialect text words) :
    fresh.ReadsTo dialect text words none (.within .bare) := by
  induction ended with
  | nil => exact fresh_holds.readsTo_nil dialect
  | blank _ blank ih =>
      refine ih.append ?_
      intro middle _ held
      simpa using held.reads_blank blank
  | word _ word blank ih =>
      refine (ih.append fun middle _ held => held.reads_word word).append ?_
      intro middle _ held
      exact held.reads_blank blank

/-- Every beginning of a line is read, and leaves what it comes to. -/
theorem fresh_readsTo_of_beginning
    (beginning : Beginning dialect text words current state) :
    fresh.ReadsTo dialect text words current state := by
  induction beginning with
  | bare ended begun =>
      refine (fresh_readsTo_of_ended ended).append ?_
      intro middle _ held
      cases begun with
      | none => exact held.readsTo_nil dialect
      | word word => exact held.reads_word word
  | @quoted text inside value words current quote _ notBlank opens start content ih =>
      refine ih.append ?_
      intro middle nextEq held
      rcases held.step dialect _ (.opener notBlank opens) with ⟨opened, steps, holds⟩
      have same : (⟨quote.close, quote.mode, quote.opener, middle.window.next⟩ : OpenQuote) =
          quote := by
        rw [nextEq]
        cases quote
        exact congrArg _ start.symm
      simp only [OpenQuote.rule, same] at holds
      exact readsTo_cons steps (holds.reads_inside content rfl)
  | escaping _ leads ih =>
      refine ih.append ?_
      intro middle nextEq held
      rcases held.step dialect _ (.leader leads) with ⟨pending, steps, holds⟩
      rw [nextEq] at holds
      exact readsTo_cons steps (holds.readsTo_nil dialect)

end Splitter

theorem Dialect.leavesIn_of_beginning
    (beginning : Beginning dialect text words current state) :
    dialect.LeavesIn text state := by
  rcases Splitter.fresh_readsTo_of_beginning beginning with ⟨last, reads, held⟩
  unfold LeavesIn
  rw [Splitter.feedText_eq_read rfl, reads]
  exact ⟨rfl, held.state_eq⟩

/-!
# The words of a text are those of the grammar
-/

/-- A text has words exactly when it is a line, and they are those of the line. -/
theorem Dialect.words_eq_ok_iff (dialect : Dialect) (text : Text) (words : List Text) :
    dialect.words text = .ok words ↔ Line dialect text words := by
  rw [Dialect.words_eq_wordsOf]
  constructor
  · intro found
    cases reading : Splitter.fresh.read dialect text with
    | mk last failure =>
        cases failure with
        | none =>
            rw [Splitter.wordsOf_of_read reading] at found
            rcases Splitter.reflects_of_read reading with
              ⟨_, complete, unfinished, held, beginning⟩
            have bare := Splitter.state_of_conclude_eq_ok found
            rw [bare] at held beginning
            cases held.conclude_bare.symm.trans found
            exact beginning.line
        | some failure =>
            rw [Splitter.wordsOf_of_failed reading] at found
            cases found
  · intro line
    rcases line.beginning with ⟨complete, unfinished, beginning, rfl⟩
    exact (Splitter.fresh_readsTo_of_beginning beginning).wordsOf

/--
A splitter that is fed a text and finished accepts exactly the lines of the
grammar and answers with what they stand for; no text stands for two lists of
words.
-/
theorem Splitter.fresh_accepts_exactly_lines (dialect : Dialect) (text : Text) :
    (∀ words,
      ((fresh.feedText dialect text).2 = none ∧
        (fresh.feedText dialect text).1.finish.2 = .ok words) ↔
          Line dialect text words) ∧
      ∀ words others,
        Line dialect text words → Line dialect text others → words = others := by
  constructor
  · intro words
    rw [fresh_feedText_finish_eq_ok_iff, Dialect.words_eq_ok_iff]
  · intro words others line other
    have found := (dialect.words_eq_ok_iff text words).mpr line
    have again := (dialect.words_eq_ok_iff text others).mpr other
    exact Except.ok.inj (found.symm.trans again)

/-- An escaped blank is part of a word, and a quotation without content is one. -/
theorem line_of_escaped_blank_and_empty_quotation :
    Line Dialect.shell " a\\ b ''".toList ["a b".toList, []] :=
  ((Splitter.fresh_accepts_exactly_lines Dialect.shell " a\\ b ''".toList).1 _).mp
    ⟨by decide, by decide⟩

end QuotedWords
