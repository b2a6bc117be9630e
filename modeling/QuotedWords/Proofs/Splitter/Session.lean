import QuotedWords.Splitter.Session
import QuotedWords.Proofs.Splitter.Reading

/-!
# Calls on an open splitter

As long as a splitter has not ended, feeding it a text is reading the text, and
finishing it is concluding the input.
-/

namespace QuotedWords
namespace Splitter

variable {dialect : Dialect} {splitter next : Splitter}

theorem step_closed (dialect : Dialect) (splitter : Splitter) (c : Char) :
    (splitter.step dialect c).1.closed =
      (splitter.closed || (splitter.step dialect c).2.isSome) := by
  unfold step
  cases splitter.state.action dialect c splitter.window.next with
  | separate =>
      unfold perform separate
      split <;> simp [flush, advance]
  | openQuote quote => simp [perform, advance]
  | closeQuote => simp [perform, advance]
  | lead resume leader => simp [perform, advance]
  | keep c => simp [perform, emit, advance]
  | replace c resume => simp [perform, emit, advance]
  | reject c leader => simp [perform, fail]

theorem closed_eq_false_of_read {text : Text}
    (opened : splitter.closed = false)
    (reads : splitter.read dialect text = (next, none)) :
    next.closed = false := by
  refine read_invariant (fun _ current => current.closed = false) [] ?_ opened reads
  intro _ current c stepped still steps
  have closed := step_closed dialect current c
  rw [steps, still] at closed
  exact closed

theorem feedText_eq_read (opened : splitter.closed = false) (text : Text) :
    splitter.feedText dialect text =
      ((splitter.read dialect text).1, (splitter.read dialect text).2.map .failed) := by
  unfold feedText
  induction text generalizing splitter with
  | nil => rfl
  | cons c rest ih =>
      rw [List.map_cons, feedPieces, read_cons, feedPiece, opened]
      cases steps : splitter.step dialect c with
      | mk stepped failure =>
          cases failure with
          | none =>
              have reads := (read_singleton dialect splitter c).trans steps
              simpa using ih (closed_eq_false_of_read opened reads)
          | some failure => simp

theorem read_of_fed {text : Text}
    (fed : (fresh.feedText dialect text).2 = none) :
    fresh.read dialect text = ((fresh.feedText dialect text).1, none) := by
  rw [feedText_eq_read rfl] at fed ⊢
  exact Prod.ext rfl (Option.map_eq_none_iff.mp fed)

/-- Only a failure refuses the text with which a fresh splitter is fed. -/
theorem exists_read_of_refused {text : Text} {refusal : Refusal}
    (refused : (fresh.feedText dialect text).2 = some refusal) :
    ∃ last failure, fresh.read dialect text = (last, some failure) ∧
      refusal = .failed failure := by
  rw [feedText_eq_read rfl] at refused
  rcases Option.map_eq_some_iff.mp refused with ⟨failure, stops, rfl⟩
  exact ⟨_, failure, Prod.ext rfl stops, rfl⟩

theorem finish_of_closed (closed : splitter.closed = true) :
    splitter.finish = (splitter, .error .ended) := by
  simp [finish, closed]

theorem finish_eq_conclude (opened : splitter.closed = false) :
    splitter.finish = (splitter.conclude.1, splitter.conclude.2.mapError .failed) := by
  simp [finish, opened]

theorem finish_eq_ok_iff {words : List Text} (opened : splitter.closed = false) :
    splitter.finish.2 = .ok words ↔ splitter.conclude.2 = .ok words := by
  rw [finish_eq_conclude opened]
  cases splitter.conclude.2 with
  | ok found =>
      constructor
      · intro finishes
        cases finishes
        rfl
      · intro concludes
        cases concludes
        rfl
  | error failure => exact ⟨nofun, nofun⟩

theorem fresh_feedText_finish_eq_ok_iff (text : Text) (words : List Text) :
    ((fresh.feedText dialect text).2 = none ∧
      (fresh.feedText dialect text).1.finish.2 = .ok words) ↔
      dialect.words text = .ok words := by
  rw [feedText_eq_read rfl, Dialect.words_eq_wordsOf]
  cases reads : fresh.read dialect text with
  | mk last failure =>
      cases failure with
      | some failure => simp [wordsOf_of_failed reads]
      | none =>
          have still := closed_eq_false_of_read rfl reads
          rw [wordsOf_of_read reads]
          constructor
          · rintro ⟨_, finishes⟩
            exact (finish_eq_ok_iff still).mp finishes
          · intro concludes
            exact ⟨rfl, (finish_eq_ok_iff still).mpr concludes⟩

end Splitter

/-- A fresh splitter reads the text and is in this state after it. -/
def Dialect.LeavesIn (dialect : Dialect) (text : Text) (state : State) : Prop :=
  (Splitter.fresh.feedText dialect text).2 = none ∧
    (Splitter.fresh.feedText dialect text).1.state = state

theorem Dialect.leavesIn_iff {dialect : Dialect} {text : Text} {state : State} :
    dialect.LeavesIn text state ↔
      ∃ splitter, Splitter.fresh.read dialect text = (splitter, none) ∧
        splitter.state = state := by
  constructor
  · rintro ⟨fed, same⟩
    exact ⟨_, Splitter.read_of_fed fed, same⟩
  · rintro ⟨splitter, reads, same⟩
    rw [LeavesIn, Splitter.feedText_eq_read rfl, reads]
    exact ⟨rfl, same⟩

end QuotedWords
