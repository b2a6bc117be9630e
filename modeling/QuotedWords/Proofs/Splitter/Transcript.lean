import Mathlib.Data.List.Induction
import QuotedWords.Splitter.Transcript
import QuotedWords.Proofs.Splitter.Session

/-!
# Sessions and their transcripts

Whatever is called on a splitter, and whatever is refused, the splitter ends as
one that has read the characters of the transcript.  A transcript is sound: all
its characters but the last have been read without failure, so what every step
of a reading keeps holds of every splitter that a session can reach.
-/

namespace QuotedWords

namespace Splitter

variable {dialect : Dialect} {splitter next : Splitter}

/-!
# Closed splitters
-/

theorem separate_window (splitter : Splitter) :
    splitter.separate.window = splitter.window := by
  unfold separate
  split <;> rfl

theorem separate_state (splitter : Splitter) :
    splitter.separate.state = splitter.state := by
  unfold separate
  split <;> rfl

theorem conclude_closed (splitter : Splitter) : splitter.conclude.1.closed = true := by
  unfold conclude
  split
  · rfl
  · rfl
  · unfold separate
    split <;> rfl

theorem read_closed (dialect : Dialect) (splitter : Splitter) (text : Text) :
    (splitter.read dialect text).1.closed =
      (splitter.closed || (splitter.read dialect text).2.isSome) := by
  induction text generalizing splitter with
  | nil => simp
  | cons c rest ih =>
      have stepped := step_closed dialect splitter c
      rw [read_cons]
      cases steps : splitter.step dialect c with
      | mk next failure =>
          rw [steps] at stepped
          cases failure with
          | none =>
              have same : next.closed = splitter.closed := by simpa using stepped
              rw [← same]
              exact ih next
          | some failure => exact stepped

/-!
# Feeding one piece
-/

theorem feedPiece_of_closed (closed : splitter.closed = true) (piece : Text) :
    splitter.feedPiece dialect piece = (splitter, some .ended) := by
  simp [feedPiece, closed]

theorem feedPiece_single (dialect : Dialect) (opened : splitter.closed = false)
    (c : Char) :
    splitter.feedPiece dialect [c] =
      ((splitter.step dialect c).1, (splitter.step dialect c).2.map .failed) := by
  simp [feedPiece, opened]

theorem feedPiece_of_not_single {piece : Text} (opened : splitter.closed = false)
    (single : ∀ c, piece ≠ [c]) :
    splitter.feedPiece dialect piece = (splitter, some (.notSingle piece)) := by
  unfold feedPiece
  rw [opened]
  match piece, single with
  | [], _ => rfl
  | [c], single => exact absurd rfl (single c)
  | _ :: _ :: _, _ => rfl

theorem feedPieces_cons_of_fed {piece : Text} (rest : List Text)
    (fed : splitter.feedPiece dialect piece = (next, none)) :
    splitter.feedPieces dialect (piece :: rest) = next.feedPieces dialect rest := by
  rw [feedPieces, fed]

theorem feedPieces_cons_of_refused {piece : Text} {refusal : Refusal} (rest : List Text)
    (refused : splitter.feedPiece dialect piece = (next, some refusal)) :
    splitter.feedPieces dialect (piece :: rest) = (next, some refusal) := by
  rw [feedPieces, refused]

theorem feedPieces_singleton (dialect : Dialect) (splitter : Splitter) (piece : Text) :
    splitter.feedPieces dialect [piece] = splitter.feedPiece dialect piece := by
  cases fed : splitter.feedPiece dialect piece with
  | mk next refusal =>
      cases refusal with
      | none => exact feedPieces_cons_of_fed [] fed
      | some refusal => exact feedPieces_cons_of_refused [] fed

/-- The pieces that a call feeds; the one that finishes the input feeds none. -/
def Call.fedPieces : Call → List Text
  | .piece fed => [fed]
  | .pieces fed => fed
  | .text fed => fed.map fun c => [c]
  | .line fed => (Text.trim fed).map fun c => [c]
  | .finish => []

theorem call_fed_fst (came : Splitter × Option Refusal) :
    (call.fed came).1 = came.1 := by
  rcases came with ⟨next, _ | refusal⟩ <;> rfl

end Splitter

namespace Transcript

open Splitter

variable {dialect : Dialect} {transcript : Transcript}

/-!
# Taking characters
-/

/-- All characters but the last have been read; the last as well before an end. -/
structure Sound (dialect : Dialect) (transcript : Transcript) : Prop where
  read_before : ∀ front c rest, transcript.taken = front ++ c :: rest →
    (fresh.read dialect front).2 = none
  read_ended : transcript.ended = true → (fresh.read dialect transcript.taken).2 = none

theorem sound_empty (dialect : Dialect) : Sound dialect {} :=
  ⟨fun front _ _ parts => by simp at parts, nofun⟩

theorem takesMore_iff :
    transcript.takesMore dialect = true ↔
      transcript.ended = false ∧ (fresh.read dialect transcript.taken).2 = none := by
  simp [takesMore]

theorem splitter_closed (dialect : Dialect) (transcript : Transcript) :
    (transcript.splitter dialect).closed = !transcript.takesMore dialect := by
  unfold splitter takesMore
  cases transcript.ended with
  | true => simp [conclude_closed]
  | false => simp [read_closed, fresh, Option.not_isNone]

/-- The transcript with one more character. -/
def take (transcript : Transcript) (c : Char) : Transcript :=
  { transcript with taken := transcript.taken ++ [c] }

theorem read_taken (takes : transcript.takesMore dialect = true) :
    fresh.read dialect transcript.taken = (transcript.splitter dialect, none) := by
  rcases takesMore_iff.mp takes with ⟨going, reads⟩
  apply Prod.ext
  · simp [splitter, going]
  · exact reads

theorem read_take (takes : transcript.takesMore dialect = true) (c : Char) :
    fresh.read dialect (transcript.take c).taken =
      (transcript.splitter dialect).step dialect c := by
  rw [take, read_append_of_read [c] (read_taken takes), read_singleton]

theorem splitter_take (takes : transcript.takesMore dialect = true) (c : Char) :
    (transcript.take c).splitter dialect =
      ((transcript.splitter dialect).step dialect c).1 := by
  rw [← read_take takes]
  simp [splitter, take, (takesMore_iff.mp takes).1]

theorem Sound.take (sound : transcript.Sound dialect)
    (takes : transcript.takesMore dialect = true) (c : Char) :
    (transcript.take c).Sound dialect := by
  rcases takesMore_iff.mp takes with ⟨going, reads⟩
  constructor
  · intro front other rest parts
    -- The part before the new character is all that was taken, or less than that.
    cases rest using List.reverseRecOn with
    | nil =>
        rcases List.append_inj' parts rfl with ⟨rfl, -⟩
        exact reads
    | append_singleton rest last =>
        rw [← List.cons_append, ← List.append_assoc] at parts
        exact sound.read_before front other rest (List.append_inj' parts rfl).1
  · intro ended
    exact absurd (going.symm.trans ended) Bool.false_ne_true

/-!
# Pieces
-/

theorem takePieces_of_stopped (stopped : transcript.takesMore dialect = false)
    (pieces : List Text) :
    transcript.takePieces dialect pieces = transcript := by
  unfold takePieces
  split
  · simp [stopped]
  · rfl

theorem takePieces_cons (takes : transcript.takesMore dialect = true) (c : Char)
    (rest : List Text) :
    transcript.takePieces dialect ([c] :: rest) =
      (transcript.take c).takePieces dialect rest := by
  rw [takePieces, if_pos takes]
  rfl

theorem takePieces_of_not_single {piece : Text} (single : ∀ c, piece ≠ [c])
    (rest : List Text) :
    transcript.takePieces dialect (piece :: rest) = transcript := by
  unfold takePieces
  split
  next c others same => exact absurd (List.cons.inj same).1 (single c)
  next => rfl

/-- What a transcript owes to a session that has come to a splitter and an answer. -/
structure Follows (dialect : Dialect) (transcript : Transcript)
    (came : Splitter × Option Refusal) : Prop where
  splitter_eq : came.1 = transcript.splitter dialect
  sound : transcript.Sound dialect
  words_eq : ∀ failure, came.2 = some (.failed failure) →
    dialect.words transcript.taken = .error failure

theorem Sound.follows (sound : transcript.Sound dialect) {refusal : Option Refusal}
    (unfailed : ∀ failure, refusal ≠ some (.failed failure)) :
    transcript.Follows dialect (transcript.splitter dialect, refusal) :=
  ⟨rfl, sound, fun failure same => absurd same (unfailed failure)⟩

theorem Sound.follows_step (sound : transcript.Sound dialect)
    (takes : transcript.takesMore dialect = true) {c : Char} {next : Splitter}
    {failure : Failure}
    (steps : (transcript.splitter dialect).step dialect c = (next, some failure)) :
    (transcript.take c).takesMore dialect = false ∧
      (transcript.take c).Follows dialect (next, some (.failed failure)) := by
  have reads := (read_take takes c).trans steps
  constructor
  · simp [takesMore, reads]
  · refine ⟨?_, sound.take takes c, ?_⟩
    · rw [splitter_take takes, steps]
    · rintro _ ⟨⟩
      rw [Dialect.words_eq_wordsOf, wordsOf_of_failed reads]

theorem takePieces_follows (sound : transcript.Sound dialect) (pieces : List Text) :
    (transcript.takePieces dialect pieces).Follows dialect
      ((transcript.splitter dialect).feedPieces dialect pieces) := by
  induction pieces generalizing transcript with
  | nil => exact sound.follows nofun
  | cons piece rest ih =>
      have closed := splitter_closed dialect transcript
      cases takes : transcript.takesMore dialect with
      | false =>
          rw [takes] at closed
          rw [takePieces_of_stopped takes,
            feedPieces_cons_of_refused rest (feedPiece_of_closed closed piece)]
          exact sound.follows nofun
      | true =>
          rw [takes] at closed
          by_cases single : ∃ c, piece = [c]
          · rcases single with ⟨c, rfl⟩
            have fed := feedPiece_single dialect closed c
            rw [takePieces_cons takes]
            cases steps : (transcript.splitter dialect).step dialect c with
            | mk next failure =>
                rw [steps] at fed
                cases failure with
                | none =>
                    have taken := splitter_take takes c
                    rw [steps] at taken
                    rw [feedPieces_cons_of_fed rest fed, ← taken]
                    exact ih (sound.take takes c)
                | some failure =>
                    rcases sound.follows_step takes steps with ⟨stopped, follows⟩
                    rw [takePieces_of_stopped stopped,
                      feedPieces_cons_of_refused rest fed]
                    exact follows
          · have several : ∀ c, piece ≠ [c] := fun c same => single ⟨c, same⟩
            rw [takePieces_of_not_single several,
              feedPieces_cons_of_refused rest (feedPiece_of_not_single closed several)]
            exact sound.follows nofun

/-!
# Calls
-/

theorem call_eq_fed (dialect : Dialect) (splitter : Splitter) {request : Splitter.Call}
    (feeds : request ≠ .finish) :
    splitter.call dialect request =
      Splitter.call.fed (splitter.feedPieces dialect request.fedPieces) := by
  cases request with
  | piece piece =>
      rw [Splitter.Call.fedPieces, feedPieces_singleton]
      rfl
  | pieces pieces => rfl
  | text text => rfl
  | line line => rfl
  | finish => exact absurd rfl feeds

theorem call_eq_takePieces (dialect : Dialect) (transcript : Transcript)
    {request : Splitter.Call}
    (feeds : request ≠ .finish) :
    transcript.call dialect request = transcript.takePieces dialect request.fedPieces := by
  cases request with
  | piece piece => rfl
  | pieces pieces => rfl
  | text text => rfl
  | line line => rfl
  | finish => exact absurd rfl feeds

theorem call_finish_of_takes (takes : transcript.takesMore dialect = true) :
    transcript.call dialect .finish = { transcript with ended := true } :=
  if_pos takes

theorem call_finish_of_stopped (stopped : transcript.takesMore dialect = false) :
    transcript.call dialect .finish = transcript := by
  simp [call, stopped]

theorem Sound.call (sound : transcript.Sound dialect) (request : Splitter.Call) :
    (transcript.call dialect request).Sound dialect := by
  by_cases feeds : request = .finish
  · subst feeds
    cases takes : transcript.takesMore dialect with
    | true =>
        rw [call_finish_of_takes takes]
        exact ⟨sound.read_before, fun _ => (takesMore_iff.mp takes).2⟩
    | false =>
        rw [call_finish_of_stopped takes]
        exact sound
  · rw [call_eq_takePieces dialect transcript feeds]
    exact (takePieces_follows sound request.fedPieces).sound

theorem splitter_call (sound : transcript.Sound dialect) (request : Splitter.Call) :
    ((transcript.splitter dialect).call dialect request).1 =
      (transcript.call dialect request).splitter dialect := by
  by_cases feeds : request = .finish
  · subst feeds
    have closed := splitter_closed dialect transcript
    change (transcript.splitter dialect).finish.1 = _
    cases takes : transcript.takesMore dialect with
    | true =>
        rw [takes] at closed
        rw [call_finish_of_takes takes, finish_eq_conclude closed]
        simp [splitter, (takesMore_iff.mp takes).1]
    | false =>
        rw [takes] at closed
        rw [call_finish_of_stopped takes, finish_of_closed closed]
  · rw [call_eq_fed dialect _ feeds, call_eq_takePieces dialect transcript feeds, call_fed_fst]
    exact (takePieces_follows sound request.fedPieces).splitter_eq

/-- The failure that a call answers with is that of the text taken with the call. -/
theorem words_of_call_failed (sound : transcript.Sound dialect) {request : Splitter.Call}
    {failure : Failure}
    (failed : ((transcript.splitter dialect).call dialect request).2 =
      .error (.failed failure)) :
    dialect.words (transcript.call dialect request).taken = .error failure := by
  by_cases feeds : request = .finish
  · subst feeds
    have closed := splitter_closed dialect transcript
    change (transcript.splitter dialect).finish.2.map some = _ at failed
    cases takes : transcript.takesMore dialect with
    | true =>
        rw [takes] at closed
        rw [finish_eq_conclude closed] at failed
        rw [call_finish_of_takes takes, Dialect.words_eq_wordsOf,
          wordsOf_of_read (read_taken takes)]
        cases concludes : (transcript.splitter dialect).conclude.2 with
        | ok words =>
            rw [concludes] at failed
            cases failed
        | error other =>
            rw [concludes] at failed
            cases failed
            rfl
    | false =>
        rw [takes] at closed
        rw [finish_of_closed closed] at failed
        cases failed
  · rw [call_eq_takePieces dialect transcript feeds]
    apply (takePieces_follows sound request.fedPieces).words_eq
    rw [call_eq_fed dialect _ feeds] at failed
    cases came : (transcript.splitter dialect).feedPieces dialect request.fedPieces with
    | mk next refusal =>
        rw [came] at failed
        cases refusal with
        | none => cases failed
        | some refusal =>
            cases failed
            rfl

theorem foldl_call_sound (sound : transcript.Sound dialect) (calls : List Splitter.Call) :
    (calls.foldl (call dialect) transcript).Sound dialect := by
  induction calls generalizing transcript with
  | nil => exact sound
  | cons request rest ih => exact ih (sound.call request)

theorem callAll_splitter (sound : transcript.Sound dialect) (calls : List Splitter.Call) :
    (transcript.splitter dialect).callAll dialect calls =
      (calls.foldl (call dialect) transcript).splitter dialect := by
  induction calls generalizing transcript with
  | nil => rfl
  | cons request rest ih =>
      change Splitter.callAll dialect
        ((transcript.splitter dialect).call dialect request).1 rest = _
      rw [splitter_call sound]
      exact ih (sound.call request)

theorem ofCalls_sound (dialect : Dialect) (calls : List Splitter.Call) :
    (ofCalls dialect calls).Sound dialect :=
  foldl_call_sound (sound_empty dialect) calls

theorem ofCalls_append_singleton (dialect : Dialect) (calls : List Splitter.Call)
    (request : Splitter.Call) :
    ofCalls dialect (calls ++ [request]) = (ofCalls dialect calls).call dialect request := by
  simp [ofCalls]

/-- Whatever has been called, the splitter is that of the transcript of the calls. -/
theorem callAll_fresh (dialect : Dialect) (calls : List Splitter.Call) :
    fresh.callAll dialect calls = (ofCalls dialect calls).splitter dialect :=
  callAll_splitter (sound_empty dialect) calls

/-!
# What every step keeps
-/

/-- What every step of a reading keeps holds of what has been taken, a failure included. -/
theorem Sound.invariant (Invariant : Text → Splitter → Prop)
    (sound : transcript.Sound dialect)
    (initially : Invariant [] fresh)
    (kept : ∀ front current c, fresh.read dialect front = (current, none) →
      Invariant front current → Invariant (front ++ [c]) (current.step dialect c).1) :
    Invariant transcript.taken (fresh.read dialect transcript.taken).1 := by
  have before := sound.read_before
  generalize transcript.taken = taken at before
  cases taken using List.reverseRecOn with
  | nil => exact initially
  | append_singleton front c =>
      have reads : fresh.read dialect front = ((fresh.read dialect front).1, none) :=
        Prod.ext rfl (before front c [] rfl)
      -- Reading may stop at the last character only, so before it no step fails.
      have carried : fresh.read dialect front = ((fresh.read dialect front).1, none) ∧
          Invariant front (fresh.read dialect front).1 := by
        refine read_invariant
          (fun front current => fresh.read dialect front = (current, none) ∧
            Invariant front current) [] ?_ ⟨rfl, initially⟩ reads
        rintro front current c stepped ⟨reads, holds⟩ steps
        constructor
        · rw [read_append_of_read [c] reads, read_singleton, steps]
        · have next := kept front current c reads holds
          rw [steps] at next
          exact next
      rw [read_append_of_read [c] reads, read_singleton]
      exact kept front _ c reads carried.2

end Transcript
end QuotedWords
