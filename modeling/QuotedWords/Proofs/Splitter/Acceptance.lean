import QuotedWords.Proofs.Splitter.Coherence

/-!
# What a session accepts

An open splitter accepts what it is fed up to the first piece that is refused; of
a character that makes reading fail it takes note as well.  A splitter that has
ended accepts nothing.  So a session can be repeated without its refusals: the
accepted characters, one after the other, lead to the same splitter.
-/

namespace QuotedWords
namespace Splitter

variable {dialect : Dialect} {splitter next : Splitter} {pieces : List Text}
  {accepted text : Text} {came : Splitter × Option Refusal}

/-!
# Pieces
-/

/-- The characters of some pieces that are accepted, and what comes of feeding them. -/
inductive Accepts (dialect : Dialect) (splitter : Splitter) :
    List Text → Text → Splitter × Option Refusal → Prop where
  | nothing : Accepts dialect splitter [] [] (splitter, none)
  | ended {piece : Text} {rest : List Text}
      (closed : splitter.closed = true) :
      Accepts dialect splitter (piece :: rest) [] (splitter, some .ended)
  | all {text : Text} {next : Splitter}
      (opened : splitter.closed = false)
      (reads : splitter.read dialect text = (next, none))
      (still : next.closed = false) :
      Accepts dialect splitter (text.map fun c => [c]) text (next, none)
  /-- A piece that is no single character is refused, and the splitter stays open. -/
  | notSingle {text piece : Text} {rest : List Text} {next : Splitter}
      (opened : splitter.closed = false)
      (reads : splitter.read dialect text = (next, none))
      (still : next.closed = false)
      (several : ∀ c, piece ≠ [c]) :
      Accepts dialect splitter ((text.map fun c => [c]) ++ piece :: rest) text
        (next, some (.notSingle piece))
  /-- An escape that stands for nothing is accepted, and the splitter has ended with it. -/
  | failed {text : Text} {c : Char} {rest : List Text} {middle next : Splitter}
      {failure : Failure}
      (opened : splitter.closed = false)
      (reads : splitter.read dialect text = (middle, none))
      (steps : middle.step dialect c = (next, some failure))
      (fault : failure.fault = .unrecognizedEscape [c])
      (closed : next.closed = true) :
      Accepts dialect splitter ((text.map fun c => [c]) ++ [c] :: rest) (text ++ [c])
        (next, some (.failed failure))

theorem closed_of_step
    (opened : splitter.closed = false) {c : Char}
    (steps : splitter.step dialect c = (next, none)) :
    next.closed = false :=
  closed_eq_false_of_read opened ((read_singleton dialect splitter c).trans steps)

theorem step_failed {c : Char} {failure : Failure}
    (steps : splitter.step dialect c = (next, some failure)) :
    failure.fault = .unrecognizedEscape [c] ∧ next.closed = true := by
  rcases step_failed_iff.mp steps with ⟨resume, leader, -, -, failed⟩
  cases failed
  exact ⟨rfl, rfl⟩

theorem Accepts.cons {c : Char}
    (accepts : Accepts dialect next pieces accepted came)
    (opened : splitter.closed = false)
    (steps : splitter.step dialect c = (next, none)) :
    Accepts dialect splitter ([c] :: pieces) (c :: accepted) came := by
  have reads {text : Text} {last : Splitter}
      (later : next.read dialect text = (last, none)) :
      splitter.read dialect (c :: text) = (last, none) := by
    rw [read_cons, steps]
    exact later
  cases accepts with
  | nothing =>
      exact @Accepts.all dialect splitter [c] next opened (reads rfl)
        (closed_of_step opened steps)
  | ended closed => cases (closed_of_step opened steps).symm.trans closed
  | @all _ last _ later still =>
      exact @Accepts.all dialect splitter (c :: accepted) last opened (reads later) still
  | @notSingle _ piece rest last _ later still several =>
      exact @Accepts.notSingle dialect splitter (c :: accepted) piece rest last opened
        (reads later) still several
  | @failed text d rest middle last failure _ later stops fault closed =>
      exact @Accepts.failed dialect splitter (c :: text) d rest middle last failure opened
        (reads later) stops fault closed

/-- Of any pieces some characters are accepted. -/
theorem exists_accepts (dialect : Dialect) (splitter : Splitter) (pieces : List Text) :
    ∃ accepted, Accepts dialect splitter pieces accepted
      (splitter.feedPieces dialect pieces) := by
  induction pieces generalizing splitter with
  | nil => exact ⟨[], .nothing⟩
  | cons piece rest ih =>
      cases closed : splitter.closed with
      | true =>
          rw [feedPieces_cons_of_refused rest (feedPiece_of_closed closed piece)]
          exact ⟨[], .ended closed⟩
      | false =>
          by_cases single : ∃ c, piece = [c]
          · rcases single with ⟨c, rfl⟩
            have fed := feedPiece_single dialect closed c
            cases steps : splitter.step dialect c with
            | mk next failure =>
                rw [steps] at fed
                cases failure with
                | none =>
                    rw [feedPieces_cons_of_fed rest fed]
                    rcases ih next with ⟨accepted, accepts⟩
                    exact ⟨c :: accepted, accepts.cons closed steps⟩
                | some failure =>
                    rw [feedPieces_cons_of_refused rest fed]
                    rcases step_failed steps with ⟨fault, ends⟩
                    exact ⟨[c], @Accepts.failed dialect splitter [] c rest splitter next
                      failure closed rfl steps fault ends⟩
          · have several : ∀ c, piece ≠ [c] := fun c same => single ⟨c, same⟩
            rw [feedPieces_cons_of_refused rest (feedPiece_of_not_single closed several)]
            exact ⟨[], @Accepts.notSingle dialect splitter [] piece rest splitter closed rfl
              closed several⟩

/-!
# One character at a time
-/

theorem callAll_singles (opened : splitter.closed = false) (text : Text) :
    splitter.callAll dialect (text.map fun c => .piece [c]) =
      (splitter.read dialect text).1 := by
  induction text generalizing splitter with
  | nil => rfl
  | cons c rest ih =>
      have called : (splitter.call dialect (.piece [c])).1 = (splitter.step dialect c).1 := by
        change (call.fed (splitter.feedPiece dialect [c])).1 = _
        rw [call_fed_fst, feedPiece_single dialect opened]
      change Splitter.callAll dialect (splitter.call dialect (.piece [c])).1 _ = _
      rw [called, read_cons]
      cases steps : splitter.step dialect c with
      | mk next failure =>
          cases failure with
          | none => exact ih (closed_of_step opened steps)
          | some failure => exact callAll_of_closed dialect (step_failed steps).2 _

end Splitter

namespace Transcript

open Splitter

variable {dialect : Dialect} {transcript : Transcript} {pieces : List Text}
  {accepted text : Text} {came : Splitter × Option Refusal} {next : Splitter}

/-- The calls that feed what was taken, one character each, and end the input if it was ended. -/
def calls (transcript : Transcript) : List Call :=
  (transcript.taken.map fun c => .piece [c]) ++ if transcript.ended then [.finish] else []

theorem callAll_calls (sound : transcript.Sound dialect) :
    fresh.callAll dialect transcript.calls = transcript.splitter dialect := by
  rw [calls, callAll_append, callAll_singles rfl, splitter]
  cases ended : transcript.ended with
  | false => rfl
  | true =>
      have reads : fresh.read dialect transcript.taken =
          ((fresh.read dialect transcript.taken).1, none) :=
        Prod.ext rfl (sound.read_ended ended)
      have opened := closed_eq_false_of_read rfl reads
      change (fresh.read dialect transcript.taken).1.finish.1 = _
      rw [finish_eq_conclude opened]
      rfl

/-!
# What is taken is what is accepted
-/

theorem takesMore_of_open (opened : (transcript.splitter dialect).closed = false) :
    transcript.takesMore dialect = true := by
  rw [splitter_closed] at opened
  simpa using opened

theorem takePieces_text
    (opened : (transcript.splitter dialect).closed = false)
    (reads : (transcript.splitter dialect).read dialect text = (next, none))
    (rest : List Text) :
    transcript.takePieces dialect ((text.map fun c => [c]) ++ rest) =
        { transcript with taken := transcript.taken ++ text }.takePieces dialect rest ∧
      { transcript with taken := transcript.taken ++ text }.splitter dialect = next := by
  induction text generalizing transcript with
  | nil =>
      cases reads
      rw [List.append_nil]
      exact ⟨rfl, rfl⟩
  | cons c text ih =>
      have takes := takesMore_of_open opened
      rw [read_cons] at reads
      cases steps : (transcript.splitter dialect).step dialect c with
      | mk stepped failure =>
          rw [steps] at reads
          cases failure with
          | some failure => cases reads
          | none =>
              have taken : (transcript.take c).splitter dialect = stepped := by
                rw [splitter_take takes, steps]
              have later := @ih (transcript.take c)
              rw [taken] at later
              rw [List.map_cons, List.cons_append, takePieces_cons takes,
                ← List.singleton_append, ← List.append_assoc]
              exact later (closed_of_step opened steps) reads

theorem takePieces_of_accepts
    (accepts : Accepts dialect (transcript.splitter dialect) pieces accepted came) :
    transcript.takePieces dialect pieces =
      { transcript with taken := transcript.taken ++ accepted } := by
  cases accepts with
  | nothing =>
      rw [List.append_nil, takePieces]
      intro c rest same
      cases same
  | ended closed =>
      rw [splitter_closed, Bool.not_eq_true'] at closed
      rw [List.append_nil, takePieces_of_stopped closed]
  | all opened reads still =>
      have taken := (takePieces_text opened reads []).1
      rw [List.append_nil] at taken
      rw [taken, takePieces]
      intro c rest same
      cases same
  | @notSingle _ piece rest _ opened reads still several =>
      rw [(takePieces_text opened reads _).1, takePieces_of_not_single several rest]
  | @failed text c rest middle next failure opened reads steps fault closed =>
      rcases takePieces_text opened reads ([c] :: rest) with ⟨taken, reached⟩
      have takes : takesMore dialect
          { transcript with taken := transcript.taken ++ text } = true := by
        apply takesMore_of_open
        rw [reached]
        exact closed_eq_false_of_read opened reads
      have stopped : ({ transcript with taken := transcript.taken ++ text }.take c).takesMore
          dialect = false := by
        have ended := splitter_closed dialect
          ({ transcript with taken := transcript.taken ++ text }.take c)
        rw [splitter_take takes, reached, steps, closed] at ended
        simpa using ended
      rw [taken, takePieces_cons takes, takePieces_of_stopped stopped, take,
        List.append_assoc]

theorem takePieces_ended (transcript : Transcript) (dialect : Dialect)
    (pieces : List Text) :
    (transcript.takePieces dialect pieces).ended = transcript.ended := by
  rcases exists_accepts dialect (transcript.splitter dialect) pieces with ⟨_, accepts⟩
  rw [takePieces_of_accepts accepts]

theorem call_ended_iff {request : Call} :
    (transcript.call dialect request).ended = true ↔
      transcript.ended = true ∨
        request = .finish ∧ (transcript.splitter dialect).closed = false := by
  rw [splitter_closed, Bool.not_eq_false']
  by_cases feeds : request = .finish
  · subst feeds
    cases takes : transcript.takesMore dialect with
    | true => simp [call_finish_of_takes takes]
    | false => simp [call_finish_of_stopped takes]
  · rw [call_eq_takePieces dialect transcript feeds, takePieces_ended]
    simp [feeds]

/-- The input is ended when the end is asked for while the splitter is open. -/
theorem ofCalls_ended_iff {calls : List Call} :
    (ofCalls dialect calls).ended = true ↔
      ∃ before after, calls = before ++ .finish :: after ∧
        (fresh.callAll dialect before).closed = false := by
  induction calls using List.reverseRecOn with
  | nil => simp [ofCalls]
  | append_singleton calls request ih =>
      rw [ofCalls_append_singleton, call_ended_iff, ih, ← callAll_fresh]
      constructor
      · rintro (⟨before, after, rfl, opened⟩ | ⟨rfl, opened⟩)
        · exact ⟨before, after ++ [request], by simp, opened⟩
        · exact ⟨calls, [], rfl, opened⟩
      · rintro ⟨before, after, parts, opened⟩
        cases after using List.reverseRecOn with
        | nil =>
            rcases List.append_inj' parts rfl with ⟨rfl, last⟩
            exact Or.inr ⟨List.singleton_inj.mp last, opened⟩
        | append_singleton after last =>
            rw [← List.cons_append, ← List.append_assoc] at parts
            exact Or.inl ⟨before, after, (List.append_inj' parts rfl).1, opened⟩

end Transcript

namespace Splitter

/--
After any calls, refused or not, the splitter is the one to which the accepted
characters lead, fed one by one and then ended if the input has been ended.  They
are accepted call by call: of what a call feeds, the characters up to the first
piece that is refused, together with one that is a failing escape; and the end
of the input adds none.
-/
theorem session_is_that_of_accepted_characters (dialect : Dialect) (calls : List Call) :
    fresh.callAll dialect calls =
        fresh.callAll dialect (Transcript.ofCalls dialect calls).calls ∧
    ((Transcript.ofCalls dialect calls).ended = true ↔
      ∃ before after, calls = before ++ .finish :: after ∧
        (fresh.callAll dialect before).closed = false) ∧
    (∀ request, request ≠ .finish → ∃ accepted came,
      Accepts dialect (fresh.callAll dialect calls) request.fedPieces accepted came ∧
      (fresh.callAll dialect calls).call dialect request = call.fed came ∧
      (Transcript.ofCalls dialect (calls ++ [request])).taken =
        (Transcript.ofCalls dialect calls).taken ++ accepted) ∧
    (Transcript.ofCalls dialect (calls ++ [.finish])).taken =
        (Transcript.ofCalls dialect calls).taken ∧
    ((fresh.callAll dialect calls).closed = true →
      (fresh.callAll dialect calls).call dialect .finish =
        (fresh.callAll dialect calls, .error .ended)) := by
  have reached := Transcript.callAll_fresh dialect calls
  refine ⟨?_, Transcript.ofCalls_ended_iff, ?_, ?_, ?_⟩
  · rw [Transcript.callAll_calls (Transcript.ofCalls_sound dialect calls)]
    exact reached
  · intro request feeds
    rcases exists_accepts dialect (fresh.callAll dialect calls) request.fedPieces with
      ⟨accepted, accepts⟩
    refine ⟨accepted, _, accepts, Transcript.call_eq_fed dialect _ feeds, ?_⟩
    rw [reached] at accepts
    rw [Transcript.ofCalls_append_singleton, Transcript.call_eq_takePieces dialect _ feeds,
      Transcript.takePieces_of_accepts accepts]
  · rw [Transcript.ofCalls_append_singleton]
    cases takes : (Transcript.ofCalls dialect calls).takesMore dialect with
    | true => rw [Transcript.call_finish_of_takes takes]
    | false => rw [Transcript.call_finish_of_stopped takes]
  · intro closed
    change ((fresh.callAll dialect calls).finish.1, _) = _
    rw [finish_of_closed closed]
    rfl

/-- A piece of two characters drops the rest of its call; after the escape nothing is accepted. -/
theorem session_with_refused_piece_and_failing_escape :
    let first : List Call := [.text "a ".toList]
    let pieces : List Text := ["b".toList, "cd".toList, "e".toList]
    let calls : List Call := first ++ [.pieces pieces, .text "\\q".toList, .finish]
    let dialect := Style.c.dialect
    fresh.callAll dialect calls =
        fresh.callAll dialect ("a b\\q".toList.map fun c => .piece [c]) ∧
      (∃ accepted came, Accepts dialect (fresh.callAll dialect first) pieces accepted came ∧
        "a b".toList = "a ".toList ++ accepted) ∧
      ((fresh.callAll dialect calls).call dialect .finish).2 = .error .ended := by
  intro first pieces calls dialect
  have taken : Transcript.ofCalls dialect calls = ⟨"a b\\q".toList, false⟩ := by decide
  have before : (Transcript.ofCalls dialect first).taken = "a ".toList := by decide
  have after : (Transcript.ofCalls dialect (first ++ [.pieces pieces])).taken =
      "a b".toList := by decide
  have closed : (fresh.callAll dialect calls).closed = true := by decide
  refine ⟨?_, ?_, ?_⟩
  · have same := (session_is_that_of_accepted_characters dialect calls).1
    rw [taken] at same
    exact same
  · have feeds : Call.pieces pieces ≠ .finish := nofun
    rcases (session_is_that_of_accepted_characters dialect first).2.2.1 _ feeds with
      ⟨accepted, came, accepts, -, more⟩
    rw [before, after] at more
    exact ⟨accepted, came, accepts, more⟩
  · have ended := (session_is_that_of_accepted_characters dialect calls).2.2.2.2 closed
    exact congrArg Prod.snd ended

end Splitter
end QuotedWords
