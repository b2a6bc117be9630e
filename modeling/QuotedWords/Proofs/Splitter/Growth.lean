import Mathlib.Data.List.Induction
import QuotedWords.Proofs.Splitter.Reading

/-!
# Words only grow

What a splitter holds is only ever added to: complete words stay as they are, and
the current word keeps the characters it has.
-/

namespace QuotedWords

/-- After these complete words comes one that begins with this one. -/
def Keeps (complete : List Text) (word : Text) (found : List Text) : Prop :=
  ∃ longer rest, found = complete ++ longer :: rest ∧ word <+: longer

namespace Keeps

variable {complete words : List Text} {word : Text} {current : Option Text}

theorem add (keeps : Keeps complete word (words ++ current.toList)) (added : Text) :
    Keeps complete word (words ++ [current.getD [] ++ added]) := by
  rcases keeps with ⟨longer, rest, same, begins⟩
  cases current with
  | none =>
      rw [Option.toList_none, List.append_nil] at same
      exact ⟨longer, rest ++ [added], by simp [same], begins⟩
  | some last =>
      rw [Option.toList_some] at same
      cases rest using List.reverseRecOn with
      | nil =>
          rcases List.append_inj' same rfl with ⟨rfl, isLast⟩
          rcases List.singleton_inj.mp isLast with rfl
          exact ⟨last ++ added, [], rfl, begins.trans (List.prefix_append last added)⟩
      | append_singleton rest other =>
          rw [← List.cons_append, ← List.append_assoc] at same
          rcases List.append_inj' same rfl with ⟨rfl, isLast⟩
          exact ⟨longer, rest ++ [last ++ added], by simp, begins⟩

end Keeps

namespace Splitter

variable {dialect : Dialect} {splitter next : Splitter} {complete words : List Text}
  {word : Text} {current : Option Text} {state : State}

theorem Moves.keeps {c : Char} {position : Position} {more : List Text}
    {further : Option Text} {after : State}
    (moves : Moves dialect c position words current state more further after)
    (keeps : Keeps complete word (words ++ current.toList)) :
    Keeps complete word (more ++ further.toList) := by
  cases moves with
  | blank => simpa using keeps
  | opener => simpa using keeps.add []
  | closer => exact keeps
  | leader => exact keeps
  | plain => exact keeps.add [c]
  | @escaped _ _ replacement => exact keeps.add [replacement]

theorem Holds.read_keeps {text : Text}
    (held : splitter.Holds words current state)
    (keeps : Keeps complete word (words ++ current.toList))
    (reads : splitter.read dialect text = (next, none)) :
    ∃ more further after, next.Holds more further after ∧
      Keeps complete word (more ++ further.toList) := by
  refine read_invariant
    (fun _ splitter => ∃ words current state,
      splitter.Holds words current state ∧
        Keeps complete word (words ++ current.toList))
    [] ?_ ⟨words, current, state, held, keeps⟩ reads
  rintro _ splitter c stepped ⟨words, current, state, held, keeps⟩ steps
  rcases held.exists_moves steps with ⟨more, further, after, holds, moves⟩
  exact ⟨more, further, after, holds, moves.keeps keeps⟩

/-- The words at the end have the current word, or a longer one, at its place. -/
theorem Holds.wordsOf_keeps {text : Text} {found : List Text}
    (held : splitter.Holds words (some word) state)
    (finds : splitter.wordsOf dialect text = .ok found) :
    Keeps words word found := by
  cases reading : splitter.read dialect text with
  | mk last failure =>
      cases failure with
      | some failure =>
          rw [wordsOf_of_failed reading] at finds
          cases finds
      | none =>
          rw [wordsOf_of_read reading] at finds
          rcases held.read_keeps ⟨word, [], rfl, List.prefix_rfl⟩ reading with
            ⟨more, further, after, holds, keeps⟩
          have bare := holds.state_eq.symm.trans (state_of_conclude_eq_ok finds)
          subst bare
          cases holds.conclude_bare.symm.trans finds
          exact keeps

end Splitter
end QuotedWords
