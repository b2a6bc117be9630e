import Mathlib.Data.List.Induction
import QuotedWords.Position

/-!
# Positions count characters and newlines

The position after a text is counted from the text alone: its length, the
newlines in it, and the characters after the last of them.
-/

namespace QuotedWords

/-- The part of a text after its last newline; all of it if it has none. -/
def Text.lastLine (text : Text) : Text :=
  (text.reverse.takeWhile (· != '\n')).reverse

theorem Text.lastLine_append_singleton (text : Text) (c : Char) :
    lastLine (text ++ [c]) = if c = '\n' then [] else lastLine text ++ [c] := by
  by_cases newline : c = '\n'
  · simp [lastLine, newline]
  · simp [lastLine, newline]

namespace Position

/-- The position is that of the character that follows this part of a text. -/
structure Follows (position : Position) (before : Text) : Prop where
  offset_eq : position.offset = before.length
  line_eq : position.line = 1 + before.count '\n'
  column_eq : position.column = 1 + before.lastLine.length

theorem afterText_append_singleton (position : Position) (text : Text) (c : Char) :
    position.afterText (text ++ [c]) = (position.afterText text).after c :=
  position.afterText_append text [c]

theorem start_afterText_follows (text : Text) :
    (start.afterText text).Follows text := by
  induction text using List.reverseRecOn with
  | nil => exact ⟨rfl, rfl, rfl⟩
  | append_singleton text c ih =>
      rcases ih with ⟨offset, line, column⟩
      rw [afterText_append_singleton]
      constructor
      · simp [offset]
      · unfold after
        split
        next newline => simp [line, newline, List.count_append, Int.add_assoc]
        next other => simp [line, List.count_append, other]
      · rw [Text.lastLine_append_singleton]
        unfold after
        split
        next newline => rfl
        next other => simp [column, Int.add_assoc]

end Position
end QuotedWords
