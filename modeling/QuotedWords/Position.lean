import QuotedWords.Text.Basic

/-!
# Positions

A position in a text: the line and the column, both counted from one, and the
number of characters before it.  Only a newline ends a line.
-/

namespace QuotedWords

structure Position where
  /-- The line, from one. -/
  line : Int
  /-- The column, from one. -/
  column : Int
  /-- The number of characters before the position. -/
  offset : Int
  deriving DecidableEq, Repr

namespace Position

def start : Position :=
  ⟨1, 1, 0⟩

def after (position : Position) (c : Char) : Position :=
  if c = '\n' then ⟨position.line + 1, 1, position.offset + 1⟩
  else ⟨position.line, position.column + 1, position.offset + 1⟩

def afterText (position : Position) (text : Text) : Position :=
  text.foldl after position

@[simp] theorem afterText_nil (position : Position) :
    position.afterText [] = position :=
  rfl

@[simp] theorem afterText_cons (position : Position) (c : Char) (text : Text) :
    position.afterText (c :: text) = (position.after c).afterText text :=
  rfl

theorem afterText_append (position : Position) (first second : Text) :
    position.afterText (first ++ second) =
      (position.afterText first).afterText second :=
  List.foldl_append

@[simp] theorem after_offset (position : Position) (c : Char) :
    (position.after c).offset = position.offset + 1 := by
  unfold after
  split <;> rfl

def display (position : Position) : Text :=
  "Position(line=".toList ++ Text.ofInt position.line ++ ", column=".toList ++
    Text.ofInt position.column ++ ", offset=".toList ++
    Text.ofInt position.offset ++ ")".toList

end Position
end QuotedWords
