import QuotedWords.Text.Basic
import QuotedWords.Text.CodePoints

/-!
# Lines

There are two readings of a text as lines.  A *row* ends at any of the line
breaks of Unicode, a carriage return with a following newline being one break;
rows are what a reader of the text sees.  A *newline-ended line* ends at a
newline only; such lines are what a file is read in, after its carriage returns
have been made newlines.  A stream may also be read in newline-ended lines as it
is; then its carriage returns stand inside of them.
-/

namespace QuotedWords
namespace Text

/-!
# Rows
-/

/-- The code points that break a row. -/
def rowBreaks : CodePoints :=
  [(0x0A, 0x0D), (0x1C, 0x1E), (0x85, 0x85), (0x2028, 0x2029)]

def isRowBreak (c : Char) : Bool :=
  rowBreaks.holds c

/-- Puts a character in front of the first row, which it opens if there is none. -/
def consRow (c : Char) : List Text → List Text
  | [] => [[c]]
  | row :: rows => (c :: row) :: rows

/-- The rows of a text, each with the break that ends it. -/
def rowsWithBreaks : Text → List Text
  | [] => []
  | '\r' :: '\n' :: rest => ['\r', '\n'] :: rowsWithBreaks rest
  | c :: rest =>
      if isRowBreak c then [c] :: rowsWithBreaks rest
      else consRow c (rowsWithBreaks rest)

def rows (text : Text) : List Text :=
  (rowsWithBreaks text).map fun row => row.takeWhile fun c => !isRowBreak c

theorem flatten_consRow (c : Char) (rows : List Text) :
    (consRow c rows).flatten = c :: rows.flatten := by
  cases rows <;> simp [consRow]

theorem flatten_rowsWithBreaks (text : Text) :
    (rowsWithBreaks text).flatten = text := by
  fun_induction rowsWithBreaks text with
  | case1 => rfl
  | case2 rest ih => simp [ih]
  | case3 c rest _ breaks ih => simp [ih]
  | case4 c rest _ _ ih => simp [flatten_consRow, ih]

/-!
# Cutting at a mark
-/

/-- The pieces of a text between the places where a mark stands. -/
def cutAt (mark : Char) : Text → List Text
  | [] => [[]]
  | c :: rest => if c = mark then [] :: cutAt mark rest else consRow c (cutAt mark rest)

/-- A text with the mark after every piece is cut into the pieces and an empty rest. -/
theorem cutAt_append (mark : Char) (piece rest : Text)
    (free : mark ∉ piece) :
    cutAt mark (piece ++ mark :: rest) = piece :: cutAt mark rest := by
  induction piece with
  | nil => simp [cutAt]
  | cons c piece ih =>
      rw [List.mem_cons, not_or] at free
      simp [cutAt, Ne.symm free.1, ih free.2, consRow]

/-!
# Newline-ended lines
-/

/-- Makes every carriage return, with the newline after it if there is one, a newline. -/
def unifyNewlines : Text → Text
  | [] => []
  | '\r' :: '\n' :: rest => '\n' :: unifyNewlines rest
  | c :: rest => (if c = '\r' then '\n' else c) :: unifyNewlines rest

/-- The text cut after every newline. -/
def newlineEnded : Text → List Text
  | [] => []
  | c :: rest =>
      if c = '\n' then [c] :: newlineEnded rest
      else consRow c (newlineEnded rest)

theorem flatten_newlineEnded (text : Text) :
    (newlineEnded text).flatten = text := by
  fun_induction newlineEnded text with
  | case1 => rfl
  | case2 rest ih => simp [ih]
  | case3 c rest _ ih => simp [flatten_consRow, ih]

/-- Whether a line is ended by a newline, and not by the end of the text. -/
def isComplete (line : Text) : Bool :=
  line.getLast? == some '\n'

/-- The lines that are known to be complete once this leading part of a text has been read. -/
def completeLines (leading : Text) : List Text :=
  (newlineEnded leading).filter isComplete

/-- The lines that a file of this text is read in. -/
def fileLines (text : Text) : List Text :=
  newlineEnded (unifyNewlines text)

/--
The lines of a file that are known to be complete once this leading part of it has
been read: a carriage return at its very end may still be followed by its newline,
so it completes no line yet.
-/
def completeFileLines (leading : Text) : List Text :=
  let settled :=
    if leading.getLast? == some '\r' then leading.dropLast else leading
  completeLines (unifyNewlines settled)

/-- The line without the carriage returns and newlines at its end. -/
def trimNewlines (line : Text) : Text :=
  line.dropEndWhile fun c => c == '\r' || c == '\n'

end Text
end QuotedWords
