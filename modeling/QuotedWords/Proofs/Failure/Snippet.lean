import QuotedWords.Failure.Snippet
import QuotedWords.Proofs.Line.Blame
import QuotedWords.Proofs.Text.OneLine
import QuotedWords.Proofs.Text.Rows

/-!
# What a display shows

A failure is displayed in five lines, whatever its texts and numbers are.  The
fourth shows a row of the source and the last a caret under it.  The row is the
line of the place, and the caret stands under the blamed character, as far as the
rows of the source are its lines.
-/

namespace QuotedWords

/-!
# Five lines
-/

theorem Fault.newline_not_mem_message {fault : Fault}
    (named : ∀ message, fault ≠ .other message) :
    '\n' ∉ fault.message := by
  cases fault with
  | unterminatedQuote quote =>
      intro member
      rcases List.mem_append.mp member with label | display
      · revert label
        decide
      · exact Text.newline_not_mem_display quote display
  | danglingEscape => decide
  | unrecognizedEscape char =>
      intro member
      rcases List.mem_append.mp member with label | display
      · revert label
        decide
      · exact Text.newline_not_mem_display char display
  | other message => exact absurd rfl (named message)

namespace Failure

theorem newline_not_mem_shownRow (failure : Failure) : '\n' ∉ failure.shownRow := by
  simp only [shownRow]
  split
  next => exact List.not_mem_nil
  next =>
    split
    next row found =>
      have whole := Text.newline_not_mem_dropLast_of_mem_rowsWithBreaks
        (List.mem_of_getElem? found)
      have free : '\n' ∉ Text.dropEndWhile (· == '\n') row :=
        Text.newline_not_mem_dropEndWhile rfl whole
      exact fun member => free ((Text.dropEndWhile_isPrefix _ _).subset member)
    next => exact List.not_mem_nil

/-- What stands before the row in the fourth line. -/
def gutter (failure : Failure) (firstLine : Int) : Text :=
  Text.ofInt (failure.shownLine firstLine) ++ " | ".toList

/-- What stands before the bars that have no number before them. -/
def margin (failure : Failure) (firstLine : Int) : Text :=
  Text.spaces ((Text.ofInt (failure.shownLine firstLine)).length + 1)

/-- The lines of the display. -/
def displayLines (failure : Failure) (filename : Text) (firstLine : Int) : List Text :=
  [ "error: ".toList ++ failure.message,
    failure.margin firstLine ++ "--> ".toList ++ filename ++
      ':' :: Text.ofInt (failure.shownLine firstLine) ++
      ':' :: Text.ofInt failure.position.column,
    failure.margin firstLine ++ ['|'],
    failure.gutter firstLine ++ failure.shownRow,
    failure.margin firstLine ++ "| ".toList ++
      Text.spaces (failure.position.column - 1).toNat ++ ['^'] ]

theorem renderFrom_eq_joinWith (failure : Failure) (filename : Text) (firstLine : Int) :
    failure.renderFrom filename firstLine =
      Text.joinWith ['\n'] (failure.displayLines filename firstLine) := by
  unfold renderFrom displayLines gutter margin
  iterate 4 rw [Text.joinWith_cons_cons]
  rw [Text.joinWith_singleton]
  -- As closed texts the labels would be unfolded character by character.
  generalize "error: ".toList = heading, "--> ".toList = arrow, " | ".toList = numbered,
    "| ".toList = bar
  simp only [List.append_assoc, List.cons_append, List.nil_append]

theorem cutAt_renderFrom {failure : Failure} {filename : Text} (firstLine : Int)
    (message : '\n' ∉ failure.message)
    (name : '\n' ∉ filename) :
    Text.cutAt '\n' (failure.renderFrom filename firstLine) =
      failure.displayLines filename firstLine := by
  have number := Text.newline_not_mem_ofInt (failure.shownLine firstLine)
  have column := Text.newline_not_mem_ofInt failure.position.column
  have margin : '\n' ∉ failure.margin firstLine := Text.newline_not_mem_spaces _
  have pad := Text.newline_not_mem_spaces (failure.position.column - 1).toNat
  have row := failure.newline_not_mem_shownRow
  rw [renderFrom_eq_joinWith]
  refine Text.cutAt_joinWith ?_ (List.cons_ne_nil _ _)
  unfold displayLines gutter
  simp only [List.forall_mem_cons]
  refine ⟨?_, ?_, ?_, ?_, ?_, List.forall_mem_nil _⟩
  · exact List.not_mem_append (by decide) message
  · apply List.not_mem_append
    · apply List.not_mem_append
      · apply List.not_mem_append
        · exact List.not_mem_append margin (by decide)
        · exact name
      · exact List.not_mem_cons_of_ne_of_not_mem (by decide) number
    · exact List.not_mem_cons_of_ne_of_not_mem (by decide) column
  · exact List.not_mem_append margin (by decide)
  · apply List.not_mem_append
    · exact List.not_mem_append number (by decide)
    · exact row
  · apply List.not_mem_append
    · apply List.not_mem_append
      · exact List.not_mem_append margin (by decide)
      · exact pad
    · decide

/-!
# The character above the caret
-/

/--
The fourth line of the display shows the row after its gutter, and has this
character of it above the caret at the end of the fifth.
-/
structure Displays (failure : Failure) (row : Text) (c : Char) : Prop where
  above_caret : row[(failure.position.column - 1).toNat]? = some c
  lines : ∃ heading place bar caret,
    Text.cutAt '\n' failure.display =
      [heading, place, bar, failure.gutter failure.firstLine ++ row, caret ++ ['^']] ∧
    (failure.gutter failure.firstLine ++ row)[caret.length]? = some c

/-- The line of the position between newlines, without carriage returns at its end. -/
def placeLine (failure : Failure) : Option Text :=
  ((Text.cutAt '\n' failure.source)[(failure.position.line - 1).toNat]?).map
    (Text.dropEndWhile (· == '\r'))

/-- The line of the position is displayed, with the caret under the blamed character. -/
def ShowsOffence (failure : Failure) (dialect : Dialect) : Prop :=
  ∃ line c, failure.placeLine = some line ∧ failure.Displays line c ∧
    dialect.Blames c failure.fault

/-- The source up to the end of the line of the position, without carriage returns there. -/
def sourceThroughLine (failure : Failure) : Text :=
  failure.source.take failure.position.offset.toNat ++
    Text.headLine (failure.source.drop failure.position.offset.toNat)

variable {failure : Failure} {dialect : Dialect} {c : Char}

theorem caret_length :
    (failure.margin failure.firstLine ++ "| ".toList ++
      Text.spaces (failure.position.column - 1).toNat).length =
    (failure.gutter failure.firstLine).length + (failure.position.column - 1).toNat := by
  simp [margin, gutter, Text.spaces]
  omega

theorem displays_iff {row : Text}
    (named : ∀ message, failure.fault ≠ .other message) :
    failure.Displays row c ↔
      row = failure.shownRow ∧
        failure.shownRow[(failure.position.column - 1).toNat]? = some c := by
  have name : '\n' ∉ unnamed := by decide
  have lines : Text.cutAt '\n' failure.display = _ :=
    cutAt_renderFrom failure.firstLine (Fault.newline_not_mem_message named) name
  constructor
  · rintro ⟨above, heading, place, bar, caret, same, -⟩
    -- The gutter is the same, so what follows it in the fourth line is.
    have fourth := congrArg (fun lines => lines[3]?) (lines.symm.trans same)
    have row_eq := List.append_cancel_left (Option.some.inj fourth)
    rw [row_eq]
    exact ⟨rfl, above⟩
  · rintro ⟨rfl, above⟩
    refine ⟨above, _, _, _, _, lines, ?_⟩
    rw [caret_length, List.getElem?_append_right (Nat.le_add_right _ _),
      Nat.add_sub_cancel_left]
    exact above

theorem shownRow_eq {before row : Text}
    (first : failure.sourceLine = 1)
    (line : failure.position.line = 1 + before.count '\n')
    (found : (Text.rowsWithBreaks failure.source)[before.count '\n']? = some row) :
    failure.shownRow =
      Text.dropEndWhile (· == '\r') (Text.dropEndWhile (· == '\n') row) := by
  have index : failure.position.line - failure.sourceLine = before.count '\n' := by
    omega
  simp only [shownRow]
  rw [index, if_neg (by omega), Int.toNat_natCast, found]

/-- The failure shows the whole of its text, and blames this character of it. -/
structure BlamesAt (failure : Failure) (dialect : Dialect) (before : Text) (c : Char)
    (after : Text) : Prop where
  sourceLine_eq : failure.sourceLine = 1
  source_eq : failure.source = before ++ c :: after
  follows : failure.position.Follows before
  blames : dialect.Blames c failure.fault
  solid : Text.isBlank c = false

namespace BlamesAt

variable {before after : Text}

theorem named (place : failure.BlamesAt dialect before c after) :
    ∀ message, failure.fault ≠ .other message := by
  intro message same
  have blames := place.blames
  rw [same] at blames
  exact blames

theorem ne_of_isBlank (place : failure.BlamesAt dialect before c after) {d : Char}
    (blank : Text.isBlank d = true) :
    c ≠ d := by
  rintro rfl
  cases place.solid.symm.trans blank

theorem ne_newline (place : failure.BlamesAt dialect before c after) : c ≠ '\n' :=
  place.ne_of_isBlank Text.isBlank_newline

theorem ne_return (place : failure.BlamesAt dialect before c after) : c ≠ '\r' :=
  place.ne_of_isBlank (by decide)

theorem take_offset (place : failure.BlamesAt dialect before c after) :
    failure.source.take failure.position.offset.toNat = before := by
  rw [place.follows.offset_eq, Int.toNat_natCast, place.source_eq, List.take_left]

theorem drop_offset (place : failure.BlamesAt dialect before c after) :
    failure.source.drop failure.position.offset.toNat = c :: after := by
  rw [place.follows.offset_eq, Int.toNat_natCast, place.source_eq, List.drop_left]

theorem take_offset_succ (place : failure.BlamesAt dialect before c after) :
    failure.source.take (failure.position.offset.toNat + 1) = before ++ [c] := by
  rw [List.take_add, place.take_offset, place.drop_offset]
  rfl

/-- A row of the line up to the character and more has the character above the caret. -/
theorem get_column (place : failure.BlamesAt dialect before c after) (rest : Text) :
    (Text.lastLine before ++ c :: rest)[(failure.position.column - 1).toNat]? = some c := by
  have column : (failure.position.column - 1).toNat = (Text.lastLine before).length := by
    have := place.follows.column_eq
    omega
  rw [column, List.getElem?_append_right (Nat.le_refl _), Nat.sub_self]
  rfl

theorem exists_displays (place : failure.BlamesAt dialect before c after)
    (regular : Text.RowsAreLines (failure.source.take (failure.position.offset.toNat + 1))) :
    ∃ row, failure.Displays row c := by
  rw [place.take_offset_succ] at regular
  rcases Text.exists_rowsWithBreaks_cons c after with ⟨row, rows, cuts⟩
  have found := Text.rowsWithBreaks_place place.ne_newline cuts before regular
  rw [← place.source_eq] at found
  have shown := shownRow_eq place.sourceLine_eq place.follows.line_eq found
  rw [Text.dropEndWhile_append_cons _ _ (by simpa using place.ne_newline),
    Text.dropEndWhile_append_cons _ _ (by simpa using place.ne_return)] at shown
  refine ⟨failure.shownRow, (displays_iff place.named).mpr ⟨rfl, ?_⟩⟩
  rw [shown]
  exact place.get_column _

theorem placeLine_eq (place : failure.BlamesAt dialect before c after) :
    failure.placeLine = some (Text.lastLine before ++ Text.headLine (c :: after)) := by
  have index : (failure.position.line - 1).toNat = before.count '\n' := by
    have := place.follows.line_eq
    omega
  rw [placeLine, index, place.source_eq, Text.cutAt_place, Option.map_some,
    List.takeWhile_cons_of_pos (by simpa using place.ne_newline),
    Text.dropEndWhile_append_cons _ _ (by simpa using place.ne_return),
    Text.headLine_cons after place.ne_newline place.ne_return]
  rfl

theorem shownRow_eq_line (place : failure.BlamesAt dialect before c after)
    (regular : Text.RowsAreLines failure.sourceThroughLine) :
    failure.shownRow = Text.lastLine before ++ Text.headLine (c :: after) := by
  have nonempty : Text.headLine (c :: after) ≠ [] := by
    rw [Text.headLine_cons after place.ne_newline place.ne_return]
    exact List.cons_ne_nil _ _
  rw [sourceThroughLine, place.take_offset, place.drop_offset] at regular
  rcases Text.exists_row_of_headLine nonempty regular with ⟨row, found, trimmed⟩
  rw [← place.source_eq] at found
  rw [shownRow_eq place.sourceLine_eq place.follows.line_eq found, trimmed]

theorem showsOffence_iff (place : failure.BlamesAt dialect before c after) :
    failure.ShowsOffence dialect ↔ failure.placeLine = some failure.shownRow := by
  constructor
  · rintro ⟨line, d, found, displays, -⟩
    rw [found, ((displays_iff place.named).mp displays).1]
  · intro found
    refine ⟨failure.shownRow, c, found, (displays_iff place.named).mpr ⟨rfl, ?_⟩, place.blames⟩
    have same := Option.some.inj (found.symm.trans place.placeLine_eq)
    rw [same, Text.headLine_cons after place.ne_newline place.ne_return]
    exact place.get_column _

end BlamesAt
end Failure

namespace Dialect

variable {dialect : Dialect} {line : Text} {failure : Failure}

theorem exists_blamesAt_of_split
    (solid : dialect.LeaderIsSolid)
    (fails : dialect.split line = .error failure) :
    ∃ before c after, failure.BlamesAt dialect before c after := by
  rcases exists_words_of_split fails with ⟨cause, failed, rfl⟩
  rcases exists_place_of_words failed with ⟨before, c, after, parts, follows, blames, -⟩
  exact ⟨before, c, after, rfl, parts, follows, blames, blames.not_blank solid⟩

/--
A line that cannot be split is displayed with the caret under the blamed
character exactly if the row that is displayed reads as the line of that
character.  It does where rows are lines up to the end of that line; where they
are so at least up to the character, the caret is under it in the row it is in.
-/
theorem split_failure_shows_offence
    (solid : dialect.LeaderIsSolid)
    (fails : dialect.split line = .error failure) :
    (failure.ShowsOffence dialect ↔ failure.placeLine = some failure.shownRow) ∧
    (Text.RowsAreLines failure.sourceThroughLine → failure.ShowsOffence dialect) ∧
    (Text.RowsAreLines (failure.source.take (failure.position.offset.toNat + 1)) →
      ∃ row c, failure.Displays row c ∧ dialect.Blames c failure.fault) := by
  rcases exists_blamesAt_of_split solid fails with ⟨before, c, after, place⟩
  refine ⟨place.showsOffence_iff, ?_, ?_⟩
  · intro regular
    rw [place.showsOffence_iff, place.placeLine_eq, place.shownRow_eq_line regular]
  · intro regular
    rcases place.exists_displays regular with ⟨row, displays⟩
    exact ⟨row, c, displays, place.blames⟩

/-- Carriage return and newline end each row here, but for one after the line of the quote. -/
theorem split_failure_shows_line_of_two :
    let line := "a\r\nb 'c\r\n\u2028d".toList
    let failure : Failure :=
      { fault := .unterminatedQuote "'".toList
        position := ⟨2, 3, 5⟩
        source := line }
    Dialect.shell.LeaderIsSolid ∧ Dialect.shell.split line = .error failure ∧
      Text.RowsAreLines failure.sourceThroughLine ∧ failure.ShowsOffence Dialect.shell := by
  intro line failure
  have solid : Dialect.shell.LeaderIsSolid := Style.leaderIsSolid .shell
  have fails : Dialect.shell.split line = .error failure := by decide
  have regular : Text.RowsAreLines failure.sourceThroughLine := by decide
  exact ⟨solid, fails, regular, (split_failure_shows_offence solid fails).2.1 regular⟩

/--
After a vertical tab, which ends a row but no line, the display can be of another
row than that of the blamed character.
-/
theorem split_failure_hides_offence_after_vertical_tab :
    ¬ ∀ (dialect : Dialect) (line : Text) (failure : Failure),
      dialect.LeaderIsSolid → dialect.split line = .error failure →
        failure.ShowsOffence dialect := by
  intro always
  have solid : Dialect.shell.LeaderIsSolid := Style.leaderIsSolid .shell
  have fails : Dialect.shell.split "x\x0b'b".toList = .error
      { fault := .unterminatedQuote "'".toList
        position := ⟨1, 3, 2⟩
        source := "x\x0b'b".toList } := by decide
  rcases always Dialect.shell _ _ solid fails with ⟨line, c, -, displays, -⟩
  have named (message : Text) : Fault.unterminatedQuote "'".toList ≠ .other message := nofun
  rcases (Failure.displays_iff named).mp displays with ⟨-, above⟩
  cases above

end Dialect
end QuotedWords
