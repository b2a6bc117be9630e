import Mathlib.Data.List.TakeWhile
import QuotedWords.Report.Reading
import QuotedWords.Proofs.Text.JsonString
import QuotedWords.Proofs.Text.Lines
import QuotedWords.Proofs.Text.Runs

/-!
# Reports are read back

Groups of words that are written in one of the three forms can be read back from
the report.  In JSON that holds of all groups; where a mark ends the words, it
holds of words without the mark, and where groups are set apart by an empty line,
of groups and words that are not empty.
-/

namespace QuotedWords

/-!
# Pieces that are ended by a mark
-/

namespace Text

/-- The pieces, each with the mark after it. -/
def endedBy (mark : Char) (pieces : List Text) : Text :=
  pieces.flatMap fun piece => piece ++ [mark]

theorem endedBy_cons (mark : Char) (piece : Text) (rest : List Text) :
    endedBy mark (piece :: rest) = piece ++ mark :: endedBy mark rest := by
  rw [endedBy, List.flatMap_cons, List.append_assoc, List.singleton_append]
  rfl

theorem endedBy_append (mark : Char) (first second : List Text) :
    endedBy mark (first ++ second) = endedBy mark first ++ endedBy mark second :=
  List.flatMap_append

theorem endedBy_flatten (mark : Char) (groups : List (List Text)) :
    endedBy mark groups.flatten = (groups.map (endedBy mark)).flatten := by
  induction groups with
  | nil => rfl
  | cons pieces rest ih =>
      rw [List.flatten_cons, endedBy_append, ih, List.map_cons, List.flatten_cons]

theorem joinWith_nil (pieces : List Text) : joinWith [] pieces = pieces.flatten := by
  induction pieces with
  | nil => rfl
  | cons piece rest ih =>
      cases rest with
      | nil => rw [joinWith_singleton, List.flatten_singleton]
      | cons other rest =>
          rw [joinWith_cons_cons, ih, List.nil_append]
          rfl

/-- Pieces that do not hold the mark are cut apart at it, and nothing is left after the last. -/
theorem cutAt_endedBy {mark : Char} {pieces : List Text}
    (free : ∀ piece ∈ pieces, mark ∉ piece) :
    cutAt mark (endedBy mark pieces) = pieces ++ [[]] := by
  induction pieces with
  | nil => rfl
  | cons piece rest ih =>
      rcases List.forall_mem_cons.mp free with ⟨first, others⟩
      rw [endedBy_cons, cutAt_append mark piece _ first, ih others, List.cons_append]

theorem newlineEnded_endedBy {pieces : List Text}
    (free : ∀ piece ∈ pieces, '\n' ∉ piece) :
    newlineEnded (endedBy '\n' pieces) = pieces.map fun piece => piece ++ ['\n'] := by
  induction pieces with
  | nil => rfl
  | cons piece rest ih =>
      rcases List.forall_mem_cons.mp free with ⟨first, others⟩
      rw [endedBy_cons, newlineEnded_append _ first, ih others, List.map_cons]

end Text

/-!
# What is written
-/

namespace Format

variable {groups : List (List Text)}

/-- The groups are written one after the other, with the gap of the format between them. -/
theorem writeAll_eq_joinWith (format : Format) (groups : List (List Text)) :
    format.writeAll groups = Text.joinWith format.gap (groups.map format.write) := by
  cases groups with
  | nil => rfl
  | cons words rest =>
      induction rest generalizing words with
      | nil => simp [writeAll, Text.joinWith_singleton]
      | cons other rest ih =>
          rw [List.map_cons, List.map_cons, Text.joinWith_cons_cons, ← List.map_cons, ← ih other]
          simp [writeAll]

theorem writeAll_json (groups : List (List Text)) :
    Format.json.writeAll groups = Text.endedBy '\n' (groups.map Text.jsonArray) := by
  have none : Format.json.gap = [] := rfl
  rw [writeAll_eq_joinWith, none, Text.joinWith_nil, Text.endedBy, List.flatMap_map]
  rfl

theorem writeAll_null (groups : List (List Text)) :
    Format.null.writeAll groups = Text.endedBy '\x00' groups.flatten := by
  have none : Format.null.gap = [] := rfl
  rw [writeAll_eq_joinWith, none, Text.joinWith_nil, Text.endedBy_flatten]
  rfl

/-- An empty line between two groups is one more line. -/
theorem writeAll_lines (groups : List (List Text)) :
    Format.lines.writeAll groups = Text.endedBy '\n' ([[]].intercalate groups) := by
  rw [writeAll_eq_joinWith]
  induction groups with
  | nil => rfl
  | cons words rest ih =>
      cases rest with
      | nil =>
          rw [List.map_singleton, Text.joinWith_singleton, List.intercalate_singleton]
          rfl
      | cons other rest =>
          rw [List.map_cons, List.map_cons, Text.joinWith_cons_cons, ← List.map_cons, ih,
            List.intercalate_cons_cons, Text.endedBy_append, Text.endedBy_append,
            List.append_assoc]
          rfl

/-!
# What is read
-/

theorem readLines_endedBy {lines : List Text}
    (free : ∀ line ∈ lines, '\n' ∉ line) :
    readLines (Text.endedBy '\n' lines) = lines := by
  rw [readLines, Text.cutAt_endedBy free, List.dropLast_concat]

theorem newline_not_mem_jsonArray (words : List Text) : '\n' ∉ Text.jsonArray words := by
  intro member
  have visible := Text.allVisible_jsonArray words '\n' member
  revert visible
  decide

theorem newline_not_mem_of_mem_arrays {line : Text}
    (member : line ∈ groups.map Text.jsonArray) :
    '\n' ∉ line := by
  rcases List.mem_map.mp member with ⟨words, -, rfl⟩
  exact newline_not_mem_jsonArray words

theorem readArrays_writeAll (groups : List (List Text)) :
    readArrays (Format.json.writeAll groups) = some groups := by
  rw [writeAll_json, readArrays, readLines_endedBy fun _ => newline_not_mem_of_mem_arrays,
    List.mapM_map]
  have same : Text.readJsonArray ∘ Text.jsonArray = pure :=
    funext Text.readJsonArray_jsonArray
  rw [same, List.mapM_pure, List.map_id']
  rfl

theorem readEnded_writeAll
    (free : ∀ words ∈ groups, ∀ word ∈ words, '\x00' ∉ word) :
    readEnded (Format.null.writeAll groups) = groups.flatten := by
  have each : ∀ word ∈ groups.flatten, '\x00' ∉ word := by
    intro word member
    rcases List.mem_flatten.mp member with ⟨words, isGroup, inside⟩
    exact free words isGroup word inside
  rw [writeAll_null, readEnded, Text.cutAt_endedBy each, List.dropLast_concat]

theorem readGroups_writeAll
    (full : ∀ words ∈ groups, words ≠ [])
    (free : ∀ words ∈ groups, ∀ word ∈ words, word ≠ [] ∧ '\n' ∉ word) :
    readGroups (Format.lines.writeAll groups) = groups := by
  have each : ∀ words ∈ groups, words ≠ [] ∧ ∀ word ∈ words, (!word.isEmpty) = true := by
    intro words isGroup
    refine ⟨full words isGroup, ?_⟩
    intro word member
    have filled := (free words isGroup word member).1
    simpa using filled
  have clean : ∀ line ∈ [[]].intercalate groups, '\n' ∉ line := by
    intro line member
    rcases mem_of_mem_intercalate member with between | ⟨words, isGroup, inside⟩
    · rw [List.mem_singleton.mp between]
      exact List.not_mem_nil
    · exact (free words isGroup line inside).2
  rw [writeAll_lines, readGroups, readLines_endedBy clean]
  exact maximalRuns_intercalate each rfl

/-- A report of arrays has one line for each group, all visible but for its newline. -/
theorem exists_lines_of_arrays (groups : List (List Text)) :
    (Text.newlineEnded (Format.json.writeAll groups)).length = groups.length ∧
      ∀ line ∈ Text.newlineEnded (Format.json.writeAll groups),
        ∃ body, line = body ++ ['\n'] ∧ Text.AllVisible body := by
  rw [writeAll_json, Text.newlineEnded_endedBy fun _ => newline_not_mem_of_mem_arrays,
    List.map_map]
  constructor
  · rw [List.length_map]
  · intro line member
    rcases List.mem_map.mp member with ⟨words, -, rfl⟩
    exact ⟨Text.jsonArray words, rfl, Text.allVisible_jsonArray words⟩

/--
Groups of words, each with at least one word, are read back from each of the
three reports.  One of arrays has a line for each group, with no character below
the space but the newline at its end, and gives back the groups, whatever their
words are.  One in which NUL ends the words gives back the words, if they do not
hold NUL.  And one of lines gives back the groups, if the words are not empty and
do not hold a newline.
-/
theorem report_is_read_back {groups : List (List Text)}
    (full : ∀ words ∈ groups, words ≠ []) :
    ((Text.newlineEnded (Format.json.writeAll groups)).length = groups.length ∧
      (∀ line ∈ Text.newlineEnded (Format.json.writeAll groups),
        ∃ body, line = body ++ ['\n'] ∧ Text.AllVisible body) ∧
      readArrays (Format.json.writeAll groups) = some groups) ∧
    ((∀ words ∈ groups, ∀ word ∈ words, '\x00' ∉ word) →
      readEnded (Format.null.writeAll groups) = groups.flatten) ∧
    ((∀ words ∈ groups, ∀ word ∈ words, word ≠ [] ∧ '\n' ∉ word) →
      readGroups (Format.lines.writeAll groups) = groups) := by
  rcases exists_lines_of_arrays groups with ⟨length, visible⟩
  refine ⟨⟨length, visible, readArrays_writeAll groups⟩, readEnded_writeAll, ?_⟩
  exact readGroups_writeAll full

/-- Control characters, quotes and empty words in the first two forms, and groups in the third. -/
theorem reports_of_two_groups_are_read_back :
    let groups := [["a\"\\".toList, [], "\n\x01".toList], ["é ".toList]]
    let plain := [["a".toList, "b c".toList], ["\t".toList]]
    readArrays (Format.json.writeAll groups) = some groups ∧
      readEnded (Format.null.writeAll groups) = groups.flatten ∧
      readGroups (Format.lines.writeAll plain) = plain := by
  intro groups plain
  have full : ∀ words ∈ groups, words ≠ [] := by decide
  have plainFull : ∀ words ∈ plain, words ≠ [] := by decide
  have noNul : ∀ words ∈ groups, ∀ word ∈ words, '\x00' ∉ word := by decide
  have solid : ∀ words ∈ plain, ∀ word ∈ words, word ≠ [] ∧ '\n' ∉ word := by decide
  exact ⟨(report_is_read_back full).1.2.2, (report_is_read_back full).2.1 noNul,
    (report_is_read_back plainFull).2.2 solid⟩

end Format
end QuotedWords
