import QuotedWords.Writer
import QuotedWords.Proofs.Line.Outcome

/-!
# Written words are read back

A word that is written as a quotation is a word of the grammar and stands for
itself, whatever characters it has.  So a line of written words with blanks
between them is split into these words, by every dialect that suits the writer.
-/

namespace QuotedWords

open Grammar

namespace Writer

variable {writer : Writer} {dialect : Dialect}

/-!
# Writers that suit a dialect
-/

theorem resolve_eq_self_iff {c : Char} :
    dialect.resolve c = some c ↔
      dialect.escapes.isEmpty = true ∨ dialect.escapes.get? c = some c := by
  unfold Dialect.resolve resolveEscape
  cases empty : dialect.escapes.isEmpty with
  | true => simp
  | false => simp

/-- The quotation honours escapes, and both that are written stand for themselves. -/
theorem suits_iff :
    writer.Suits dialect ↔
      Text.isBlank writer.opener = false ∧ Text.isBlank writer.close = false ∧
      dialect.quotes.get? writer.opener = some ⟨writer.close, .parseEscapes⟩ ∧
      dialect.leader = some writer.leader ∧ writer.leader ≠ writer.close ∧
      (dialect.escapes.isEmpty = true ∨
        dialect.escapes.get? writer.close = some writer.close ∧
          dialect.escapes.get? writer.leader = some writer.leader) := by
  constructor
  · intro suits
    refine ⟨suits.opener_not_blank, suits.close_not_blank, suits.opens, suits.leads,
      suits.leader_ne_close, ?_⟩
    rcases resolve_eq_self_iff.mp suits.resolves_close with empty | close
    · exact Or.inl empty
    · rcases resolve_eq_self_iff.mp suits.resolves_leader with empty | leader
      · exact Or.inl empty
      · exact Or.inr ⟨close, leader⟩
  · rintro ⟨opener, close, opens, leads, apart, escapes⟩
    have resolves (c : Char) (listed : dialect.escapes.isEmpty = true ∨
        dialect.escapes.get? c = some c) : dialect.resolve c = some c :=
      resolve_eq_self_iff.mpr listed
    exact ⟨opener, close, apart, opens, leads,
      resolves _ (escapes.imp_right And.left), resolves _ (escapes.imp_right And.right)⟩

/-!
# One written word
-/

theorem Suits.inside_writeChar (suits : writer.Suits dialect) (c : Char) :
    Inside dialect ⟨writer.close, .parseEscapes⟩ (writer.writeChar c) [c] := by
  unfold writeChar
  split
  next marked =>
    have resolves : dialect.resolve c = some c := by
      rcases marked with rfl | rfl
      · exact suits.resolves_close
      · exact suits.resolves_leader
    exact .escape rfl suits.leads suits.leader_ne_close resolves .nil
  next unmarked =>
    rw [not_or] at unmarked
    refine .plain unmarked.1 ?_ .nil
    rintro ⟨-, leads⟩
    exact unmarked.2 (Option.some.inj (leads.symm.trans suits.leads))

theorem Suits.inside_flatMap (suits : writer.Suits dialect) (word : Text) :
    Inside dialect ⟨writer.close, .parseEscapes⟩ (word.flatMap writer.writeChar) word := by
  induction word with
  | nil => exact .nil
  | cons c rest ih =>
      rw [List.flatMap_cons]
      exact (suits.inside_writeChar c).append ih

/-- A written word stands for itself. -/
theorem Suits.word_write (suits : writer.Suits dialect) (word : Text) :
    Word dialect (writer.write word) word :=
  .segment (.quotation suits.opener_not_blank suits.opens (suits.inside_flatMap word))

/-!
# Lines of written words
-/

/-- A word to be written on a line, and the blanks after it. -/
structure Entry where
  word : Text
  blanks : Text
  deriving DecidableEq, Repr

def writeEntry (writer : Writer) (entry : Entry) : Text :=
  writer.write entry.word ++ entry.blanks

/-- The line with these blanks in front of the words. -/
def writeLine (writer : Writer) (before : Text) (entries : List Entry) : Text :=
  before ++ entries.flatMap writer.writeEntry

/-- There are blanks around the words; only after the last may there be none. -/
structure Spaced (before : Text) (entries : List Entry) : Prop where
  before_blank : Text.AllBlank before
  blanks_blank : ∀ entry ∈ entries, Text.AllBlank entry.blanks
  blanks_between : ∀ entry ∈ entries.dropLast, entry.blanks ≠ []

theorem Spaced.tail {before : Text} {entry other : Entry} {rest : List Entry}
    (spaced : Spaced before (entry :: other :: rest)) :
    Text.AllBlank entry.blanks ∧ entry.blanks ≠ [] ∧ Spaced [] (other :: rest) := by
  rcases List.forall_mem_cons.mp spaced.blanks_blank with ⟨blank, others⟩
  have between := spaced.blanks_between
  rw [List.dropLast_cons_cons, List.forall_mem_cons] at between
  exact ⟨blank, between.1, Text.allBlank_nil, others, between.2⟩

theorem Suits.words_flatMap (suits : writer.Suits dialect) {before : Text} {entry : Entry}
    {rest : List Entry}
    (spaced : Spaced before (entry :: rest)) :
    Words dialect ((entry :: rest).flatMap writer.writeEntry)
      ((entry :: rest).map Entry.word) := by
  induction rest generalizing before entry with
  | nil =>
      have blank := spaced.blanks_blank entry List.mem_cons_self
      rw [List.flatMap_singleton]
      exact .last (suits.word_write entry.word) blank
  | cons other rest ih =>
      rcases spaced.tail with ⟨blank, between, later⟩
      rw [List.flatMap_cons, writeEntry, List.append_assoc]
      exact .cons (suits.word_write entry.word) blank between (ih later)

theorem Suits.line_writeLine (suits : writer.Suits dialect) {before : Text}
    {entries : List Entry}
    (spaced : Spaced before entries) :
    Line dialect (writer.writeLine before entries) (entries.map Entry.word) := by
  cases entries with
  | nil =>
      rw [writeLine, List.flatMap_nil, List.append_nil]
      exact .blank spaced.before_blank
  | cons entry rest => exact .words spaced.before_blank (suits.words_flatMap spaced)

theorem trimStart_writeLine {before : Text}
    (solid : Text.isBlank writer.opener = false) (blank : Text.AllBlank before)
    (entries : List Entry) :
    Text.trimStart (writer.writeLine before entries) = writer.writeLine [] entries := by
  rw [writeLine, Text.trimStart, List.dropWhile_append_of_pos blank]
  cases entries with
  | nil => rfl
  | cons entry rest =>
      have first : ¬ Text.isBlank writer.opener = true := by simp [solid]
      exact List.dropWhile_cons_of_neg first

/-- A trimmed line is one without blanks in front of the first word and after the last. -/
theorem Suits.exists_trim_writeLine (suits : writer.Suits dialect) {before : Text}
    {entries : List Entry}
    (spaced : Spaced before entries) :
    ∃ trimmed, Text.trim (writer.writeLine before entries) = writer.writeLine [] trimmed ∧
      Spaced [] trimmed ∧ trimmed.map Entry.word = entries.map Entry.word := by
  rw [Text.trim, trimStart_writeLine suits.opener_not_blank spaced.before_blank]
  cases entries using List.reverseRecOn with
  | nil => exact ⟨[], rfl, ⟨Text.allBlank_nil, nofun, nofun⟩, rfl⟩
  | append_singleton front last =>
      have blank := spaced.blanks_blank last (by simp)
      have inner : ∀ entry ∈ front, entry.blanks ≠ [] := by
        have between := spaced.blanks_between
        rwa [List.dropLast_concat] at between
      refine ⟨front ++ [⟨last.word, []⟩], ?_, ⟨Text.allBlank_nil, ?_, ?_⟩, by simp⟩
      · have parts : writer.writeLine [] (front ++ [last]) =
            front.flatMap writer.writeEntry ++ writer.opener ::
              last.word.flatMap writer.writeChar ++ writer.close :: last.blanks := by
          simp [writeLine, writeEntry, write]
        rw [parts, Text.trimEnd_append_blanks _ suits.close_not_blank blank]
        simp [writeLine, writeEntry, write]
      · intro entry member
        rcases List.mem_append.mp member with old | new
        · exact spaced.blanks_blank entry (List.mem_append_left _ old)
        · cases List.mem_singleton.mp new
          exact Text.allBlank_nil
      · rw [List.dropLast_concat]
        exact inner

/--
Whatever words are written on a line, with blanks between them and maybe around
them, splitting the line gives exactly these words, and so does feeding it to a
fresh splitter that is then finished.
-/
theorem written_words_are_read_back
    (suits : writer.Suits dialect) {before : Text} {entries : List Entry}
    (spaced : Spaced before entries) :
    dialect.split (writer.writeLine before entries) = .ok (entries.map Entry.word) ∧
      (Splitter.fresh.feedText dialect (writer.writeLine before entries)).2 = none ∧
      (Splitter.fresh.feedText dialect (writer.writeLine before entries)).1.finish.2 =
        .ok (entries.map Entry.word) := by
  constructor
  · rcases suits.exists_trim_writeLine spaced with ⟨trimmed, same, tight, sameWords⟩
    rw [Dialect.split_eq_ok_iff, same, Dialect.words_eq_ok_iff, ← sameWords]
    exact suits.line_writeLine tight
  · rw [Splitter.fresh_feedText_finish_eq_ok_iff, Dialect.words_eq_ok_iff]
    exact suits.line_writeLine spaced

/-- The leader may be a blank, and other characters may have escapes as well. -/
theorem written_brackets_are_read_back :
    let writer : Writer := ⟨'[', ']', ' '⟩
    let dialect : Dialect :=
      { quotes := .ofList [('[', ⟨']', .parseEscapes⟩)]
        escapes := .ofList [('n', '\n'), (']', ']'), (' ', ' ')]
        leader := some ' ' }
    let entries : List Entry := [⟨"a ]\n".toList, " \t".toList⟩, ⟨[], []⟩]
    writer.Suits dialect ∧ Spaced "\u2003".toList entries ∧
      dialect.split "\u2003[a   ]\n] \t[]".toList = .ok ["a ]\n".toList, []] := by
  intro writer dialect entries
  have suits : writer.Suits dialect := suits_iff.mpr (by decide)
  have spaced : Spaced "\u2003".toList entries := by
    constructor
    · decide
    · exact List.forall_mem_cons.mpr ⟨by decide, List.forall_mem_singleton.mpr (by decide)⟩
    · exact List.forall_mem_singleton.mpr (List.cons_ne_nil _ _)
  exact ⟨suits, spaced, (written_words_are_read_back suits spaced).1⟩

end Writer
end QuotedWords
