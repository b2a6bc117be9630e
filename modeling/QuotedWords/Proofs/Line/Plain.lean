import QuotedWords.Proofs.Line.Lookups
import QuotedWords.Proofs.Line.Trimmed
import QuotedWords.Proofs.Text.Runs

/-!
# Plain text

Where no character quotes or leads an escape, splitting is cutting at the blanks:
the words are the runs of characters that are not blank.  A blank does neither,
whatever the dialect says of it.
-/

namespace QuotedWords

namespace Dialect

/-- Of the characters of a text only blanks may quote or lead escapes in the dialect. -/
def LeavesPlain (dialect : Dialect) (text : Text) : Prop :=
  ∀ c ∈ text, Text.isBlank c = false →
    dialect.quotes.get? c = none ∧ dialect.leader ≠ some c

instance (dialect : Dialect) (text : Text) : Decidable (dialect.LeavesPlain text) :=
  List.decidableBAll
    (fun c => Text.isBlank c = false →
      dialect.quotes.get? c = none ∧ dialect.leader ≠ some c) text

theorem LeavesPlain.trim {dialect : Dialect} {text : Text}
    (plain : dialect.LeavesPlain text) :
    dialect.LeavesPlain (Text.trim text) := by
  intro c member
  exact plain c (Text.mem_of_mem_trim member)

theorem whitespace_leavesPlain (text : Text) :
    Style.whitespace.dialect.LeavesPlain text := by
  intro c _ _
  constructor
  · rfl
  · intro leads
    cases leads

end Dialect

/-!
# Reading plain text
-/

/-- No current word, or one that is a run of characters without blanks so far. -/
def Text.IsSolid (current : Option Text) : Prop :=
  ∀ word ∈ current, word ≠ [] ∧ ∀ c ∈ word, (!isBlank c) = true

theorem Text.IsSolid.add {current : Option Text} {c : Char}
    (solid : IsSolid current)
    (notBlank : isBlank c = false) :
    IsSolid (some (current.getD [] ++ [c])) := by
  rintro _ ⟨⟩
  constructor
  · simp
  · intro d member
    rcases List.mem_append.mp member with before | last
    · cases current with
      | none => cases before
      | some word => exact (solid word rfl).2 d before
    · rw [List.mem_singleton.mp last, notBlank]
      rfl

/-- A blank ends the current word, if there is one. -/
theorem Text.IsSolid.solids_append_blank {current : Option Text} {c : Char}
    (solid : IsSolid current)
    (blank : isBlank c = true) (rest : Text) :
    solids (current.getD [] ++ c :: rest) = current.toList ++ solids rest := by
  have fails : (!isBlank c) = false := by rw [blank]; rfl
  cases current with
  | none =>
      show maximalRuns _ (c :: rest) = _
      rw [maximalRuns, if_neg (by rw [fails]; exact Bool.false_ne_true)]
      rfl
  | some word =>
      rcases solid word rfl with ⟨nonempty, passes⟩
      exact maximalRuns_append_gap nonempty passes fails

theorem Text.IsSolid.solids_eq {current : Option Text}
    (solid : IsSolid current) :
    solids (current.getD []) = current.toList := by
  cases current with
  | none =>
      show maximalRuns _ [] = _
      rw [maximalRuns]
      rfl
  | some word =>
      rcases solid word rfl with ⟨nonempty, passes⟩
      exact maximalRuns_of_pass nonempty passes

namespace Splitter

variable {dialect : Dialect} {splitter : Splitter} {words : List Text}
  {current : Option Text} {text : Text}

theorem Holds.wordsOf_of_plain
    (held : splitter.Holds words current (.within .bare))
    (solid : Text.IsSolid current)
    (plain : dialect.LeavesPlain text) :
    splitter.wordsOf dialect text =
      .ok (words ++ Text.solids (current.getD [] ++ text)) := by
  -- The current word is in front of what is left to read: together they have its runs.
  induction text generalizing splitter words current with
  | nil =>
      rw [wordsOf_of_read (read_nil dialect splitter), held.conclude_bare, List.append_nil,
        solid.solids_eq]
  | cons c rest ih =>
      rcases List.forall_mem_cons.mp plain with ⟨here, later⟩
      have reads {stepped : Splitter} (steps : splitter.step dialect c = (stepped, none)) :
          splitter.wordsOf dialect (c :: rest) = stepped.wordsOf dialect rest :=
        wordsOf_append_of_read rest ((read_singleton dialect splitter c).trans steps)
      cases blank : Text.isBlank c with
      | true =>
          rcases held.step dialect c (.blank blank) with ⟨stepped, steps, holds⟩
          rw [reads steps, ih holds nofun later, solid.solids_append_blank blank,
            List.append_assoc]
          rfl
      | false =>
          rcases here blank with ⟨notOpener, notLeader⟩
          have means : Context.bare.Plain dialect c := ⟨blank, notOpener, notLeader⟩
          rcases held.step dialect c (.plain means) with ⟨stepped, steps, holds⟩
          rw [reads steps, ih holds (solid.add blank) later]
          simp

end Splitter

namespace Dialect

variable {dialect : Dialect} {text : Text}

theorem words_of_plain (plain : dialect.LeavesPlain text) :
    dialect.words text = .ok (Text.solids text) := by
  rw [words_eq_wordsOf]
  exact Splitter.fresh_holds.wordsOf_of_plain nofun plain

theorem split_of_plain (plain : dialect.LeavesPlain text) :
    dialect.split text = .ok (Text.solids text) := by
  have splits := split_eq_ok_iff.mpr (words_of_plain plain.trim)
  have whole := (words_of_split splits).symm.trans (words_of_plain plain)
  rw [splits, Except.ok.inj whole]

/--
A text in which nothing but blanks quotes or leads an escape can be split, and its
words are its runs of characters that are not blank, whether it is trimmed first or
not.  In the style that has no quotes and no leader that holds of every text.
-/
theorem plain_text_is_cut_at_blanks :
    (∀ (dialect : Dialect) (text : Text), dialect.LeavesPlain text →
      dialect.split text = .ok (Text.solids text) ∧
        dialect.words text = .ok (Text.solids text)) ∧
    ∀ text : Text,
      Style.whitespace.dialect.split text = .ok (Text.solids text) ∧
        Style.whitespace.dialect.words text = .ok (Text.solids text) := by
  have general : ∀ (dialect : Dialect) (text : Text), dialect.LeavesPlain text →
      dialect.split text = .ok (Text.solids text) ∧
        dialect.words text = .ok (Text.solids text) := by
    intro dialect text plain
    exact ⟨split_of_plain plain, words_of_plain plain⟩
  refine ⟨general, ?_⟩
  intro text
  exact general Style.whitespace.dialect text (whitespace_leavesPlain text)

/-- Blanks that would quote and lead, of which those around the line are trimmed. -/
theorem blanks_that_quote_and_lead_cut_line :
    let dialect : Dialect :=
      { quotes := .ofList [('\t', ⟨'b', .parseEscapes⟩), ('"', ⟨'"', .ignoreEscapes⟩)]
        leader := some ' ' }
    let line := "\t a\t b\u2003'c'\n".toList
    dialect.LeavesPlain line ∧
      dialect.split line = .ok (Text.solids line) ∧
      dialect.words line = .ok (Text.solids line) ∧
      Text.solids line = ["a".toList, "b".toList, "'c'".toList] := by
  intro dialect line
  have plain : dialect.LeavesPlain line := by decide
  rcases plain_text_is_cut_at_blanks.1 dialect line plain with ⟨splits, words⟩
  have found : dialect.split line = .ok ["a".toList, "b".toList, "'c'".toList] := by decide
  exact ⟨plain, splits, words, Except.ok.inj (splits.symm.trans found)⟩

end Dialect
end QuotedWords
