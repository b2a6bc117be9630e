import QuotedWords.Grammar
import QuotedWords.Proofs.Splitter.Reading
import QuotedWords.Proofs.Text.Trimming

/-!
# Beginnings of lines

The grammar says what whole lines stand for.  Here it is extended to their
beginnings: a beginning of a line comes to the words that it completes, what
there is of a word that it leaves unfinished, and the state in which it leaves
off.  The rules grow at the end of the text, as a reading does.
-/

namespace QuotedWords

def OpenQuote.rule (quote : OpenQuote) : QuoteRule :=
  ⟨quote.close, quote.mode⟩

namespace Grammar

variable {dialect : Dialect}

/-!
# Composing the inside of quotations, words and lines
-/

theorem Inside.append {rule : QuoteRule} {first second value more : Text}
    (front : Inside dialect rule first value)
    (back : Inside dialect rule second more) :
    Inside dialect rule (first ++ second) (value ++ more) := by
  induction front with
  | nil => exact back
  | plain notClose notLeader _ ih => exact .plain notClose notLeader ih
  | escape mode leads notClose resolves _ ih =>
      exact .escape mode leads notClose resolves ih

theorem Word.append_segment {first second value more : Text}
    (word : Word dialect first value)
    (segment : Segment dialect second more) :
    Word dialect (first ++ second) (value ++ more) := by
  induction word with
  | segment one => exact .cons one (.segment segment)
  | cons one _ ih =>
      rw [List.append_assoc, List.append_assoc]
      exact .cons one ih

theorem Line.cons_blank {c : Char} {text : Text} {words : List Text}
    (blank : Text.isBlank c = true)
    (line : Line dialect text words) :
    Line dialect (c :: text) words := by
  cases line with
  | blank all => exact .blank (all.cons blank)
  | words all rest => exact .words (all.cons blank) rest

theorem Words.line {text : Text} {words : List Text}
    (rest : Words dialect text words) :
    Line dialect text words :=
  .words Text.allBlank_nil rest

theorem Word.line {text value : Text}
    (word : Word dialect text value) :
    Line dialect text [value] := by
  have last := Words.last word Text.allBlank_nil
  rw [List.append_nil] at last
  exact last.line

theorem Line.word_blank {c : Char} {front value text : Text} {words : List Text}
    (word : Word dialect front value)
    (blank : Text.isBlank c = true)
    (line : Line dialect text words) :
    Line dialect (front ++ c :: text) (value :: words) := by
  cases line with
  | blank all => exact (Words.last word (all.cons blank)).line
  | words all rest =>
      exact (Words.cons word (all.cons blank) (List.cons_ne_nil _ _) rest).line

/-!
# Beginnings
-/

/-- Words, each of them ended by a blank. -/
inductive Ended (dialect : Dialect) : Text → List Text → Prop where
  | nil : Ended dialect [] []
  | blank {text : Text} {words : List Text} {c : Char}
      (front : Ended dialect text words)
      (blank : Text.isBlank c = true) :
      Ended dialect (text ++ [c]) words
  | word {text last value : Text} {words : List Text} {c : Char}
      (front : Ended dialect text words)
      (word : Word dialect last value)
      (blank : Text.isBlank c = true) :
      Ended dialect (text ++ last ++ [c]) (words ++ [value])

/-- No word at all, or one that has not been ended. -/
inductive Begun (dialect : Dialect) : Text → Option Text → Prop where
  | none : Begun dialect [] none
  | word {text value : Text}
      (word : Word dialect text value) :
      Begun dialect text (some value)

/--
What a beginning of a line comes to: the words that are complete, what there is
of the next one, and the state.
-/
inductive Beginning (dialect : Dialect) :
    Text → List Text → Option Text → State → Prop where
  | bare {front text : Text} {words : List Text} {current : Option Text}
      (ended : Ended dialect front words)
      (begun : Begun dialect text current) :
      Beginning dialect (front ++ text) words current (.within .bare)
  | quoted {text inside value : Text} {words : List Text} {current : Option Text}
      {quote : OpenQuote}
      (before : Beginning dialect text words current (.within .bare))
      (notBlank : Text.isBlank quote.opener = false)
      (opens : dialect.quotes.get? quote.opener = some quote.rule)
      (start : quote.start = Position.start.afterText text)
      (content : Inside dialect quote.rule inside value) :
      Beginning dialect (text ++ quote.opener :: inside) words
        (some (current.getD [] ++ value)) (.within (.quoted quote))
  | escaping {text : Text} {words : List Text} {current : Option Text}
      {context : Context} {leader : Char}
      (before : Beginning dialect text words current (.within context))
      (leads : context.Leads dialect leader) :
      Beginning dialect (text ++ [leader]) words current
        (.escaping context (Position.start.afterText text))

theorem Begun.append_segment {first second more : Text} {current : Option Text}
    (begun : Begun dialect first current)
    (segment : Segment dialect second more) :
    Begun dialect (first ++ second) (some (current.getD [] ++ more)) := by
  cases begun with
  | none => exact .word (.segment segment)
  | word word => exact .word (word.append_segment segment)

theorem Ended.append_line {front text : Text} {words more : List Text}
    (ended : Ended dialect front words)
    (line : Line dialect text more) :
    Line dialect (front ++ text) (words ++ more) := by
  induction ended generalizing text more with
  | nil => exact line
  | blank _ blank ih =>
      rw [List.append_assoc]
      exact ih (line.cons_blank blank)
  | word _ word blank ih =>
      rw [List.append_assoc, List.append_assoc, List.append_assoc]
      exact ih (line.word_blank word blank)

theorem Beginning.line {text : Text} {words : List Text} {current : Option Text}
    (beginning : Beginning dialect text words current (.within .bare)) :
    Line dialect text (words ++ current.toList) := by
  cases beginning with
  | bare ended begun =>
      cases begun with
      | none => exact ended.append_line (.blank nofun)
      | word word => exact ended.append_line word.line

/-!
# Beginnings grow with every character
-/

/-- What adds to the current word in a context: a segment, or inside of a quotation. -/
def Piece (dialect : Dialect) : Context → Text → Text → Prop
  | .bare => Segment dialect
  | .quoted quote => Inside dialect quote.rule

theorem Piece.plain {context : Context} {c : Char}
    (plain : context.Plain dialect c) :
    Piece dialect context [c] [c] := by
  cases context with
  | bare => exact Segment.plain plain.1 plain.2.1 plain.2.2
  | quoted quote => exact Inside.plain plain.1 plain.2 .nil

theorem Piece.escape {context : Context} {leader c meant : Char}
    (leads : context.Leads dialect leader)
    (resolves : dialect.resolve c = some meant) :
    Piece dialect context [leader, c] [meant] := by
  cases context with
  | bare => exact Segment.escape leads.1 leads.2.1 leads.2.2 resolves
  | quoted quote => exact Inside.escape leads.2.1 leads.2.2 leads.1 resolves .nil

namespace Beginning

variable {text : Text} {words : List Text} {current : Option Text}

theorem nil : Beginning dialect [] [] none (.within .bare) :=
  .bare .nil .none

theorem append_blank {c : Char}
    (beginning : Beginning dialect text words current (.within .bare))
    (blank : Text.isBlank c = true) :
    Beginning dialect (text ++ [c]) (words ++ current.toList) none (.within .bare) := by
  rw [← List.append_nil (text ++ [c])]
  refine .bare ?_ .none
  cases beginning with
  | bare ended begun =>
      cases begun with
      | none => simpa using ended.blank blank
      | word word => exact ended.word word blank

theorem append_opener {c : Char} {rule : QuoteRule}
    (beginning : Beginning dialect text words current (.within .bare))
    (notBlank : Text.isBlank c = false)
    (opens : dialect.quotes.get? c = some rule) :
    Beginning dialect (text ++ [c]) words (some (current.getD []))
      (.within (.quoted ⟨rule.close, rule.mode, c, Position.start.afterText text⟩)) := by
  rw [← List.append_nil (current.getD [])]
  exact @Beginning.quoted dialect text [] [] words current ⟨rule.close, rule.mode, c, _⟩
    beginning notBlank opens rfl .nil

theorem append_closer {quote : OpenQuote}
    (beginning : Beginning dialect text words current (.within (.quoted quote))) :
    Beginning dialect (text ++ [quote.close]) words current (.within .bare) := by
  cases beginning with
  | quoted before notBlank opens start content =>
      cases before with
      | bare ended begun =>
          rw [List.append_assoc, List.append_assoc]
          exact .bare ended
            (begun.append_segment (.quotation notBlank opens content))

theorem append_piece {context : Context} {more value : Text}
    (beginning : Beginning dialect text words current (.within context))
    (piece : Piece dialect context more value) :
    Beginning dialect (text ++ more) words (some (current.getD [] ++ value))
      (.within context) := by
  cases beginning with
  | bare ended begun =>
      rw [List.append_assoc]
      exact .bare ended (begun.append_segment piece)
  | quoted before notBlank opens start content =>
      rw [List.append_assoc, List.cons_append, Option.getD_some, List.append_assoc]
      exact .quoted before notBlank opens start (content.append piece)

theorem append_escaped {resume : Context} {leader : Position} {c meant : Char}
    (beginning : Beginning dialect text words current (.escaping resume leader))
    (resolves : dialect.resolve c = some meant) :
    Beginning dialect (text ++ [c]) words (some (current.getD [] ++ [meant]))
      (.within resume) := by
  cases beginning with
  | escaping before leads =>
      rw [List.append_assoc]
      exact before.append_piece (Piece.escape leads resolves)

theorem append_word {more value : Text}
    (beginning : Beginning dialect text words current (.within .bare))
    (word : Word dialect more value) :
    Beginning dialect (text ++ more) words (some (current.getD [] ++ value))
      (.within .bare) := by
  induction word generalizing text current with
  | segment segment => exact beginning.append_piece segment
  | cons segment _ ih =>
      have piece : Piece dialect .bare _ _ := segment
      simpa using ih (beginning.append_piece piece)

theorem append_blanks {blanks : Text}
    (beginning : Beginning dialect text words none (.within .bare))
    (all : Text.AllBlank blanks) :
    Beginning dialect (text ++ blanks) words none (.within .bare) := by
  induction blanks generalizing text with
  | nil => simpa using beginning
  | cons c rest ih =>
      rcases List.forall_mem_cons.mp all with ⟨blank, others⟩
      have grown := beginning.append_blank blank
      rw [Option.toList_none, List.append_nil] at grown
      simpa using ih grown others

/-- A gap completes the current word, however many blanks there are in it. -/
theorem append_gap {blanks : Text}
    (beginning : Beginning dialect text words current (.within .bare))
    (all : Text.AllBlank blanks) (gap : blanks ≠ []) :
    Beginning dialect (text ++ blanks) (words ++ current.toList) none
      (.within .bare) := by
  cases blanks with
  | nil => exact absurd rfl gap
  | cons c rest =>
      rcases List.forall_mem_cons.mp all with ⟨blank, others⟩
      simpa using (beginning.append_blank blank).append_blanks others

theorem append_words {more : Text} {further : List Text}
    (beginning : Beginning dialect text words none (.within .bare))
    (rest : Words dialect more further) :
    ∃ complete unfinished,
      Beginning dialect (text ++ more) complete unfinished (.within .bare) ∧
        complete ++ unfinished.toList = words ++ further := by
  induction rest generalizing text words with
  | @last front value blanks word blank =>
      have read := beginning.append_word word
      rw [← List.append_assoc]
      by_cases gap : blanks = []
      · subst gap
        exact ⟨words, some value, by simpa using read, by simp⟩
      · exact ⟨words ++ [value], none, read.append_gap blank gap, by simp⟩
  | @cons front value blanks tail further word blank gap _ ih =>
      have read := (beginning.append_word word).append_gap blank gap
      rcases ih read with ⟨complete, unfinished, grown, same⟩
      refine ⟨complete, unfinished, by simpa using grown, ?_⟩
      rw [same]
      simp

end Beginning

theorem Line.beginning {text : Text} {words : List Text}
    (line : Line dialect text words) :
    ∃ complete unfinished,
      Beginning dialect text complete unfinished (.within .bare) ∧
        complete ++ unfinished.toList = words := by
  cases line with
  | blank blank => exact ⟨[], none, Beginning.nil.append_blanks blank, rfl⟩
  | words blank rest => exact (Beginning.nil.append_blanks blank).append_words rest

theorem Line.beginning_gap {text blanks : Text} {words : List Text}
    (line : Line dialect text words)
    (all : Text.AllBlank blanks) (gap : blanks ≠ []) :
    Beginning dialect (text ++ blanks) words none (.within .bare) := by
  rcases line.beginning with ⟨complete, unfinished, beginning, rfl⟩
  exact beginning.append_gap all gap

theorem Line.append_blanks {text blanks : Text} {words : List Text}
    (line : Line dialect text words)
    (all : Text.AllBlank blanks) :
    Line dialect (text ++ blanks) words := by
  by_cases gap : blanks = []
  · rw [gap, List.append_nil]
    exact line
  · simpa using (line.beginning_gap all gap).line

/-- Two lines with a gap between them are one line. -/
theorem Line.append_gap {front blanks back : Text} {words more : List Text}
    (first : Line dialect front words)
    (all : Text.AllBlank blanks) (gap : blanks ≠ [])
    (second : Line dialect back more) :
    Line dialect (front ++ blanks ++ back) (words ++ more) := by
  generalize whole : front ++ blanks = text
  have beginning := whole ▸ first.beginning_gap all gap
  cases beginning with
  | bare ended begun =>
      cases begun with
      | none =>
          rw [List.append_nil]
          exact ended.append_line second

end Grammar
end QuotedWords
