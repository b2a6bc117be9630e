import QuotedWords.Proofs.Table
import QuotedWords.Proofs.Text.Trimming
import QuotedWords.Line
import QuotedWords.Proofs.Splitter.Meaning

/-!
# What a line looks up

All that a splitter asks its dialect is, for a character of the text, whether it
opens a quotation, whether it is the leader, and what it stands for when it is
escaped.  The first is asked of no blank.  So a line is split alike in all dialects
that agree on its characters, whatever else they hold and in whichever order.
-/

namespace QuotedWords

theorem Text.mem_of_mem_trim {text : Text} {c : Char}
    (member : c ∈ trim text) :
    c ∈ text := by
  have inner : c ∈ trimStart text := (dropEndWhile_isPrefix isBlank _).subset member
  exact (List.dropWhile_suffix isBlank).subset inner

namespace Dialect

/-!
# Dialects that agree
-/

/-- The dialects say the same of a character. -/
structure AgreeAt (dialect other : Dialect) (c : Char) : Prop where
  quote_eq : Text.isBlank c = false → dialect.quotes.get? c = other.quotes.get? c
  leader_iff : dialect.leader = some c ↔ other.leader = some c
  resolve_eq : dialect.resolve c = other.resolve c

instance (dialect other : Dialect) (c : Char) : Decidable (dialect.AgreeAt other c) :=
  decidable_of_iff
    ((Text.isBlank c = false → dialect.quotes.get? c = other.quotes.get? c) ∧
      (dialect.leader = some c ↔ other.leader = some c) ∧
      dialect.resolve c = other.resolve c)
    ⟨fun agree => ⟨agree.1, agree.2.1, agree.2.2⟩,
      fun agree => ⟨agree.quote_eq, agree.leader_iff, agree.resolve_eq⟩⟩

/-- The dialects say the same of every character of a text. -/
def AgreeOn (dialect other : Dialect) (text : Text) : Prop :=
  ∀ c ∈ text, dialect.AgreeAt other c

instance (dialect other : Dialect) (text : Text) : Decidable (dialect.AgreeOn other text) :=
  List.decidableBAll (dialect.AgreeAt other) text

end Dialect

variable {dialect other : Dialect} {c : Char} {text : Text}

theorem Context.Leads.of_agreeAt {context : Context}
    (leads : context.Leads dialect c)
    (agree : dialect.AgreeAt other c) :
    context.Leads other c := by
  have leader := agree.leader_iff.mp leads.leader
  cases context with
  | bare => exact ⟨leads.1, (agree.quote_eq leads.1).symm.trans leads.2.1, leader⟩
  | quoted quote => exact ⟨leads.1, leads.2.1, leader⟩

theorem Context.Plain.of_agreeAt {context : Context}
    (plain : context.Plain dialect c)
    (agree : dialect.AgreeAt other c) :
    context.Plain other c := by
  cases context with
  | bare =>
      refine ⟨plain.1, (agree.quote_eq plain.1).symm.trans plain.2.1, ?_⟩
      intro leader
      exact plain.2.2 (agree.leader_iff.mpr leader)
  | quoted quote =>
      refine ⟨plain.1, ?_⟩
      intro led
      exact plain.2 ⟨led.1, agree.leader_iff.mpr led.2⟩

/-- What a character means depends on nothing but what the dialect says of it. -/
theorem Means.of_agreeAt {position : Position} {state : State} {action : Action}
    (means : Means dialect c position state action)
    (agree : dialect.AgreeAt other c) :
    Means other c position state action := by
  cases means with
  | separate blank => exact .separate blank
  | openQuote notBlank opens =>
      exact .openQuote notBlank ((agree.quote_eq notBlank).symm.trans opens)
  | closeQuote closes => exact .closeQuote closes
  | lead leads => exact .lead (leads.of_agreeAt agree)
  | keep plain => exact .keep (plain.of_agreeAt agree)
  | replace resolves => exact .replace (agree.resolve_eq.symm.trans resolves)
  | reject unresolved => exact .reject (agree.resolve_eq.symm.trans unresolved)

theorem Splitter.step_eq_of_agreeAt
    (agree : dialect.AgreeAt other c) (splitter : Splitter) :
    splitter.step dialect c = splitter.step other c := by
  have means := Means.of_action dialect c splitter.window.next splitter.state
  rw [step_eq_perform means, step_eq_perform (means.of_agreeAt agree)]

theorem Splitter.read_eq_of_agreeOn
    (agree : dialect.AgreeOn other text) (splitter : Splitter) :
    splitter.read dialect text = splitter.read other text := by
  induction text generalizing splitter with
  | nil => rfl
  | cons c rest ih =>
      rcases List.forall_mem_cons.mp agree with ⟨here, later⟩
      rw [read_cons, read_cons, step_eq_of_agreeAt here]
      cases splitter.step other c with
      | mk next failure =>
          cases failure with
          | none => exact ih later next
          | some failure => rfl

namespace Dialect

theorem words_eq_of_agreeOn (agree : dialect.AgreeOn other text) :
    dialect.words text = other.words text := by
  rw [words, reading, Splitter.read_eq_of_agreeOn agree]
  rfl

theorem split_eq_of_agreeOn (agree : dialect.AgreeOn other text) :
    dialect.split text = other.split text := by
  have trimmed : dialect.AgreeOn other (Text.trim text) :=
    fun c member => agree c (Text.mem_of_mem_trim member)
  rw [split, split, words_eq_of_agreeOn trimmed]

/-!
# Entries that do not matter
-/

theorem agreeOn_of_perm {quotes : Table Char QuoteRule} {escapes : Table Char Char}
    (quotesPermuted : quotes.entries.Perm dialect.quotes.entries)
    (escapesPermuted : escapes.entries.Perm dialect.escapes.entries) (text : Text) :
    ({ dialect with quotes, escapes } : Dialect).AgreeOn dialect text := by
  intro c _
  constructor
  · intro _
    exact Table.get?_eq_of_perm quotesPermuted c
  · exact Iff.rfl
  · unfold resolve resolveEscape
    rw [Table.get?_eq_of_perm escapesPermuted, Table.isEmpty_eq_of_perm escapesPermuted]

theorem agreeOn_insert_quote {opener : Char}
    (unasked : opener ∉ text ∨ Text.isBlank opener = true) (rule : QuoteRule) :
    ({ dialect with quotes := dialect.quotes.insert opener rule } : Dialect).AgreeOn
      dialect text := by
  intro c member
  constructor
  · intro notBlank
    have apart : c ≠ opener := by
      intro same
      subst same
      rcases unasked with absent | blank
      · exact absent member
      · cases blank.symm.trans notBlank
    show (dialect.quotes.insert opener rule).get? c = dialect.quotes.get? c
    rw [Table.get?_insert, if_neg apart]
  · exact Iff.rfl
  · rfl

theorem agreeOn_insert_escape {key : Char}
    (absent : key ∉ text)
    (filled : dialect.escapes.isEmpty = false) (replacement : Char) :
    ({ dialect with escapes := dialect.escapes.insert key replacement } : Dialect).AgreeOn
      dialect text := by
  intro c member
  constructor
  · exact fun _ => rfl
  · exact Iff.rfl
  · have apart : c ≠ key := by
      intro same
      subst same
      exact absent member
    show resolveEscape id (dialect.escapes.insert key replacement) c = _
    unfold resolve resolveEscape
    rw [Table.isEmpty_insert, filled, Table.get?_insert, if_neg apart]

/--
A line is split alike, with the same failure if it fails, in dialects that say the
same of each of its characters, where of blanks it does not matter what they open.
So the order in which entries were given never counts, nor does an entry for a
quote that is a blank or does not stand in the line, nor one for an escape that does
not stand in it.  Only the first of all escapes says something of other characters,
since without it they would stand for themselves.
-/
theorem split_depends_on_lookups (text : Text) :
    (∀ dialect other : Dialect, dialect.AgreeOn other text →
      dialect.split text = other.split text) ∧
    (∀ (dialect : Dialect) (quotes : Table Char QuoteRule) (escapes : Table Char Char),
      quotes.entries.Perm dialect.quotes.entries →
      escapes.entries.Perm dialect.escapes.entries →
      ({ dialect with quotes, escapes } : Dialect).split text = dialect.split text) ∧
    (∀ (dialect : Dialect) (opener : Char) (rule : QuoteRule),
      opener ∉ text ∨ Text.isBlank opener = true →
      ({ dialect with quotes := dialect.quotes.insert opener rule } : Dialect).split text =
        dialect.split text) ∧
    ∀ (dialect : Dialect) (key replacement : Char),
      key ∉ text → dialect.escapes.isEmpty = false →
      ({ dialect with escapes := dialect.escapes.insert key replacement } : Dialect).split
        text = dialect.split text := by
  refine ⟨?_, ?_, ?_, ?_⟩
  · intro dialect other agree
    exact split_eq_of_agreeOn agree
  · intro dialect quotes escapes quotesPermuted escapesPermuted
    exact split_eq_of_agreeOn (agreeOn_of_perm quotesPermuted escapesPermuted text)
  · intro dialect opener rule unasked
    exact split_eq_of_agreeOn (agreeOn_insert_quote unasked rule)
  · intro dialect key replacement absent filled
    exact split_eq_of_agreeOn (agreeOn_insert_escape absent filled replacement)

/--
The string literals of C, and a dialect with its entries in another order, without the
escapes that do not stand in the line, but with others and with a blank that quotes;
and the same dialect changed in each of these ways alone.
-/
theorem split_agrees_without_unasked_entries :
    let line := " a\"b\\n\" ".toList
    let dialect := Style.c.dialect
    let other : Dialect :=
      { quotes := .ofList [(' ', ⟨'a', .parseEscapes⟩), ('"', ⟨'"', .parseEscapes⟩)]
        escapes := .ofList [('\\', '\\'), ('z', 'y'), ('"', '"'), ('n', '\n')]
        leader := some '\\' }
    let permuted : Table Char Char := .ofList dialect.escapes.entries.reverse
    dialect.AgreeOn other line ∧ dialect.split line = .ok ["ab\n".toList] ∧
      other.split line = .ok ["ab\n".toList] ∧
      { dialect with escapes := permuted }.split line = .ok ["ab\n".toList] ∧
      { dialect with quotes := dialect.quotes.insert ' ' ⟨'a', .parseEscapes⟩ }.split line =
        .ok ["ab\n".toList] ∧
      { dialect with escapes := dialect.escapes.insert 'z' 'y' }.split line =
        .ok ["ab\n".toList] := by
  intro line dialect other permuted
  have found : dialect.split line = .ok ["ab\n".toList] := by decide
  have agree : dialect.AgreeOn other line := by decide
  rcases split_depends_on_lookups line with ⟨general, order, quote, escape⟩
  refine ⟨agree, found, ?_, ?_, ?_, ?_⟩
  · exact (general dialect other agree).symm.trans found
  · exact (order dialect dialect.quotes permuted (List.Perm.refl _) (by decide)).trans found
  · exact (quote dialect ' ' _ (Or.inr (by decide))).trans found
  · exact (escape dialect 'z' 'y' (by decide) (by decide)).trans found

end Dialect
end QuotedWords
