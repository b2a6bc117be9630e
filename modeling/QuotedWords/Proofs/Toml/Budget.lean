import QuotedWords.Proofs.Toml.Rests

/-!
# The budgets of the TOML reader

A budget bounds how often readers call one another, but it decides nothing: any two
budgets that are large enough for a text give the same reading, and those that are
given for a document are.  So a reader never stops because its budget is spent.
-/

namespace QuotedWords
namespace Toml

/-- What is done with an answer matters only for answers that a reading can have. -/
theorem StaysIn.bind_congr {α β : Type} {text : Text} {reading : Except Stop α}
    {holds : α → Prop} {next other : α → Except Stop β}
    (stays : StaysIn text reading holds)
    (same : ∀ answer, holds answer → next answer = other answer) :
    reading >>= next = reading >>= other := by
  cases reading with
  | error stopped => rfl
  | ok answer => exact same answer stays

/-!
# Keys
-/

/-- How large the budget of a key is decides nothing, if there is one for each character. -/
theorem keyWithin_congr {budget other : Nat} {text : Text} (enough : text.length < budget)
    (enoughToo : text.length < other) : keyWithin budget text = keyWithin other text := by
  induction budget generalizing other text with
  | zero => exact absurd enough (Nat.not_lt_zero _)
  | succ budget ih =>
      cases other with
      | zero => exact absurd enoughToo (Nat.not_lt_zero _)
      | succ other =>
          rw [keyWithin, keyWithin]
          refine (keyPart_staysIn text).bind_congr ?_
          rintro ⟨part, rest⟩ left
          have after : LeftOf (skipSpaces rest) text := left.of_suffix (skipSpaces_suffix rest)
          dsimp only
          split
          next others dotted =>
            rw [dotted] at after
            have later : LeftOf (skipSpaces others) text :=
              after.of_suffix ((skipSpaces_suffix others).trans (List.suffix_cons '.' others))
            have shorter := later.shorter
            rw [ih (by omega) (show (skipSpaces others).length < other by omega)]
          next => rfl

/-!
# Values
-/

/--
Two budgets give the same readings of texts for which both are enough.  What lies
inside of brackets is read by two calls for a character.
-/
structure ValuesAgree (budget other : Nat) : Prop where
  value : ∀ levels (text : Text), 2 * text.length < budget → 2 * text.length < other →
    value budget levels text = value other levels text
  items : ∀ levels (text : Text), 2 * text.length + 1 < budget → 2 * text.length + 1 < other →
    items budget levels text = items other levels text
  fields : ∀ levels entries (text : Text),
    2 * text.length + 1 < budget → 2 * text.length + 1 < other →
      fields budget levels entries text = fields other levels entries text
  assignment : ∀ levels (text : Text), 2 * text.length < budget → 2 * text.length < other →
    assignment budget levels text = assignment other levels text

namespace ValuesAgree

variable {budget other : Nat} (inner : ValuesAgree budget other) {text : Text}
include inner

theorem value_succ (levels : Nat) (enough : 2 * text.length < budget + 1)
    (enoughToo : 2 * text.length < other + 1) :
    Toml.value (budget + 1) levels text = Toml.value (other + 1) levels text := by
  unfold Toml.value
  split
  next impossible => cases impossible
  next rest same =>
    cases same
    rw [List.length_cons] at enough enoughToo
    split
    · rfl
    · refine (skipVoid_staysIn false rest).bind_congr ?_
      intro opened within
      have short := within.length_le
      rw [inner.items _ opened (by omega) (by omega)]
  next rest same =>
    cases same
    rw [List.length_cons] at enough enoughToo
    have short := (skipSpaces_suffix rest).length_le
    split
    · rfl
    · split
      next => rfl
      next => exact inner.fields _ _ _ (by omega) (by omega)
  next => rfl

theorem items_succ (levels : Nat) (enough : 2 * text.length + 1 < budget + 1)
    (enoughToo : 2 * text.length + 1 < other + 1) :
    Toml.items (budget + 1) levels text = Toml.items (other + 1) levels text := by
  unfold Toml.items
  split
  next impossible => cases impossible
  next => rfl
  next same _ =>
    cases same
    rw [inner.value _ _ (by omega) (by omega)]
    refine ((values_stayIn other).value _ _).bind_congr ?_
    rintro ⟨item, rest⟩ left
    refine (skipVoid_staysIn false rest).bind_congr ?_
    intro opened within
    have less := (left.of_suffix within).shorter
    split
    next others =>
      rw [List.length_cons] at less
      refine (skipVoid_staysIn false others).bind_congr ?_
      intro more within
      have short := within.length_le
      rw [inner.items _ more (by omega) (by omega)]
    next => rfl
    next => rfl

theorem fields_succ (levels : Nat) (entries : Entries)
    (enough : 2 * text.length + 1 < budget + 1)
    (enoughToo : 2 * text.length + 1 < other + 1) :
    Toml.fields (budget + 1) levels entries text =
      Toml.fields (other + 1) levels entries text := by
  rw [Toml.fields, Toml.fields, inner.assignment levels text (by omega) (by omega)]
  refine ((values_stayIn other).assignment levels text).bind_congr ?_
  rintro ⟨⟨path, field⟩, rest⟩ left
  have less := left.of_suffix (skipSpaces_suffix rest)
  dsimp only
  split
  next => rfl
  next =>
    split
    next others separated =>
      rw [separated] at less
      have further := less.of_suffix
        ((skipSpaces_suffix others).trans (List.suffix_cons ',' others))
      have shorter := further.shorter
      exact inner.fields _ _ _ (by omega) (by omega)
    next => rfl
    next => rfl

theorem assignment_succ (levels : Nat) (enough : 2 * text.length < budget + 1)
    (enoughToo : 2 * text.length < other + 1) :
    Toml.assignment (budget + 1) levels text = Toml.assignment (other + 1) levels text := by
  rw [Toml.assignment, Toml.assignment]
  refine (key_staysIn text).bind_congr ?_
  rintro ⟨path, rest⟩ left
  dsimp only at left ⊢
  split
  next others =>
    have less := left.of_suffix
      ((skipSpaces_suffix others).trans (List.suffix_cons '=' others))
    have shorter := less.shorter
    rw [inner.value levels (skipSpaces others) (by omega) (by omega)]
  next => rfl

theorem succ : ValuesAgree (budget + 1) (other + 1) :=
  ⟨fun levels _ => inner.value_succ levels, fun levels _ => inner.items_succ levels,
    fun levels entries _ => inner.fields_succ levels entries,
    fun levels _ => inner.assignment_succ levels⟩

end ValuesAgree

/-- How large the budget of a value is decides nothing; of no text is an empty one enough. -/
theorem values_agree (budget other : Nat) : ValuesAgree budget other := by
  induction budget generalizing other with
  | zero => constructor <;> omega
  | succ budget ih =>
      cases other with
      | zero => constructor <;> omega
      | succ other => exact (ih other).succ

/-!
# Documents
-/

namespace Reader

/-- How large the budget of a document is decides nothing. -/
theorem statements_congr {levels budget other : Nat} {reader : Reader} {text : Text}
    (enough : text.length < budget) (enoughToo : text.length < other) :
    statements levels budget reader text = statements levels other reader text := by
  induction budget generalizing other reader text with
  | zero => exact absurd enough (Nat.not_lt_zero _)
  | succ budget ih =>
      cases other with
      | zero => exact absurd enoughToo (Nat.not_lt_zero _)
      | succ other =>
          rw [statements, statements]
          refine (reader.statement_staysIn levels (skipSpaces text)).bind_congr ?_
          rintro ⟨reader, rest⟩ within
          refine (skipComment_staysIn (skipSpaces rest)).bind_congr ?_
          intro others behind
          have short := (behind.trans ((skipSpaces_suffix rest).trans
            (within.trans (skipSpaces_suffix text)))).length_le
          split
          next => rfl
          next later =>
            rw [List.length_cons] at short
            exact ih (by omega) (by omega)
          next => rfl

end Reader

end Toml
end QuotedWords
