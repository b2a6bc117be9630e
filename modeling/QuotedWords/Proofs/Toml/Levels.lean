import QuotedWords.Toml.Document

/-!
# The levels of the TOML reader

How deep values may lie in one another decides only whether a reading stops for being
too deep.  What is read in some levels is read alike in more of them, and so is every
other fault.
-/

namespace QuotedWords
namespace Toml

/-- A reading in more levels is the same, unless the one in fewer of them was too deep. -/
def Deepens {α : Type} (reading deeper : Except Stop α) : Prop :=
  (∃ rest, reading = stop .nestedTooDeeply rest) ∨ deeper = reading

namespace Deepens

variable {α β : Type} {reading deeper : Except Stop α} {next nextDeeper : α → Except Stop β}

theorem refl (reading : Except Stop α) : Deepens reading reading :=
  Or.inr rfl

theorem bind (first : Deepens reading deeper)
    (second : ∀ answer, Deepens (next answer) (nextDeeper answer)) :
    Deepens (reading >>= next) (deeper >>= nextDeeper) := by
  rcases first with ⟨rest, deep⟩ | same
  · exact Or.inl ⟨rest, by rw [deep]; rfl⟩
  · rw [same]
    cases reading with
    | error stopped => exact .refl _
    | ok answer => exact second answer

end Deepens

/-!
# Values
-/

/-- With more levels every reader of values reads what it reads with fewer. -/
structure ValuesDeepen (budget : Nat) : Prop where
  value : ∀ {levels more : Nat}, levels ≤ more → ∀ text,
    Deepens (value budget levels text) (value budget more text)
  items : ∀ {levels more : Nat}, levels ≤ more → ∀ text,
    Deepens (items budget levels text) (items budget more text)
  fields : ∀ {levels more : Nat}, levels ≤ more → ∀ entries text,
    Deepens (fields budget levels entries text) (fields budget more entries text)
  assignment : ∀ {levels more : Nat}, levels ≤ more → ∀ text,
    Deepens (assignment budget levels text) (assignment budget more text)

namespace ValuesDeepen

variable {budget : Nat}

theorem zero : ValuesDeepen 0 := by
  constructor
  · intro levels more _ text
    rw [Toml.value, Toml.value]
    exact .refl _
  · intro levels more _ text
    rw [Toml.items, Toml.items]
    exact .refl _
  · intro levels more _ entries text
    rw [Toml.fields, Toml.fields]
    exact .refl _
  · intro levels more _ text
    rw [Toml.assignment, Toml.assignment]
    exact .refl _

variable (inner : ValuesDeepen budget) {levels more : Nat} (fewer : levels ≤ more)
include inner fewer

theorem value_succ (text : Text) :
    Deepens (Toml.value (budget + 1) levels text) (Toml.value (budget + 1) more text) := by
  unfold Toml.value
  split
  next impossible => cases impossible
  next rest same =>
    cases same
    split
    · exact Or.inl ⟨rest, rfl⟩
    · rw [if_neg (by omega)]
      refine (Deepens.refl _).bind ?_
      intro opened
      refine (inner.items (Nat.sub_le_sub_right fewer 2) opened).bind ?_
      intro answer
      exact .refl _
  next rest same =>
    cases same
    split
    · exact Or.inl ⟨rest, rfl⟩
    · rw [if_neg (by omega)]
      split
      next => exact .refl _
      next => exact inner.fields (Nat.sub_le_sub_right fewer 3) _ _
  next => exact .refl _

theorem items_succ (text : Text) :
    Deepens (Toml.items (budget + 1) levels text) (Toml.items (budget + 1) more text) := by
  unfold Toml.items
  split
  next impossible => cases impossible
  next => exact .refl _
  next same _ =>
    cases same
    refine (inner.value fewer _).bind ?_
    rintro ⟨item, rest⟩
    refine (Deepens.refl _).bind ?_
    intro opened
    split
    next others =>
      refine (Deepens.refl _).bind ?_
      intro later
      refine (inner.items fewer later).bind ?_
      intro answer
      exact .refl _
    next => exact .refl _
    next => exact .refl _

theorem fields_succ (entries : Entries) (text : Text) :
    Deepens (Toml.fields (budget + 1) levels entries text)
      (Toml.fields (budget + 1) more entries text) := by
  rw [Toml.fields, Toml.fields]
  refine (inner.assignment fewer text).bind ?_
  rintro ⟨⟨path, field⟩, rest⟩
  dsimp only
  split
  next => exact .refl _
  next =>
    split
    next => exact inner.fields fewer _ _
    next => exact .refl _
    next => exact .refl _

theorem assignment_succ (text : Text) :
    Deepens (Toml.assignment (budget + 1) levels text)
      (Toml.assignment (budget + 1) more text) := by
  rw [Toml.assignment, Toml.assignment]
  refine (Deepens.refl _).bind ?_
  rintro ⟨path, rest⟩
  dsimp only
  split
  next others =>
    refine (inner.value fewer (skipSpaces others)).bind ?_
    intro answer
    exact .refl _
  next => exact .refl _

end ValuesDeepen

theorem values_deepen (budget : Nat) : ValuesDeepen budget := by
  induction budget with
  | zero => exact .zero
  | succ budget ih =>
      exact ⟨fun fewer => ih.value_succ fewer, fun fewer => ih.items_succ fewer,
        fun fewer => ih.fields_succ fewer, fun fewer => ih.assignment_succ fewer⟩

/-!
# Documents
-/

section Documents

variable {levels more : Nat} (fewer : levels ≤ more)
include fewer

namespace Reader

theorem statement_deepens (reader : Reader) (text : Text) :
    Deepens (reader.statement levels text) (reader.statement more text) := by
  unfold statement
  split
  next => exact .refl _
  next => exact .refl _
  next => exact .refl _
  next =>
    split
    · exact .refl _
    · split
      · unfold assign
        refine ((values_deepen _).assignment fewer _).bind ?_
        intro answer
        exact .refl _
      · exact .refl _

theorem statements_deepen (budget : Nat) (reader : Reader) (text : Text) :
    Deepens (statements levels budget reader text) (statements more budget reader text) := by
  induction budget generalizing reader text with
  | zero => exact .refl _
  | succ budget ih =>
      rw [statements, statements]
      refine (reader.statement_deepens fewer (skipSpaces text)).bind ?_
      rintro ⟨reader, rest⟩
      refine (Deepens.refl _).bind ?_
      intro others
      split
      next => exact .refl _
      next later => exact ih reader later
      next => exact .refl _

end Reader

/-- In more levels a document is read as in fewer, unless it is too deep for those. -/
theorem read_deepens (document : Text) :
    (∃ place, read levels document = .error ⟨.nestedTooDeeply, place⟩) ∨
      read more document = read levels document := by
  rcases Reader.statements_deepen fewer ((joinLineEnds document).length + 1) {}
    (joinLineEnds document) with ⟨rest, deep⟩ | same
  · left
    refine ⟨placeOf (joinLineEnds document) rest, ?_⟩
    simp only [read, deep, stop, Stop.flaw]
  · right
    simp only [read, same]

end Documents

end Toml
end QuotedWords
