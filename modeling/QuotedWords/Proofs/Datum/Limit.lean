import QuotedWords.Datum.Limit

/-!
# Data that can be shown

A datum can be shown in a number of levels exactly when its lists and tables do not
lie deeper in one another than that, and no integer in it is too long for a numeral.
-/

namespace QuotedWords

/-- An integer has no more digits than a numeral can have; no other scalar is too long. -/
def Scalar.IsShort (scalar : Scalar) : Prop :=
  ∀ number, scalar = .integer number →
    (Text.ofNat number.natAbs).length ≤ Text.longestNumeral

theorem Text.excessDigits?_eq_none_iff {value : Int} :
    excessDigits? value = none ↔ (ofNat value.natAbs).length ≤ longestNumeral := by
  show (if longestNumeral < _ then some _ else none) = none ↔ _
  rw [ite_eq_right_iff, ← Nat.not_lt]
  simp

theorem Scalar.excess?_eq_none_iff {scalar : Scalar} :
    scalar.excess? = none ↔ scalar.IsShort := by
  cases scalar with
  | integer number =>
      show Text.excessDigits? number = none ↔ _
      rw [Text.excessDigits?_eq_none_iff]
      constructor
      · rintro short _ ⟨⟩
        exact short
      · intro short
        exact short number rfl
  | _ =>
      constructor
      · intro _ number same
        cases same
      · intro _
        rfl

namespace Datum

/--
The datum and all data in it are within this many levels, one below the other, and
no integer in it is too long.
-/
inductive FitsIn : Nat → Datum → Prop where
  | scalar {levels : Nat} {value : Scalar}
      (short : value.IsShort) :
      FitsIn (levels + 1) (.scalar value)
  | mode {levels : Nat} {value : QuoteMode} :
      FitsIn (levels + 1) (.mode value)
  | list {levels : Nat} {items : List Datum}
      (each : ∀ item ∈ items, FitsIn levels item) :
      FitsIn (levels + 1) (.list items)
  | table {levels : Nat} {entries : List (Text × Datum)}
      (each : ∀ entry ∈ entries, FitsIn levels entry.2) :
      FitsIn (levels + 1) (.table entries)

theorem itemsLimit?_eq_none_iff {levels : Nat} {items : List Datum} :
    itemsLimit? levels items = none ↔ ∀ item ∈ items, limitWithin? levels item = none := by
  induction items with
  | nil => simp [itemsLimit?]
  | cons item rest ih => simp [itemsLimit?, Option.or_eq_none_iff, ih]

theorem entriesLimit?_eq_none_iff {levels : Nat} {entries : List (Text × Datum)} :
    entriesLimit? levels entries = none ↔
      ∀ entry ∈ entries, limitWithin? levels entry.2 = none := by
  induction entries with
  | nil => simp [entriesLimit?]
  | cons entry rest ih => simp [entriesLimit?, Option.or_eq_none_iff, ih]

theorem limitWithin?_eq_none_iff {levels : Nat} {datum : Datum} :
    limitWithin? levels datum = none ↔ FitsIn levels datum := by
  induction levels generalizing datum with
  | zero =>
      constructor
      · intro shown
        rw [limitWithin?] at shown
        cases shown
      · intro fits
        cases fits
  | succ levels ih =>
      cases datum with
      | scalar value =>
          rw [limitWithin?, Option.map_eq_none_iff, Scalar.excess?_eq_none_iff]
          constructor
          · exact .scalar
          · rintro ⟨short⟩
            exact short
      | mode value =>
          rw [limitWithin?]
          exact ⟨fun _ => .mode, fun _ => rfl⟩
      | list items =>
          rw [limitWithin?, itemsLimit?_eq_none_iff]
          constructor
          · intro each
            exact .list fun item member => ih.mp (each item member)
          · intro fits
            cases fits with
            | list each => exact fun item member => ih.mpr (each item member)
      | table entries =>
          rw [limitWithin?, entriesLimit?_eq_none_iff]
          constructor
          · intro each
            exact .table fun entry member => ih.mp (each entry member)
          · intro fits
            cases fits with
            | table each => exact fun entry member => ih.mpr (each entry member)

/-- Tables in one another, and a number in the innermost of them. -/
def nested : Nat → Datum
  | 0 => .scalar (.integer 1)
  | depth + 1 => .table [("a".toList, nested depth)]

/-- What lies deeper than there are levels cannot be shown. -/
theorem limitWithin?_nested {levels depth : Nat}
    (deep : levels ≤ depth) :
    limitWithin? levels (nested depth) = some .depth := by
  induction levels generalizing depth with
  | zero => rw [limitWithin?]
  | succ levels ih =>
      cases depth with
      | zero => cases deep
      | succ depth =>
          rw [nested, limitWithin?, entriesLimit?, ih (Nat.le_of_succ_le_succ deep)]
          rfl

theorem nested_ne_scalar {depth : Nat} (positive : 0 < depth) (value : Scalar) :
    nested depth ≠ .scalar value := by
  cases depth with
  | zero => cases positive
  | succ depth =>
      intro same
      rw [nested] at same
      cases same

end Datum
end QuotedWords
