import QuotedWords.Text.JsonString
import QuotedWords.Proofs.Text.Lines

/-!
# Written JSON is read back

An array of strings that has been written is read as these strings, and it is on
one line: all characters in it are from the space on.
-/

namespace QuotedWords
namespace Text

/-!
# Code points in four hexadecimal digits
-/

theorem hexadecimal_four_of_small {n : Nat}
    (small : n < 0x100) :
    hexadecimal 4 n = ['0', '0', (n / 16).digitChar, (n % 16).digitChar] := by
  unfold hexadecimal
  by_cases single : n < 16
  · rw [Nat.toDigits_of_lt_base single, Nat.div_eq_of_lt single, Nat.mod_eq_of_lt single]
    rfl
  · have quotient : n / 16 < 16 := by omega
    rw [Nat.toDigits_of_base_le (by decide) (Nat.le_of_not_lt single),
      Nat.toDigits_of_lt_base quotient]
    rfl

theorem charOfCodePoint?_toNat (c : Char) : charOfCodePoint? c.toNat = some c := by
  have valid : c.toNat.isValidChar := c.valid
  rw [charOfCodePoint?, dif_pos valid]
  rfl

theorem charOfHexadecimal?_of_small {c : Char}
    (small : c.toNat < 0x100) :
    charOfHexadecimal? ['0', '0', (c.toNat / 16).digitChar, (c.toNat % 16).digitChar] =
      some c := by
  have zero : hexValue? '0' = some 0 := rfl
  have value : c.toNat / 16 * 16 + c.toNat % 16 = c.toNat := by omega
  have read := charOfCodePoint?_toNat c
  simp [charOfHexadecimal?, zero, hexValue?_digitChar (show c.toNat / 16 < 16 by omega),
    hexValue?_digitChar (Nat.mod_lt c.toNat (by decide : 0 < 16)), value, read]

/-!
# One string
-/

theorem readJsonItems_letter {letter meant : Char} (rest : Text)
    (means : jsonMeaning? letter = some meant) :
    readJsonItems .inside ('\\' :: letter :: rest) =
      (readJsonItems .inside rest).map (consRow meant) := by
  have notCode : letter ≠ 'u' := by
    rintro rfl
    cases means
  rw [readJsonItems, means]
  · rfl
  · intro _ _ _ _ _ same
    exact absurd same notCode

theorem readJsonItems_code {a b c d meant : Char} (rest : Text)
    (means : charOfHexadecimal? [a, b, c, d] = some meant) :
    readJsonItems .inside ('\\' :: 'u' :: a :: b :: c :: d :: rest) =
      (readJsonItems .inside rest).map (consRow meant) := by
  rw [readJsonItems, means]
  rfl

theorem readJsonItems_plain {c : Char} (rest : Text)
    (notQuote : c ≠ '"') (notSlash : c ≠ '\\') (visible : ¬ c.toNat < 0x20) :
    readJsonItems .inside (c :: rest) = (readJsonItems .inside rest).map (consRow c) := by
  rw [readJsonItems]
  · simp [visible, notSlash]
  · exact notQuote
  · intro _ _ _ _ _ same
    exact absurd same notSlash
  · intro _ _ same
    exact absurd same notSlash

theorem jsonMeaning?_of_jsonLetter {c letter : Char}
    (escapes : jsonLetter c = some letter) :
    jsonMeaning? letter = some c := by
  unfold jsonLetter at escapes
  split at escapes <;> cases escapes <;> rfl

/-- What is written for a character is read as the character. -/
theorem readJsonItems_jsonChar (c : Char) (rest : Text) :
    readJsonItems .inside (jsonChar c ++ rest) =
      (readJsonItems .inside rest).map (consRow c) := by
  unfold jsonChar
  split
  next marked =>
    have means : jsonMeaning? c = some c := by
      rcases marked with rfl | rfl <;> rfl
    exact readJsonItems_letter rest means
  next unmarked =>
    rw [not_or] at unmarked
    split
    next letter escapes => exact readJsonItems_letter rest (jsonMeaning?_of_jsonLetter escapes)
    next =>
      split
      next control =>
        have small : c.toNat < 0x100 := Nat.lt_trans control (by decide)
        rw [hexadecimal_four_of_small small]
        exact readJsonItems_code rest (charOfHexadecimal?_of_small small)
      next visible => exact readJsonItems_plain rest unmarked.1 unmarked.2 visible

theorem readJsonItems_inside (text rest : Text) :
    readJsonItems .inside (text.flatMap jsonChar ++ '"' :: rest) =
      (readJsonItems .after rest).map fun items => text :: items := by
  induction text with
  | nil => rw [List.flatMap_nil, List.nil_append, readJsonItems]
  | cons c text ih =>
      rw [List.flatMap_cons, List.append_assoc, readJsonItems_jsonChar, ih, Option.map_map]
      rfl

/-- A string is read alike at the beginning of an array and after a comma. -/
theorem readJsonItems_jsonString {spot : JsonSpot} (text rest : Text)
    (starts : spot = .opened ∨ spot = .item) :
    readJsonItems spot (jsonString text ++ rest) =
      (readJsonItems .after rest).map fun items => text :: items := by
  rw [← readJsonItems_inside, jsonString, List.cons_append, List.append_assoc,
    List.singleton_append]
  rcases starts with rfl | rfl <;> rw [readJsonItems]

/-!
# Arrays of strings
-/

theorem readJsonItems_joinWith {spot : JsonSpot} (text : Text) (texts : List Text)
    (starts : spot = .opened ∨ spot = .item) :
    readJsonItems spot (joinWith [',', ' '] ((text :: texts).map jsonString) ++ [']']) =
      some (text :: texts) := by
  induction texts generalizing spot text with
  | nil =>
      rw [List.map_singleton, joinWith_singleton, readJsonItems_jsonString text _ starts]
      rfl
  | cons other rest ih =>
      have later := ih other (Or.inr rfl)
      rw [List.map_cons] at later
      rw [List.map_cons, List.map_cons, joinWith_cons_cons, List.append_assoc,
        readJsonItems_jsonString text _ starts]
      change ((readJsonItems .item (joinWith [',', ' ']
        (jsonString other :: rest.map jsonString) ++ [']'])).map _) = _
      rw [later]
      rfl

/-- An array that has been written is read as what it was written for. -/
theorem readJsonArray_jsonArray (texts : List Text) :
    readJsonArray (jsonArray texts) = some texts := by
  cases texts with
  | nil => rfl
  | cons text rest => exact readJsonItems_joinWith text rest (Or.inl rfl)

/-!
# Arrays are on one line
-/

/-- All characters of the text are from the space on. -/
def AllVisible (text : Text) : Prop :=
  ∀ c ∈ text, 0x20 ≤ c.toNat

instance (text : Text) : Decidable (AllVisible text) :=
  List.decidableBAll (fun c : Char => 0x20 ≤ c.toNat) text

theorem AllVisible.append {first second : Text}
    (front : AllVisible first) (back : AllVisible second) :
    AllVisible (first ++ second) :=
  List.forall_mem_append.mpr ⟨front, back⟩

theorem AllVisible.joinWith {separator : Text} {texts : List Text}
    (between : AllVisible separator) (each : ∀ text ∈ texts, AllVisible text) :
    AllVisible (joinWith separator texts) := by
  induction texts with
  | nil => exact List.forall_mem_nil _
  | cons text rest ih =>
      rcases List.forall_mem_cons.mp each with ⟨first, others⟩
      cases rest with
      | nil =>
          rw [joinWith_singleton]
          exact first
      | cons other rest =>
          rw [joinWith_cons_cons]
          exact first.append (between.append (ih others))

theorem digitChar_visible {n : Nat} (digit : n < 16) : 0x20 ≤ n.digitChar.toNat := by
  have all : ∀ n : Fin 16, 0x20 ≤ n.val.digitChar.toNat := by decide
  exact all ⟨n, digit⟩

theorem allVisible_jsonChar (c : Char) : AllVisible (jsonChar c) := by
  unfold jsonChar
  split
  next marked => rcases marked with rfl | rfl <;> decide
  next =>
    split
    next letter escapes =>
      unfold jsonLetter at escapes
      split at escapes <;> cases escapes <;> decide
    next =>
      split
      next control =>
        have small : c.toNat < 0x100 := Nat.lt_trans control (by decide)
        have high := digitChar_visible (show c.toNat / 16 < 16 by omega)
        have low := digitChar_visible (show c.toNat % 16 < 16 by omega)
        rw [hexadecimal_four_of_small small]
        have zeros : AllVisible ['\\', 'u', '0', '0'] := by decide
        exact zeros.append (List.forall_mem_cons.mpr ⟨high, List.forall_mem_singleton.mpr low⟩)
      next visible => exact List.forall_mem_singleton.mpr (Nat.le_of_not_lt visible)

theorem allVisible_jsonString (text : Text) : AllVisible (jsonString text) := by
  have quote : AllVisible ['"'] := by decide
  have inside : AllVisible (text.flatMap jsonChar) := by
    intro c member
    rcases List.mem_flatMap.mp member with ⟨d, -, written⟩
    exact allVisible_jsonChar d c written
  exact quote.append (inside.append quote)

theorem allVisible_jsonArray (texts : List Text) : AllVisible (jsonArray texts) := by
  have opening : AllVisible ['['] := by decide
  have closing : AllVisible [']'] := by decide
  have between : AllVisible [',', ' '] := by decide
  refine opening.append (AllVisible.append (between.joinWith ?_) closing)
  intro written member
  rcases List.mem_map.mp member with ⟨text, -, rfl⟩
  exact allVisible_jsonString text

end Text
end QuotedWords
