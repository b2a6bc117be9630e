/-!
# Texts

A text is the list of its characters, one for each code point, so that every
length, column and offset in this library counts code points.  This module
holds the few operations on texts that the other modules share: trimming at
the end, decimal numerals, padding and joining.
-/

namespace QuotedWords

/-- A text, as the list of its characters. -/
abbrev Text := List Char

namespace Text

/-!
# Trimming
-/

/-- The text without the longest tail whose characters all pass the test. -/
def dropEndWhile (test : Char → Bool) (text : Text) : Text :=
  (text.reverse.dropWhile test).reverse

@[simp] theorem dropEndWhile_nil (test : Char → Bool) :
    dropEndWhile test [] = [] :=
  rfl

theorem dropEndWhile_append_singleton_of_pos
    {test : Char → Bool} {c : Char} (text : Text)
    (passes : test c = true) :
    dropEndWhile test (text ++ [c]) = dropEndWhile test text := by
  simp [dropEndWhile, passes]

theorem dropEndWhile_append_singleton_of_neg
    {test : Char → Bool} {c : Char} (text : Text)
    (fails : test c = false) :
    dropEndWhile test (text ++ [c]) = text ++ [c] := by
  simp [dropEndWhile, fails]

theorem dropEndWhile_isPrefix (test : Char → Bool) (text : Text) :
    dropEndWhile test text <+: text := by
  have tail : text.reverse.dropWhile test <:+ text.reverse :=
    List.dropWhile_suffix test
  simpa [dropEndWhile] using List.reverse_prefix.mpr tail

/-!
# Numerals, padding and joining
-/

/-- The decimal numeral of a natural number. -/
def ofNat (n : Nat) : Text :=
  Nat.toDigits 10 n

/-- The decimal numeral of an integer, with a minus sign below zero. -/
def ofInt : Int → Text
  | .ofNat n => ofNat n
  | .negSucc n => '-' :: ofNat (n + 1)

def spaces (n : Nat) : Text :=
  List.replicate n ' '

/-- The texts one after the other, with a separator between neighbours. -/
def joinWith (separator : Text) (texts : List Text) : Text :=
  separator.intercalate texts

end Text
end QuotedWords
