import QuotedWords.Text.Quoted
import QuotedWords.Proofs.Text.Places

/-!
# Texts on one line

Numerals and quoted displays hold no newline, whatever they stand for, so they
can be put on a line of their own.
-/

namespace QuotedWords
namespace Text

/-!
# Numerals and blanks
-/

theorem exists_digit_of_mem_toDigits {base n : Nat} {c : Char}
    (wide : 1 < base)
    (member : c ∈ Nat.toDigits base n) :
    ∃ digit, c = Nat.digitChar digit := by
  induction n using Nat.strongRecOn with
  | ind n ih =>
      by_cases small : n < base
      · rw [Nat.toDigits_of_lt_base small, List.mem_singleton] at member
        exact ⟨n, member⟩
      · rw [Nat.not_lt] at small
        rw [Nat.toDigits_of_base_le wide small, List.mem_append, List.mem_singleton] at member
        rcases member with front | last
        · have positive : 0 < n := Nat.lt_of_lt_of_le (Nat.zero_lt_of_lt wide) small
          exact ih (n / base) (Nat.div_lt_self positive wide) front
        · exact ⟨n % base, last⟩

theorem newline_not_mem_toDigits {base : Nat} (wide : 1 < base) (n : Nat) :
    '\n' ∉ Nat.toDigits base n := by
  intro member
  rcases exists_digit_of_mem_toDigits wide member with ⟨digit, same⟩
  simp at same

theorem newline_not_mem_ofInt (value : Int) : '\n' ∉ ofInt value := by
  cases value with
  | ofNat n => exact newline_not_mem_toDigits (by decide) n
  | negSucc n =>
      rw [ofInt, List.mem_cons, not_or]
      exact ⟨by decide, newline_not_mem_toDigits (by decide) (n + 1)⟩

theorem newline_not_mem_spaces (n : Nat) : '\n' ∉ spaces n := by
  intro member
  cases List.eq_of_mem_replicate member

theorem newline_not_mem_hexadecimal (width n : Nat) : '\n' ∉ hexadecimal width n := by
  rw [hexadecimal, List.mem_append, not_or]
  constructor
  · intro member
    cases List.eq_of_mem_replicate member
  · exact newline_not_mem_toDigits (by decide) n

/-!
# Quoted displays
-/

theorem newline_not_mem_codePointEscape (c : Char) : '\n' ∉ codePointEscape c := by
  unfold codePointEscape
  split
  · simp [newline_not_mem_hexadecimal]
  · split <;> simp [newline_not_mem_hexadecimal]

theorem newline_not_mem_displayChar {delimiter : Char} (c : Char)
    (other : delimiter ≠ '\n') :
    '\n' ∉ displayChar delimiter c := by
  by_cases newline : c = '\n'
  · rw [newline, displayChar, if_neg (by simp [Ne.symm other]), if_pos rfl]
    decide
  · rw [displayChar, if_neg newline]
    split
    next => simp [Ne.symm newline]
    next =>
      split
      next => decide
      next =>
        split
        next => decide
        next =>
          split
          next => simp [Ne.symm newline]
          next => exact newline_not_mem_codePointEscape c

theorem delimiter_ne_newline (text : Text) : delimiter text ≠ '\n' := by
  unfold delimiter
  split <;> decide

theorem newline_not_mem_display (text : Text) : '\n' ∉ display text := by
  have other := delimiter_ne_newline text
  simp only [display, List.mem_cons, List.mem_append, List.mem_flatMap, List.mem_nil_iff,
    or_false, not_or]
  refine ⟨Ne.symm other, ?_, Ne.symm other⟩
  rintro ⟨c, -, member⟩
  exact newline_not_mem_displayChar c other member

end Text
end QuotedWords
