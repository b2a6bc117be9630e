import Mathlib.Data.List.Induction
import QuotedWords.Text.Blank

/-!
# Trimming at the end

A text is its trimmed text followed by what has been trimmed, all of which
passes the test.
-/

namespace QuotedWords
namespace Text

theorem exists_dropEndWhile_append (test : Char → Bool) (text : Text) :
    ∃ dropped, text = dropEndWhile test text ++ dropped ∧
      ∀ c ∈ dropped, test c = true := by
  refine ⟨(text.reverse.takeWhile test).reverse, ?_, ?_⟩
  · rw [dropEndWhile, ← List.reverse_append, List.takeWhile_append_dropWhile,
      List.reverse_reverse]
  · intro c member
    exact passes_of_mem_takeWhile (List.mem_reverse.mp member)

theorem exists_trimEnd_append (text : Text) :
    ∃ dropped, text = trimEnd text ++ dropped ∧ AllBlank dropped :=
  exists_dropEndWhile_append isBlank text

theorem isBlank_newline : isBlank '\n' = true := by
  decide

theorem allBlank_nil : AllBlank [] :=
  List.forall_mem_nil _

theorem AllBlank.cons {c : Char} {blanks : Text}
    (rest : AllBlank blanks)
    (blank : isBlank c = true) :
    AllBlank (c :: blanks) :=
  List.forall_mem_cons.mpr ⟨blank, rest⟩

theorem AllBlank.append {first second : Text}
    (front : AllBlank first)
    (back : AllBlank second) :
    AllBlank (first ++ second) := by
  intro c member
  rcases List.mem_append.mp member with inside | outside
  · exact front c inside
  · exact back c outside

theorem allBlank_newline : AllBlank ['\n'] :=
  List.forall_mem_singleton.mpr isBlank_newline

theorem dropEndWhile_eq_self {test : Char → Bool} {text : Text}
    (fails : ∀ c ∈ text, test c = false) :
    dropEndWhile test text = text := by
  cases text using List.reverseRecOn with
  | nil => rfl
  | append_singleton front c =>
      exact dropEndWhile_append_singleton_of_neg front (fails c (by simp))

theorem dropEndWhile_eq_nil {test : Char → Bool} {text : Text}
    (passes : ∀ c ∈ text, test c = true) :
    dropEndWhile test text = [] := by
  induction text using List.reverseRecOn with
  | nil => rfl
  | append_singleton front c ih =>
      rw [dropEndWhile_append_singleton_of_pos front (passes c (by simp))]
      exact ih fun d member => passes d (List.mem_append_left _ member)

theorem dropEndWhile_append_cons {test : Char → Bool} {c : Char} (front rest : Text)
    (fails : test c = false) :
    dropEndWhile test (front ++ c :: rest) = front ++ c :: dropEndWhile test rest := by
  induction rest using List.reverseRecOn with
  | nil => exact dropEndWhile_append_singleton_of_neg front fails
  | append_singleton rest d ih =>
      rw [← List.cons_append, ← List.append_assoc]
      cases last : test d with
      | true =>
          rw [dropEndWhile_append_singleton_of_pos _ last,
            dropEndWhile_append_singleton_of_pos _ last, ih]
      | false =>
          rw [dropEndWhile_append_singleton_of_neg _ last,
            dropEndWhile_append_singleton_of_neg _ last]
          simp

theorem dropEndWhile_append (test : Char → Bool) (front back : Text) :
    dropEndWhile test (front ++ back) =
      if dropEndWhile test back = [] then dropEndWhile test front
      else front ++ dropEndWhile test back := by
  simp only [dropEndWhile, List.reverse_append, List.dropWhile_append, List.isEmpty_iff,
    List.reverse_eq_nil_iff]
  split
  next => rfl
  next => simp

theorem trimEnd_append_of_allBlank {blanks : Text} (front : Text)
    (all : AllBlank blanks) :
    trimEnd (front ++ blanks) = trimEnd front := by
  rw [trimEnd, dropEndWhile_append, if_pos (dropEndWhile_eq_nil all)]
  rfl

theorem trimEnd_append_of_solid {back : Text} (front : Text)
    (solid : trimEnd back ≠ []) :
    trimEnd (front ++ back) = front ++ trimEnd back := by
  rw [trimEnd, dropEndWhile_append]
  exact if_neg solid

theorem trimEnd_append_blanks {c : Char} {blanks : Text} (front : Text)
    (solid : isBlank c = false) (all : AllBlank blanks) :
    trimEnd (front ++ c :: blanks) = front ++ [c] := by
  rw [trimEnd, dropEndWhile_append_cons front blanks solid, dropEndWhile_eq_nil all]

theorem last_of_dropEndWhile_eq {test : Char → Bool} {text front : Text} {c : Char}
    (same : dropEndWhile test text = front ++ [c]) :
    test c = false := by
  induction text using List.reverseRecOn with
  | nil => cases front <;> cases same
  | append_singleton text d ih =>
      cases last : test d with
      | true =>
          rw [dropEndWhile_append_singleton_of_pos text last] at same
          exact ih same
      | false =>
          rw [dropEndWhile_append_singleton_of_neg text last] at same
          rcases List.append_inj' same rfl with ⟨-, ends⟩
          cases ends
          exact last

end Text
end QuotedWords
