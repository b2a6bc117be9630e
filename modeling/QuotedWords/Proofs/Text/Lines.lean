import QuotedWords.Text.Lines
import QuotedWords.Proofs.Text.Trimming

/-!
# Texts as lines

A text is either a line without an end, or a line, its newline and a shorter
text; what is proved of texts line by line is proved along these two cases.
-/

namespace QuotedWords
namespace Text

theorem newlineEnded_append {body : Text} (rest : Text)
    (free : '\n' ∉ body) :
    newlineEnded (body ++ '\n' :: rest) = (body ++ ['\n']) :: newlineEnded rest := by
  induction body with
  | nil => simp [newlineEnded]
  | cons c body ih =>
      rw [List.mem_cons, not_or] at free
      simp [newlineEnded, Ne.symm free.1, ih free.2, consRow]

theorem newlineEnded_of_not_mem {body : Text}
    (free : '\n' ∉ body) :
    newlineEnded body = if body = [] then [] else [body] := by
  induction body with
  | nil => rfl
  | cons c body ih =>
      rw [List.mem_cons, not_or] at free
      rw [newlineEnded, if_neg (Ne.symm free.1), ih free.2]
      split
      next empty => simp [empty, consRow]
      next => simp [consRow]

/-- Cut at its marks, what holds of a text without marks holds of every text. -/
theorem cut_induction (mark : Char → Bool) {motive : Text → Prop}
    (last : ∀ body, (∀ c ∈ body, mark c = false) → motive body)
    (cut : ∀ body c rest, (∀ d ∈ body, mark d = false) → mark c = true → motive rest →
      motive (body ++ c :: rest))
    (text : Text) :
    motive text := by
  induction size : text.length using Nat.strongRecOn generalizing text with
  | ind n ih =>
      have parts : text.takeWhile (fun c => !mark c) ++ text.dropWhile (fun c => !mark c) = text :=
        List.takeWhile_append_dropWhile
      have free : ∀ c ∈ text.takeWhile (fun c => !mark c), mark c = false := by
        intro c member
        simpa using passes_of_mem_takeWhile member
      have ended := List.head?_dropWhile_not (fun c => !mark c) text
      generalize text.takeWhile (fun c => !mark c) = body at parts free
      cases dropped : text.dropWhile (fun c => !mark c) with
      | nil =>
          rw [dropped, List.append_nil] at parts
          exact parts ▸ last body free
      | cons c rest =>
          rw [dropped] at parts ended
          rw [← parts] at size ⊢
          refine cut body c rest free (by simpa using ended) (ih rest.length ?_ rest rfl)
          simp only [List.length_append, List.length_cons] at size
          omega

/-- Line by line, what holds of a text without newlines holds of every text. -/
theorem line_induction {motive : Text → Prop}
    (last : ∀ body, '\n' ∉ body → motive body)
    (line : ∀ body rest, '\n' ∉ body → motive rest → motive (body ++ '\n' :: rest))
    (text : Text) :
    motive text := by
  have free {body : Text} (unmarked : ∀ c ∈ body, (c == '\n') = false) : '\n' ∉ body := by
    intro member
    cases unmarked '\n' member
  refine cut_induction (· == '\n') ?_ ?_ text
  · intro body unmarked
    exact last body (free unmarked)
  · intro body c rest unmarked marked later
    rw [eq_of_beq marked]
    exact line body rest (free unmarked) later

/-- What has at most one newline, at its end, loses it with all that is dropped there. -/
theorem newline_not_mem_dropEndWhile {test : Char → Bool} {line : Text}
    (drops : test '\n' = true)
    (whole : '\n' ∉ line.dropLast) :
    '\n' ∉ dropEndWhile test line := by
  cases line using List.reverseRecOn with
  | nil => exact List.not_mem_nil
  | append_singleton front c =>
      rw [List.dropLast_concat] at whole
      cases passes : test c with
      | true =>
          rw [dropEndWhile_append_singleton_of_pos front passes]
          exact fun member => whole ((dropEndWhile_isPrefix test front).subset member)
      | false =>
          rw [dropEndWhile_append_singleton_of_neg front passes]
          apply List.not_mem_append whole
          rw [List.mem_singleton]
          rintro rfl
          cases drops.symm.trans passes

theorem trimNewlines_eq_self {body : Text}
    (noNewline : '\n' ∉ body) (noReturn : '\r' ∉ body) :
    trimNewlines body = body := by
  apply dropEndWhile_eq_self
  intro c member
  have notReturn : c ≠ '\r' := fun same => noReturn (same ▸ member)
  have notNewline : c ≠ '\n' := fun same => noNewline (same ▸ member)
  simp [notReturn, notNewline]

theorem trimNewlines_append_newline {body : Text}
    (noNewline : '\n' ∉ body) (noReturn : '\r' ∉ body) :
    trimNewlines (body ++ ['\n']) = body := by
  have passes : ('\n' == '\r' || '\n' == '\n') = true := by decide
  rw [trimNewlines, dropEndWhile_append_singleton_of_pos body passes]
  exact trimNewlines_eq_self noNewline noReturn

/-!
# Joined pieces
-/

theorem joinWith_singleton (separator piece : Text) :
    joinWith separator [piece] = piece := by
  simp [joinWith, List.intercalate]

theorem joinWith_cons_cons (separator piece other : Text) (rest : List Text) :
    joinWith separator (piece :: other :: rest) =
      piece ++ (separator ++ joinWith separator (other :: rest)) := by
  simp [joinWith, List.intercalate]

theorem joinWith_append_singleton {pieces : List Text} (separator last : Text)
    (nonempty : pieces ≠ []) :
    joinWith separator (pieces ++ [last]) = joinWith separator pieces ++ separator ++ last := by
  induction pieces with
  | nil => exact absurd rfl nonempty
  | cons piece rest ih =>
      cases rest with
      | nil =>
          rw [List.singleton_append, joinWith_cons_cons, joinWith_singleton, joinWith_singleton,
            List.append_assoc]
      | cons other rest =>
          have later := ih (List.cons_ne_nil other rest)
          rw [List.cons_append] at later
          rw [List.cons_append, List.cons_append, joinWith_cons_cons, joinWith_cons_cons, later]
          simp only [List.append_assoc]

end Text
end QuotedWords
