import QuotedWords.Proofs.Position
import QuotedWords.Proofs.Text.Lines

/-!
# The line of a place

A place cuts a text in what stands before it and what follows.  However the text
is cut into lines, as long as every newline before the place ends one, the line
of the place is counted by those newlines, and begins with what follows the last
of them.
-/

namespace QuotedWords
namespace Text

theorem lastLine_append_of_not_mem (front : Text) {body : Text}
    (free : '\n' ∉ body) :
    lastLine (front ++ body) = lastLine front ++ body := by
  induction body using List.reverseRecOn with
  | nil => simp
  | append_singleton body c ih =>
      rw [List.mem_append, List.mem_singleton, not_or] at free
      rw [← List.append_assoc, lastLine_append_singleton, if_neg (Ne.symm free.2), ih free.1,
        List.append_assoc]

theorem lastLine_of_not_mem {body : Text}
    (free : '\n' ∉ body) :
    lastLine body = body :=
  lastLine_append_of_not_mem [] free

theorem lastLine_append_newline (front rest : Text) :
    lastLine (front ++ '\n' :: rest) = lastLine rest := by
  induction rest using List.reverseRecOn with
  | nil =>
      rw [lastLine_append_singleton, if_pos rfl]
      rfl
  | append_singleton rest c ih =>
      rw [← List.cons_append, ← List.append_assoc, lastLine_append_singleton,
        lastLine_append_singleton, ih]

/--
The line of a place, for any way of cutting.  In a text that is regular before
the place, a newline has to end the first line and to leave the rest as it is.
-/
theorem getElem?_place (Regular : Text → Prop) (rows : List Text)
    {cut : Text → List Text} {text row : Text}
    (line : ∀ body rest, '\n' ∉ body → Regular (body ++ '\n' :: rest) →
      Regular rest ∧ ∃ first, cut (body ++ '\n' :: rest ++ text) = first :: cut (rest ++ text))
    (last : ∀ body, '\n' ∉ body → Regular body → cut (body ++ text) = (body ++ row) :: rows)
    (before : Text) (regular : Regular before) :
    (cut (before ++ text))[before.count '\n']? = some (lastLine before ++ row) := by
  induction before using line_induction with
  | last body free =>
      rw [last body free regular, List.count_eq_zero.mpr free, lastLine_of_not_mem free]
      rfl
  | line body rest free ih =>
      rcases line body rest free regular with ⟨later, first, cuts⟩
      have count : (body ++ '\n' :: rest).count '\n' = rest.count '\n' + 1 := by
        rw [List.count_append, List.count_cons_self, List.count_eq_zero.mpr free, Nat.zero_add]
      rw [cuts, count, lastLine_append_newline]
      exact ih later

/-!
# Lines with their newlines
-/

theorem newlineEnded_append_of_not_mem {body text row : Text} {rows : List Text}
    (free : '\n' ∉ body)
    (cuts : newlineEnded text = row :: rows) :
    newlineEnded (body ++ text) = (body ++ row) :: rows := by
  induction body with
  | nil => exact cuts
  | cons c body ih =>
      rw [List.mem_cons, not_or] at free
      rw [List.cons_append, newlineEnded, if_neg (Ne.symm free.1), ih free.2]
      rfl

theorem exists_newlineEnded_cons (c : Char) (text : Text) :
    ∃ row rows, newlineEnded (c :: text) = (c :: row) :: rows := by
  rw [newlineEnded]
  split
  next => exact ⟨[], newlineEnded text, rfl⟩
  next =>
    cases newlineEnded text with
    | nil => exact ⟨[], [], rfl⟩
    | cons row rows => exact ⟨row, rows, rfl⟩

theorem newlineEnded_place {text row : Text} {rows : List Text}
    (cuts : newlineEnded text = row :: rows) (before : Text) :
    (newlineEnded (before ++ text))[before.count '\n']? = some (lastLine before ++ row) := by
  refine getElem?_place (fun _ => True) rows ?_ ?_ before trivial
  · intro body rest free _
    refine ⟨trivial, body ++ ['\n'], ?_⟩
    rw [List.append_assoc, List.cons_append, newlineEnded_append (rest ++ text) free]
  · intro body free _
    exact newlineEnded_append_of_not_mem free cuts

/-!
# Lines between newlines
-/

theorem cutAt_append_of_not_mem {mark : Char} {body text row : Text} {rows : List Text}
    (free : mark ∉ body)
    (cuts : cutAt mark text = row :: rows) :
    cutAt mark (body ++ text) = (body ++ row) :: rows := by
  induction body with
  | nil => exact cuts
  | cons c body ih =>
      rw [List.mem_cons, not_or] at free
      rw [List.cons_append, cutAt, if_neg (Ne.symm free.1), ih free.2]
      rfl

theorem exists_cutAt (mark : Char) (text : Text) :
    ∃ rows, cutAt mark text = text.takeWhile (· != mark) :: rows := by
  induction text with
  | nil => exact ⟨[], rfl⟩
  | cons c text ih =>
      rcases ih with ⟨rows, cuts⟩
      by_cases same : c = mark
      · exact ⟨cutAt mark text, by simp [cutAt, same]⟩
      · exact ⟨rows, by simp [cutAt, same, cuts, consRow]⟩

theorem cutAt_place (before text : Text) :
    (cutAt '\n' (before ++ text))[before.count '\n']? =
      some (lastLine before ++ text.takeWhile (· != '\n')) := by
  rcases exists_cutAt '\n' text with ⟨rows, cuts⟩
  refine getElem?_place (fun _ => True) rows ?_ ?_ before trivial
  · intro body rest free _
    refine ⟨trivial, body, ?_⟩
    rw [List.append_assoc, List.cons_append, cutAt_append '\n' body (rest ++ text) free]
  · intro body free _
    exact cutAt_append_of_not_mem free cuts

/-- Pieces that are joined by a mark are cut apart at it. -/
theorem cutAt_joinWith {pieces : List Text} {mark : Char}
    (free : ∀ piece ∈ pieces, mark ∉ piece) (nonempty : pieces ≠ []) :
    cutAt mark (joinWith [mark] pieces) = pieces := by
  induction pieces with
  | nil => exact absurd rfl nonempty
  | cons piece rest ih =>
      rcases List.forall_mem_cons.mp free with ⟨first, others⟩
      cases rest with
      | nil =>
          have empty : cutAt mark [] = [[]] := rfl
          have cuts := cutAt_append_of_not_mem first empty
          rw [List.append_nil] at cuts
          rw [joinWith_singleton]
          exact cuts
      | cons other rest =>
          have later := ih others (List.cons_ne_nil other rest)
          rw [joinWith_cons_cons, List.singleton_append, cutAt_append mark piece _ first, later]

end Text
end QuotedWords
