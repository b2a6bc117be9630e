import Mathlib.Data.List.TakeWhile
import QuotedWords.Text.Runs

/-!
# Runs that are set apart

Items that all pass a test are one run.  Runs with an item between them that fails
it are found again.
-/

namespace QuotedWords

variable {α : Type} {test : α → Bool} {run rest : List α} {gap : α}

theorem maximalRuns_of_pass
    (nonempty : run ≠ []) (passes : ∀ item ∈ run, test item = true) :
    maximalRuns test run = [run] := by
  cases run with
  | nil => exact absurd rfl nonempty
  | cons first others =>
      rcases List.forall_mem_cons.mp passes with ⟨starts, go⟩
      rw [maximalRuns, if_pos starts, List.takeWhile_eq_self_iff.mpr go,
        List.dropWhile_eq_nil_iff.mpr go, maximalRuns]

theorem maximalRuns_append_gap
    (nonempty : run ≠ []) (passes : ∀ item ∈ run, test item = true)
    (fails : test gap = false) :
    maximalRuns test (run ++ gap :: rest) = run :: maximalRuns test rest := by
  have stops : ¬ test gap = true := by simp [fails]
  cases run with
  | nil => exact absurd rfl nonempty
  | cons first others =>
      rcases List.forall_mem_cons.mp passes with ⟨starts, go⟩
      rw [List.cons_append, maximalRuns, if_pos starts, List.takeWhile_append_of_pos go,
        List.takeWhile_cons_of_neg stops, List.append_nil, List.dropWhile_append_of_pos go,
        List.dropWhile_cons_of_neg stops, maximalRuns, if_neg stops]

theorem mem_of_mem_intercalate {gap : List α} {runs : List (List α)} {item : α}
    (member : item ∈ gap.intercalate runs) :
    item ∈ gap ∨ ∃ run ∈ runs, item ∈ run := by
  induction runs with
  | nil => cases member
  | cons run others ih =>
      cases others with
      | nil =>
          rw [List.intercalate_singleton] at member
          exact Or.inr ⟨run, List.mem_singleton_self run, member⟩
      | cons other others =>
          rw [List.intercalate_cons_cons, List.append_assoc, List.mem_append, List.mem_append]
            at member
          rcases member with inside | between | later
          · exact Or.inr ⟨run, List.mem_cons_self, inside⟩
          · exact Or.inl between
          · rcases ih later with between | ⟨found, isRun, inside⟩
            · exact Or.inl between
            · exact Or.inr ⟨found, List.mem_cons_of_mem run isRun, inside⟩

/-- Runs with one item between neighbours that fails the test are found again. -/
theorem maximalRuns_intercalate {runs : List (List α)}
    (each : ∀ run ∈ runs, run ≠ [] ∧ ∀ item ∈ run, test item = true)
    (fails : test gap = false) :
    maximalRuns test ([gap].intercalate runs) = runs := by
  induction runs with
  | nil => rw [List.intercalate_nil, maximalRuns]
  | cons run others ih =>
      rcases List.forall_mem_cons.mp each with ⟨⟨nonempty, passes⟩, later⟩
      cases others with
      | nil => rw [List.intercalate_singleton, maximalRuns_of_pass nonempty passes]
      | cons other others =>
          rw [List.intercalate_cons_cons, List.append_assoc, List.singleton_append,
            maximalRuns_append_gap nonempty passes fails, ih later]

end QuotedWords
