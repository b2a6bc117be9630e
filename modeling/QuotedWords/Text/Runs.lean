import QuotedWords.Text.Basic

/-!
# Maximal runs

The runs of a list are its longest pieces of neighbours that all pass a test.
-/

namespace QuotedWords

/-- The maximal runs of items that pass a test, in order. -/
def maximalRuns {α : Type} (test : α → Bool) : List α → List (List α)
  | [] => []
  | item :: rest =>
      if test item then
        (item :: rest.takeWhile test) :: maximalRuns test (rest.dropWhile test)
      else maximalRuns test rest
termination_by items => items.length
decreasing_by
  · have shorter := (List.dropWhile_suffix test (l := rest)).length_le
    simp only [List.length_cons]
    omega
  · simp

theorem passes_of_mem_takeWhile {α : Type} {test : α → Bool} {items : List α} {item : α}
    (member : item ∈ items.takeWhile test) :
    test item = true :=
  List.all_eq_true.mp List.all_takeWhile item member

theorem maximalRuns_pass {α : Type} {test : α → Bool} {items run : List α}
    (isRun : run ∈ maximalRuns test items) :
    run ≠ [] ∧ ∀ item ∈ run, test item = true := by
  fun_induction maximalRuns test items with
  | case1 => simp at isRun
  | case2 first rest passes ih =>
      rcases List.mem_cons.mp isRun with rfl | later
      · constructor
        · simp
        · intro item member
          rcases List.mem_cons.mp member with rfl | inside
          · exact passes
          · exact passes_of_mem_takeWhile inside
      · exact ih later
  | case3 first rest fails ih => exact ih isRun

theorem flatten_maximalRuns {α : Type} (test : α → Bool) (items : List α) :
    (maximalRuns test items).flatten = items.filter test := by
  fun_induction maximalRuns test items with
  | case1 => rfl
  | case2 first rest passes ih =>
      have all : (rest.takeWhile test).filter test = rest.takeWhile test :=
        List.filter_eq_self.mpr fun _ member => passes_of_mem_takeWhile member
      have parts :
          rest.filter test = rest.takeWhile test ++ (rest.dropWhile test).filter test := by
        rw [← all, ← List.filter_append, List.takeWhile_append_dropWhile]
      rw [List.flatten_cons, ih, List.filter_cons_of_pos passes, parts, List.cons_append]
  | case3 first rest fails ih =>
      rw [ih, List.filter_cons_of_neg fails]

end QuotedWords
