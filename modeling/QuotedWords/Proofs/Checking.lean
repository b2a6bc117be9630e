import QuotedWords.Text.Basic

/-!
# Checks made one after the other

A check answers or finds a fault.  Of checks that are made one after the other the
first that finds a fault ends them all, so they report the first of all faults, in
the order in which they are made, and answer if there are none.
-/

namespace QuotedWords

/-- The outcome is an error exactly if there are faults, and then it is the first of them. -/
def ReportsFirst {ε α : Type} (outcome : Except ε α) (faults : List ε) : Prop :=
  ∀ fault, outcome = .error fault ↔ faults.head? = some fault

namespace ReportsFirst

variable {ε α β : Type} {faults later : List ε}

theorem ok (answer : α) : ReportsFirst (.ok answer) ([] : List ε) := by
  intro fault
  constructor
  · intro fails
    cases fails
  · intro first
    cases first

theorem error (first : ε) (rest : List ε) :
    ReportsFirst (.error first : Except ε α) (first :: rest) := by
  intro fault
  constructor
  · rintro ⟨⟩
    rfl
  · rintro ⟨⟩
    rfl

/-- Of two checks, one after the other, the second is made if the first finds nothing. -/
theorem bind {outcome : Except ε α} {next : α → Except ε β}
    (first : ReportsFirst outcome faults)
    (second : ∀ answer, outcome = .ok answer → ReportsFirst (next answer) later) :
    ReportsFirst (outcome >>= next) (faults ++ later) := by
  cases found : outcome with
  | error fault =>
      rw [found] at first
      rcases List.head?_eq_some_iff.mp ((first fault).mp rfl) with ⟨rest, rfl⟩
      exact error fault (rest ++ later)
  | ok answer =>
      rw [found] at first
      cases faults with
      | nil => exact second answer found
      | cons fault rest => cases (first fault).mpr rfl

theorem map {outcome : Except ε α} (reports : ReportsFirst outcome faults) (change : α → β) :
    ReportsFirst (outcome.map change) faults := by
  intro fault
  rw [← reports fault]
  cases outcome with
  | ok answer =>
      constructor
      · intro fails
        cases fails
      · intro fails
        cases fails
  | error other =>
      constructor
      · rintro ⟨⟩
        rfl
      · rintro ⟨⟩
        rfl

theorem mapM {items : List α} {check : α → Except ε β} {faultsOf : α → List ε}
    (each : ∀ item ∈ items, ReportsFirst (check item) (faultsOf item)) :
    ReportsFirst (items.mapM check) (items.flatMap faultsOf) := by
  induction items with
  | nil => exact ok []
  | cons item rest ih =>
      rcases List.forall_mem_cons.mp each with ⟨here, others⟩
      rw [List.mapM_cons, List.flatMap_cons]
      refine bind here ?_
      intro answer _
      rw [← List.append_nil (rest.flatMap faultsOf)]
      refine bind (ih others) ?_
      intro answers _
      exact ok _

theorem exists_ok_iff {outcome : Except ε α} (reports : ReportsFirst outcome faults) :
    (∃ answer, outcome = .ok answer) ↔ faults = [] := by
  constructor
  · rintro ⟨answer, rfl⟩
    cases faults with
    | nil => rfl
    | cons fault rest => cases (reports fault).mpr rfl
  · rintro rfl
    cases outcome with
    | ok answer => exact ⟨answer, rfl⟩
    | error fault => cases (reports fault).mp rfl

end ReportsFirst

/-!
# Answers
-/

section Answers

variable {ε α β : Type}

theorem bind_eq_ok_iff {outcome : Except ε α} {next : α → Except ε β} {answer : β} :
    outcome >>= next = .ok answer ↔ ∃ found, outcome = .ok found ∧ next found = .ok answer := by
  cases outcome with
  | error fault =>
      constructor
      · intro answers
        cases answers
      · rintro ⟨found, answers, _⟩
        cases answers
  | ok found =>
      constructor
      · intro answers
        exact ⟨found, rfl, answers⟩
      · rintro ⟨_, ⟨⟩, answers⟩
        exact answers

theorem map_eq_ok_iff {outcome : Except ε α} {change : α → β} {answer : β} :
    outcome.map change = .ok answer ↔ ∃ found, outcome = .ok found ∧ change found = answer := by
  cases outcome with
  | error fault =>
      constructor
      · intro answers
        cases answers
      · rintro ⟨found, answers, _⟩
        cases answers
  | ok found =>
      constructor
      · rintro ⟨⟩
        exact ⟨found, rfl, rfl⟩
      · rintro ⟨_, ⟨⟩, rfl⟩
        rfl

/-- Where each check takes back what makes an item, checking items one by one does so too. -/
theorem mapM_eq_ok_iff {check : α → Except ε β} {make : β → α}
    (takesBack : ∀ item answer, check item = .ok answer ↔ item = make answer)
    {items : List α} {answers : List β} :
    items.mapM check = .ok answers ↔ items = answers.map make := by
  induction items generalizing answers with
  | nil =>
      cases answers with
      | nil => exact ⟨fun _ => rfl, fun _ => rfl⟩
      | cons first others => exact ⟨nofun, nofun⟩
  | cons item rest ih =>
      rw [List.mapM_cons, bind_eq_ok_iff]
      constructor
      · rintro ⟨first, here, checked⟩
        rcases bind_eq_ok_iff.mp checked with ⟨others, later, ⟨⟩⟩
        rw [List.map_cons, (takesBack item first).mp here, ih.mp later]
      · intro made
        cases answers with
        | nil => cases made
        | cons first others =>
            rw [List.map_cons, List.cons.injEq] at made
            refine ⟨first, (takesBack item first).mpr made.1, ?_⟩
            exact bind_eq_ok_iff.mpr ⟨others, ih.mpr made.2, rfl⟩

end Answers
end QuotedWords
