import QuotedWords.Document

/-!
# The attempts at a document

A document is the sum of its attempts.  This module says what one attempt
contributes, and that the groups that yield words come in the order of their
first lines.
-/

namespace QuotedWords

/-!
# What an attempt comes to
-/

namespace Dialect

variable {dialect : Dialect} {group : Group}

theorem attempt_verdict_of_words {words : List Text} (join : Bool) (last : Nat)
    (found : dialect.words (Text.trimEnd group.text) = .ok words) :
    (dialect.attempt join group last).verdict = .words words := by
  unfold Dialect.words at found
  simp [attempt, found]

theorem attempt_verdict_of_failure {failure : Failure} (join : Bool) (last : Nat)
    (fails : dialect.words (Text.trimEnd group.text) = .error failure) :
    (dialect.attempt join group last).verdict =
      if join && failure.fault.isUnterminatedQuote then .continued
      else .failed
        ((failure.attachSource (Text.trimEnd group.text)).startingOn group.start) := by
  unfold Dialect.words at fails
  simp [attempt, fails]

end Dialect

namespace Document

theorem ofAttempts_cons (attempt : Attempt) (rest : List Attempt) :
    ofAttempts (attempt :: rest) =
      { yields := attempt.yield?.toList ++ (ofAttempts rest).yields
        failure := attempt.failure?.or (ofAttempts rest).failure } := by
  unfold ofAttempts
  rw [List.filterMap_cons, List.findSome?_cons]
  cases attempt.yield? <;> cases attempt.failure? <;> rfl

variable {attempt : Attempt}

theorem ofAttempts_cons_of_words {words : List Text} (rest : List Attempt)
    (verdict : attempt.verdict = .words words) :
    (ofAttempts (attempt :: rest)).failure = (ofAttempts rest).failure ∧
      (ofAttempts (attempt :: rest)).yields.flatMap Prod.snd =
        words ++ (ofAttempts rest).yields.flatMap Prod.snd := by
  rw [ofAttempts_cons]
  cases words with
  | nil => simp [Attempt.yield?, Attempt.failure?, verdict]
  | cons word words => simp [Attempt.yield?, Attempt.failure?, verdict]

theorem ofAttempts_cons_of_continued (rest : List Attempt)
    (verdict : attempt.verdict = .continued) :
    ofAttempts (attempt :: rest) = ofAttempts rest := by
  rw [ofAttempts_cons]
  simp [Attempt.yield?, Attempt.failure?, verdict]

theorem ofAttempts_cons_of_failed {failure : Failure} (rest : List Attempt)
    (verdict : attempt.verdict = .failed failure) :
    (ofAttempts (attempt :: rest)).failure = some failure := by
  rw [ofAttempts_cons]
  simp [Attempt.failure?, verdict]

theorem yield?_start {number : Nat} {words : List Text}
    (yields : attempt.yield? = some (number, words)) :
    number = attempt.group.start := by
  unfold Attempt.yield? at yields
  split at yields
  · cases yields
  · cases yields
    rfl
  · cases yields

end Document

/-!
# Progress, completed
-/

/-- The attempts at lines, with that at a group which still waits at their end. -/
def Progress.completed (dialect : Dialect) (last : Nat) (progress : Progress) :
    List Attempt :=
  progress.attempts ++
    match progress.pending with
    | some group => [dialect.attempt false group last]
    | none => []

theorem Progress.completed_of_none (dialect : Dialect) (last : Nat)
    (attempts : List Attempt) :
    Progress.completed dialect last ⟨attempts, none⟩ = attempts :=
  List.append_nil attempts

theorem Progress.completed_cons (dialect : Dialect) (last : Nat) (attempt : Attempt)
    (progress : Progress) :
    (progress.cons attempt).completed dialect last =
      attempt :: progress.completed dialect last :=
  rfl

namespace Dialect

theorem attempts_eq_completed (dialect : Dialect) (join : Bool) (lines : List Text) :
    dialect.attempts join lines =
      (dialect.progress join none 1 lines).completed dialect lines.length :=
  rfl

section Progress

variable {dialect : Dialect} {join : Bool} {pending : Option Group} {number : Nat}
  {line : Text} {rest : List Text} {group : Group}

theorem progress_nil (dialect : Dialect) (join : Bool) (pending : Option Group)
    (number : Nat) :
    dialect.progress join pending number [] = ⟨[], pending⟩ := by
  rw [progress]

theorem progress_cons_of_words {words : List Text}
    (grows : Group.extend pending number (Text.trimNewlines line) = group)
    (verdict : (dialect.attempt join group number).verdict = .words words) :
    dialect.progress join pending number (line :: rest) =
      (dialect.progress join none (number + 1) rest).cons
        (dialect.attempt join group number) := by
  rw [progress]
  simp only [grows, verdict]

theorem progress_cons_of_continued
    (grows : Group.extend pending number (Text.trimNewlines line) = group)
    (verdict : (dialect.attempt join group number).verdict = .continued) :
    dialect.progress join pending number (line :: rest) =
      (dialect.progress join (some group) (number + 1) rest).cons
        (dialect.attempt join group number) := by
  rw [progress]
  simp only [grows, verdict]

theorem progress_cons_of_failed {failure : Failure}
    (grows : Group.extend pending number (Text.trimNewlines line) = group)
    (verdict : (dialect.attempt join group number).verdict = .failed failure) :
    dialect.progress join pending number (line :: rest) =
      ⟨[dialect.attempt join group number], none⟩ := by
  rw [progress]
  simp only [grows, verdict]

end Progress

end Dialect

/-!
# The numbers of the lines
-/

/-- The number of the first line of the group that the next line belongs to. -/
def Group.firstNumber (pending : Option Group) (number : Nat) : Nat :=
  match pending with
  | some group => group.start
  | none => number

theorem Group.extend_start (pending : Option Group) (number : Nat) (line : Text) :
    (Group.extend pending number line).start = Group.firstNumber pending number := by
  cases pending <;> rfl

namespace Document

/-- The groups that yield words come in the order of their first lines. -/
def InOrderFrom (first : Nat) (yields : List (Nat × List Text)) : Prop :=
  (∀ entry ∈ yields, first ≤ entry.1) ∧
    (yields.map Prod.fst).Pairwise (· < ·)

theorem inOrderFrom_cons {first next : Nat} {attempt : Attempt}
    {yields : List (Nat × List Text)}
    (start : attempt.group.start = first)
    (rest : InOrderFrom next yields)
    (later : first < next) :
    InOrderFrom first (attempt.yield?.toList ++ yields) := by
  have below : ∀ entry ∈ yields, first < entry.1 := fun entry member =>
    Nat.lt_of_lt_of_le later (rest.1 entry member)
  cases found : attempt.yield? with
  | none =>
      constructor
      · intro entry member
        exact Nat.le_of_lt (below entry (by simpa using member))
      · simpa using rest.2
  | some entry =>
      rcases entry with ⟨number, words⟩
      have number_eq : number = first := (yield?_start found).trans start
      subst number_eq
      constructor
      · intro entry member
        rcases List.mem_cons.mp member with rfl | member
        · exact Nat.le_refl _
        · exact Nat.le_of_lt (below entry member)
      · simpa [rest.2] using below

end Document

namespace Dialect

theorem yields_inOrder (dialect : Dialect) (join : Bool) (last : Nat)
    (pending : Option Group) (number : Nat) (lines : List Text)
    (before : ∀ group ∈ pending, group.start < number) :
    Document.InOrderFrom (Group.firstNumber pending number)
      (Document.ofAttempts
        ((dialect.progress join pending number lines).completed dialect last)).yields := by
  induction lines generalizing pending number with
  | nil =>
      cases pending with
      | none => exact ⟨nofun, List.Pairwise.nil⟩
      | some group =>
          change Document.InOrderFrom group.start
            (Document.ofAttempts [dialect.attempt false group last]).yields
          rw [Document.ofAttempts_cons]
          exact Document.inOrderFrom_cons rfl ⟨nofun, List.Pairwise.nil⟩ (Nat.lt_succ_self _)
  | cons line rest ih =>
      generalize grows : Group.extend pending number (Text.trimNewlines line) = group
      have start : group.start = Group.firstNumber pending number := by
        rw [← grows, Group.extend_start]
      have later : Group.firstNumber pending number < number + 1 := by
        cases pending with
        | none => exact Nat.lt_succ_self number
        | some waiting => exact Nat.lt_succ_of_lt (before waiting rfl)
      cases verdict : (dialect.attempt join group number).verdict with
      | words words =>
          rw [progress_cons_of_words grows verdict, Progress.completed_cons,
            Document.ofAttempts_cons]
          exact Document.inOrderFrom_cons start (ih none (number + 1) nofun) later
      | continued =>
          rw [progress_cons_of_continued grows verdict, Progress.completed_cons,
            Document.ofAttempts_cons_of_continued _ verdict, ← start]
          refine ih (some group) (number + 1) ?_
          intro waiting isWaiting
          rcases Option.some.inj isWaiting with rfl
          rw [start]
          exact later
      | failed failure =>
          rw [progress_cons_of_failed grows verdict]
          change Document.InOrderFrom _
            (Document.ofAttempts [dialect.attempt join group number]).yields
          rw [Document.ofAttempts_cons]
          exact Document.inOrderFrom_cons start ⟨nofun, List.Pairwise.nil⟩ later

/-- The numbers of the yields of a document increase. -/
theorem document_yields_increase (dialect : Dialect) (join : Bool) (lines : List Text) :
    ((dialect.document join lines).yields.map Prod.fst).Pairwise (· < ·) := by
  have inOrder := yields_inOrder dialect join lines.length none 1 lines nofun
  rw [← attempts_eq_completed] at inOrder
  exact inOrder.2

end Dialect
end QuotedWords
