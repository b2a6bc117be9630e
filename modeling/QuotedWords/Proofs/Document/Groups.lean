import QuotedWords.Proofs.Document.Joining

/-!
# The group at which a document fails

While a document is split, its lines fall into those that are settled, the ones
that wait because they leave a quotation open, and the rest.  Every line keeps
this, so a document that fails does so in a group of lines that comes after
settled ones and whose lines, all but the last, leave a quotation open.
-/

namespace QuotedWords

/-!
# The text of a group
-/

/-- The text of lines without their ends, with a newline between neighbours. -/
def Group.textOf (lines : List Text) : Text :=
  Text.joinWith ['\n'] (lines.map Text.trimNewlines)

/-- The group of lines, of which the first has the given number, if there are any. -/
def Group.ofLines? (start : Nat) (lines : List Text) : Option Group :=
  if lines = [] then none else some ⟨start, Group.textOf lines⟩

theorem Group.extend_ofLines? (start : Nat) (waiting : List Text) (line : Text) :
    Group.extend (Group.ofLines? start waiting) (start + waiting.length)
        (Text.trimNewlines line) =
      ⟨start, Group.textOf (waiting ++ [line])⟩ := by
  by_cases none : waiting = []
  · subst none
    simp [Group.ofLines?, Group.extend, Group.textOf, Text.joinWith, List.intercalate]
  · have some : waiting.map Text.trimNewlines ≠ [] := by simpa using none
    have grown : Group.textOf (waiting ++ [line]) =
        Group.textOf waiting ++ ['\n'] ++ Text.trimNewlines line := by
      rw [Group.textOf, List.map_append, List.map_singleton,
        Text.joinWith_append_singleton _ _ some]
      rfl
    rw [Group.ofLines?, if_neg none, grown]
    simp [Group.extend]

namespace Dialect

variable {dialect : Dialect} {join : Bool} {settled waiting rest : List Text}
  {yields : List (Nat × List Text)}

/-!
# One attempt, with lines joined or not
-/

theorem attempt_verdict_cases (dialect : Dialect) (join : Bool) (group : Group)
    (last : Nat) :
    (∃ words, (dialect.attempt join group last).verdict = .words words) ∨
    (join = true ∧ group.Unclosed dialect ∧
      (dialect.attempt join group last).verdict = .continued) ∨
    ∃ cause, dialect.words (Text.trimEnd group.text) = .error cause ∧
      (dialect.attempt join group last).verdict =
        .failed ((cause.attachSource (Text.trimEnd group.text)).startingOn group.start) := by
  cases found : dialect.words (Text.trimEnd group.text) with
  | ok words => exact Or.inl ⟨words, attempt_verdict_of_words join last found⟩
  | error cause =>
      have verdict := attempt_verdict_of_failure join last found
      cases open? : join && cause.fault.isUnterminatedQuote with
      | true =>
          rw [open?, if_pos rfl] at verdict
          rw [Bool.and_eq_true] at open?
          exact Or.inr (Or.inl ⟨open?.1, ⟨cause, found, open?.2⟩, verdict⟩)
      | false =>
          rw [open?, if_neg Bool.false_ne_true] at verdict
          exact Or.inr (Or.inr ⟨cause, rfl, verdict⟩)

/-!
# Settled lines and waiting ones
-/

/-- The document that comes of the rest of the lines, with a group that may wait. -/
def documentFrom (dialect : Dialect) (join : Bool) (last : Nat) (pending : Option Group)
    (number : Nat) (lines : List Text) : Document :=
  .ofAttempts ((dialect.progress join pending number lines).completed dialect last)

theorem documentFrom_nil (dialect : Dialect) (join : Bool) (last number : Nat) :
    dialect.documentFrom join last none number [] = ⟨[], none⟩ := by
  rw [documentFrom, progress_nil]
  rfl

/--
After the settled lines, of which these are the yields, and the waiting ones,
which leave a quotation open, it is the rest of the lines that matters.
-/
structure Reaches (dialect : Dialect) (join : Bool) (settled waiting : List Text)
    (yields : List (Nat × List Text)) : Prop where
  settled_eq : ∀ last, dialect.documentFrom join last none 1 settled = ⟨yields, none⟩
  whole_eq : ∀ last rest,
    dialect.documentFrom join last none 1 (settled ++ waiting ++ rest) =
      let later := dialect.documentFrom join last
        (Group.ofLines? (settled.length + 1) waiting)
        (settled.length + 1 + waiting.length) rest
      ⟨yields ++ later.yields, later.failure⟩
  unclosed : ∀ front back, waiting = front ++ back → front ≠ [] →
    join = true ∧ (Group.mk (settled.length + 1) (Group.textOf front)).Unclosed dialect
  yields_le : ∀ entry ∈ yields, entry.1 ≤ settled.length

theorem reaches_nil (dialect : Dialect) (join : Bool) : dialect.Reaches join [] [] [] where
  settled_eq last := dialect.documentFrom_nil join last 1
  whole_eq _ _ := rfl
  unclosed _ _ parts nonempty := absurd (List.append_eq_nil_iff.mp parts.symm).1 nonempty
  yields_le := nofun

section Line

variable {line : Text} {group : Group}

theorem documentFrom_cons_of_words {words : List Text} {pending : Option Group}
    {number : Nat} (last : Nat) (rest : List Text)
    (grows : Group.extend pending number (Text.trimNewlines line) = group)
    (verdict : (dialect.attempt join group number).verdict = .words words) :
    dialect.documentFrom join last pending number (line :: rest) =
      let later := dialect.documentFrom join last none (number + 1) rest
      ⟨(dialect.attempt join group number).yield?.toList ++ later.yields,
        later.failure⟩ := by
  rw [documentFrom, progress_cons_of_words grows verdict, Progress.completed_cons,
    Document.ofAttempts_cons]
  simp [Attempt.failure?, verdict, documentFrom]

theorem documentFrom_cons_of_continued {pending : Option Group} {number : Nat}
    (last : Nat) (rest : List Text)
    (grows : Group.extend pending number (Text.trimNewlines line) = group)
    (verdict : (dialect.attempt join group number).verdict = .continued) :
    dialect.documentFrom join last pending number (line :: rest) =
      dialect.documentFrom join last (some group) (number + 1) rest := by
  rw [documentFrom, progress_cons_of_continued grows verdict, Progress.completed_cons,
    Document.ofAttempts_cons_of_continued _ verdict]
  rfl

theorem Reaches.settle {words : List Text}
    (reaches : dialect.Reaches join settled waiting yields)
    (grown : group = ⟨settled.length + 1, Group.textOf (waiting ++ [line])⟩)
    (verdict : (dialect.attempt join group (settled.length + 1 + waiting.length)).verdict =
      .words words) :
    dialect.Reaches join (settled ++ waiting ++ [line]) []
      (yields ++ (dialect.attempt join group
        (settled.length + 1 + waiting.length)).yield?.toList) := by
  have grows := (Group.extend_ofLines? (settled.length + 1) waiting line).trans grown.symm
  have whole (last : Nat) (rest : List Text) := reaches.whole_eq last (line :: rest)
  simp only [documentFrom_cons_of_words _ _ grows verdict] at whole
  constructor
  · intro last
    rw [whole last [], documentFrom_nil]
    simp
  · intro last rest
    have number : settled.length + 1 + waiting.length + 1 =
        (settled ++ waiting ++ [line]).length + 1 := by
      simp only [List.length_append, List.length_singleton]
      omega
    have later := whole last rest
    rw [number] at later
    simpa [Group.ofLines?] using later
  · intro front back parts nonempty
    exact absurd (List.append_eq_nil_iff.mp parts.symm).1 nonempty
  · intro entry member
    simp only [List.length_append, List.length_singleton]
    rcases List.mem_append.mp member with old | new
    · have := reaches.yields_le entry old
      omega
    · have start := Document.yield?_start (Option.mem_toList.mp new)
      change entry.1 = group.start at start
      rw [start, grown]
      change settled.length + 1 ≤ _
      omega

theorem Reaches.wait
    (reaches : dialect.Reaches join settled waiting yields)
    (grown : group = ⟨settled.length + 1, Group.textOf (waiting ++ [line])⟩)
    (joins : join = true) (unclosed : group.Unclosed dialect)
    (verdict : (dialect.attempt join group (settled.length + 1 + waiting.length)).verdict =
      .continued) :
    dialect.Reaches join settled (waiting ++ [line]) yields := by
  have grows := (Group.extend_ofLines? (settled.length + 1) waiting line).trans grown.symm
  have whole (last : Nat) (rest : List Text) := reaches.whole_eq last (line :: rest)
  simp only [documentFrom_cons_of_continued _ _ grows verdict] at whole
  constructor
  · exact reaches.settled_eq
  · intro last rest
    simpa [Nat.add_assoc, Group.ofLines?, grown] using whole last rest
  · intro front back parts nonempty
    cases back using List.reverseRecOn with
    | nil =>
        rw [List.append_nil] at parts
        rw [← parts, ← grown]
        exact ⟨joins, unclosed⟩
    | append_singleton back last =>
        rw [← List.append_assoc] at parts
        exact reaches.unclosed front back (List.append_inj' parts rfl).1 nonempty
  · exact reaches.yields_le

end Line

/-!
# The failing group
-/

/-- A group of lines after settled ones fails, and with it the document. -/
structure FailsInGroup (dialect : Dialect) (join : Bool) (settled part : List Text)
    (document : Document) (failure : Failure) : Prop where
  /-- The settled lines are split without failure, and yield all that is yielded. -/
  settled_eq : dialect.document join settled = ⟨document.yields, none⟩
  yields_le : ∀ entry ∈ document.yields, entry.1 ≤ settled.length
  nonempty : part ≠ []
  /-- A line joins the group when those before it leave a quotation open. -/
  joined : ∀ front back, part = front ++ back → front ≠ [] → back ≠ [] →
    join = true ∧ (Group.mk (settled.length + 1) (Group.textOf front)).Unclosed dialect
  /-- The group has no words, and its failure is that of the document. -/
  failure_eq : ∃ cause, dialect.words (Text.trimEnd (Group.textOf part)) = .error cause ∧
    failure = (cause.attachSource (Text.trimEnd (Group.textOf part))).startingOn
      (settled.length + 1 : Nat)

theorem Reaches.failsInGroup {part : List Text} {document : Document}
    {cause failure : Failure}
    (reaches : dialect.Reaches join settled waiting yields)
    (same : document = ⟨yields, some failure⟩)
    (nonempty : part ≠ [])
    (joined : ∀ front back, part = front ++ back → back ≠ [] →
      ∃ more, waiting = front ++ more)
    (fails : dialect.words (Text.trimEnd (Group.textOf part)) = .error cause)
    (failed : failure = (cause.attachSource (Text.trimEnd (Group.textOf part))).startingOn
      (settled.length + 1 : Nat)) :
    dialect.FailsInGroup join settled part document failure := by
  subst same
  refine ⟨?_, reaches.yields_le, nonempty, ?_, cause, fails, failed⟩
  · rw [document, attempts_eq_completed]
    exact reaches.settled_eq settled.length
  · intro front back parts some more
    rcases joined front back parts more with ⟨others, waits⟩
    exact reaches.unclosed front others waits some

theorem documentFrom_nil_of_failed {group : Group} {failure : Failure} {last : Nat}
    (number : Nat)
    (verdict : (dialect.attempt false group last).verdict = .failed failure) :
    dialect.documentFrom join last (some group) number [] = ⟨[], some failure⟩ := by
  rw [documentFrom, progress_nil]
  change Document.ofAttempts [dialect.attempt false group last] = _
  rw [Document.ofAttempts_cons]
  simp [Attempt.yield?, Attempt.failure?, verdict, Document.ofAttempts]

theorem documentFrom_cons_of_failed {pending : Option Group} {number : Nat} {line : Text}
    {group : Group} {failure : Failure} (last : Nat) (rest : List Text)
    (grows : Group.extend pending number (Text.trimNewlines line) = group)
    (verdict : (dialect.attempt join group number).verdict = .failed failure) :
    dialect.documentFrom join last pending number (line :: rest) =
      ⟨[], some failure⟩ := by
  rw [documentFrom, progress_cons_of_failed grows verdict, Progress.completed_of_none,
    Document.ofAttempts_cons]
  simp [Attempt.yield?, Attempt.failure?, verdict, Document.ofAttempts]

/-- At the end of the lines it is the waiting ones that fail. -/
theorem Reaches.failsInGroup_of_end {last : Nat} {failure : Failure}
    (reaches : dialect.Reaches join settled waiting yields)
    (fails : (dialect.documentFrom join last none 1 (settled ++ waiting)).failure =
      some failure) :
    dialect.FailsInGroup join settled waiting
      (dialect.documentFrom join last none 1 (settled ++ waiting)) failure := by
  have whole := reaches.whole_eq last []
  rw [List.append_nil] at whole
  rw [whole] at fails ⊢
  by_cases none : waiting = []
  · rw [Group.ofLines?, if_pos none, documentFrom_nil] at fails
    cases fails
  · rw [Group.ofLines?, if_neg none] at fails ⊢
    generalize isGroup : Group.mk (settled.length + 1) (Group.textOf waiting) = group at *
    rcases dialect.attempt_verdict_cases false group last with
      ⟨words, verdict⟩ | ⟨joins, _⟩ | ⟨cause, failed, verdict⟩
    · rw [documentFrom, progress_nil] at fails
      change (Document.ofAttempts [dialect.attempt false group last]).failure = _ at fails
      rw [(Document.ofAttempts_cons_of_words [] verdict).1] at fails
      cases fails
    · cases joins
    · subst isGroup
      rw [documentFrom_nil_of_failed _ verdict] at fails ⊢
      cases fails
      refine reaches.failsInGroup (by simp) none ?_ failed rfl
      intro front back parts _
      exact ⟨back, parts⟩

/-- The line that makes the waiting ones fail is the last of its group. -/
theorem Reaches.failsInGroup_of_line {last : Nat} {line : Text} {cause failure : Failure}
    {group : Group}
    (reaches : dialect.Reaches join settled waiting yields)
    (grown : group = ⟨settled.length + 1, Group.textOf (waiting ++ [line])⟩)
    (failed : dialect.words (Text.trimEnd group.text) = .error cause)
    (verdict : (dialect.attempt join group (settled.length + 1 + waiting.length)).verdict =
      .failed ((cause.attachSource (Text.trimEnd group.text)).startingOn group.start))
    (fails : (dialect.documentFrom join last none 1
      (settled ++ waiting ++ line :: rest)).failure = some failure) :
    dialect.FailsInGroup join settled (waiting ++ [line])
      (dialect.documentFrom join last none 1 (settled ++ waiting ++ line :: rest))
      failure := by
  have grows := (Group.extend_ofLines? (settled.length + 1) waiting line).trans grown.symm
  have whole := reaches.whole_eq last (line :: rest)
  rw [documentFrom_cons_of_failed last rest grows verdict] at whole
  rw [whole] at fails ⊢
  cases fails
  subst grown
  refine reaches.failsInGroup (by simp) (by simp) ?_ failed rfl
  intro front back parts more
  cases back using List.reverseRecOn with
  | nil => exact absurd rfl more
  | append_singleton back other =>
      rw [← List.append_assoc] at parts
      exact ⟨back, (List.append_inj' parts rfl).1⟩

theorem Reaches.exists_group {last : Nat} {failure : Failure}
    (reaches : dialect.Reaches join settled waiting yields)
    (fails : (dialect.documentFrom join last none 1
      (settled ++ waiting ++ rest)).failure = some failure) :
    ∃ front part back, settled ++ waiting ++ rest = front ++ part ++ back ∧
      dialect.FailsInGroup join front part
        (dialect.documentFrom join last none 1 (settled ++ waiting ++ rest)) failure := by
  -- The settled and the waiting lines grow; what is left of the lines shrinks.
  induction rest generalizing settled waiting yields with
  | nil =>
      rw [List.append_nil] at fails ⊢
      exact ⟨settled, waiting, [], (List.append_nil _).symm,
        reaches.failsInGroup_of_end fails⟩
  | cons line rest ih =>
      generalize grown :
        Group.mk (settled.length + 1) (Group.textOf (waiting ++ [line])) = group
      rcases dialect.attempt_verdict_cases join group (settled.length + 1 + waiting.length)
        with ⟨words, verdict⟩ | ⟨joins, unclosed, verdict⟩ | ⟨cause, failed, verdict⟩
      · have next := reaches.settle grown.symm verdict
        have same : settled ++ waiting ++ line :: rest =
            settled ++ waiting ++ [line] ++ [] ++ rest := by simp
        rw [same] at fails ⊢
        exact ih next fails
      · have next := reaches.wait grown.symm joins unclosed verdict
        have same : settled ++ waiting ++ line :: rest =
            settled ++ (waiting ++ [line]) ++ rest := by simp
        rw [same] at fails ⊢
        exact ih next fails
      · exact ⟨settled, waiting ++ [line], rest, by simp,
          reaches.failsInGroup_of_line grown.symm failed verdict fails⟩

/-- A document that fails does so in a group of its lines that follows settled ones. -/
theorem exists_failing_group {lines : List Text} {failure : Failure}
    (fails : (dialect.document join lines).failure = some failure) :
    ∃ settled part rest, lines = settled ++ part ++ rest ∧
      dialect.FailsInGroup join settled part (dialect.document join lines) failure :=
  (dialect.reaches_nil join).exists_group fails

end Dialect
end QuotedWords
