import Mathlib.Tactic.MkIffOfInductiveProp
import QuotedWords.Dialect.Lookup
import QuotedWords.Proofs.Dialect.Parts
import QuotedWords.Proofs.Table.Comparison

/-!
# Dialects as keys

Dialects are equal when they say the same of every character, in whatever order
that was said.  Equal ones have equal hashes, so a map finds a dialect where one
that is equal to it was put, and a set holds one of those that are equal.
-/

namespace QuotedWords

/-!
# Equality
-/

namespace Dialect

/-- The dialects say the same of every character. -/
@[mk_iff] structure SaysTheSame (dialect other : Dialect) : Prop where
  quote_eq : ∀ opener, dialect.quotes.get? opener = other.quotes.get? opener
  escape_eq : ∀ key, dialect.escapes.get? key = other.escapes.get? key
  leader_eq : dialect.leader = other.leader

variable {dialect other third : Dialect}

theorem SaysTheSame.refl (dialect : Dialect) : dialect.SaysTheSame dialect :=
  ⟨fun _ => rfl, fun _ => rfl, rfl⟩

theorem SaysTheSame.symm (same : dialect.SaysTheSame other) : other.SaysTheSame dialect where
  quote_eq opener := (same.quote_eq opener).symm
  escape_eq key := (same.escape_eq key).symm
  leader_eq := same.leader_eq.symm

theorem SaysTheSame.trans
    (first : dialect.SaysTheSame other) (second : other.SaysTheSame third) :
    dialect.SaysTheSame third where
  quote_eq opener := (first.quote_eq opener).trans (second.quote_eq opener)
  escape_eq key := (first.escape_eq key).trans (second.escape_eq key)
  leader_eq := first.leader_eq.trans second.leader_eq

theorem beq_iff_saysTheSame : (dialect == other) = true ↔ dialect.SaysTheSame other := by
  show (_ && _ && _) = true ↔ _
  rw [Bool.and_eq_true, Bool.and_eq_true, Table.beq_iff_get?_eq, Table.beq_iff_get?_eq,
    beq_iff_eq, and_assoc, saysTheSame_iff]

instance : EquivBEq Dialect where
  rfl := beq_iff_saysTheSame.mpr (.refl _)
  symm same := beq_iff_saysTheSame.mpr (beq_iff_saysTheSame.mp same).symm
  trans first second :=
    beq_iff_saysTheSame.mpr
      ((beq_iff_saysTheSame.mp first).trans (beq_iff_saysTheSame.mp second))

theorem SaysTheSame.hash_eq (same : dialect.SaysTheSame other) :
    hash dialect = hash other := by
  show mixHash (mixHash _ _) _ = mixHash (mixHash _ _) _
  rw [Table.hashWith_eq_of_perm hashQuote (Table.perm_iff_get?_eq.mpr same.quote_eq),
    Table.hashWith_eq_of_perm hashEscape (Table.perm_iff_get?_eq.mpr same.escape_eq),
    same.leader_eq]

instance : LawfulHashable Dialect where
  hash_eq _ _ same := (beq_iff_saysTheSame.mp same).hash_eq

theorem saysTheSame_of_perm {quotes : Table Char QuoteRule} {escapes : Table Char Char}
    (quotesPermuted : quotes.entries.Perm dialect.quotes.entries)
    (escapesPermuted : escapes.entries.Perm dialect.escapes.entries) :
    ({ dialect with quotes, escapes } : Dialect).SaysTheSame dialect where
  quote_eq := Table.get?_eq_of_perm quotesPermuted
  escape_eq := Table.get?_eq_of_perm escapesPermuted
  leader_eq := rfl

end Dialect

/-!
# Dialects made from entries
-/

namespace DialectParts

/-- The parts of a dialect that are given by entries, in this order. -/
def ofEntries (quotes : List (Char × QuoteRule)) (escapes : List (Char × Char))
    (leader : Option Char) : DialectParts where
  quotes := .ofList (quotes.map Dialect.quotePart)
  escapes := .ofList (escapes.map Dialect.escapePart)
  leader := Dialect.leaderPart leader

theorem toDialect_ofEntries (quotes : List (Char × QuoteRule)) (escapes : List (Char × Char))
    (leader : Option Char) :
    (ofEntries quotes escapes leader).toDialect =
      .ok { quotes := .ofList quotes, escapes := .ofList escapes, leader } := by
  rw [toDialect_eq_ok_iff]
  constructor
  · exact Table.map_entries_ofList Scalar.eq_of_text_eq (fun _ => rfl) quotes
  · exact Table.map_entries_ofList Scalar.eq_of_text_eq (fun _ => rfl) escapes
  · rfl

end DialectParts

namespace Dialect

/-- Of the values that are given to a character the last one counts. -/
theorem saysTheSame_ofList_iff {quotes quotes' : List (Char × QuoteRule)}
    {escapes escapes' : List (Char × Char)} {leader leader' : Option Char} :
    SaysTheSame { quotes := .ofList quotes, escapes := .ofList escapes, leader }
        { quotes := .ofList quotes', escapes := .ofList escapes', leader := leader' } ↔
      (∀ opener, quotes.reverse.lookup opener = quotes'.reverse.lookup opener) ∧
      (∀ key, escapes.reverse.lookup key = escapes'.reverse.lookup key) ∧
      leader = leader' := by
  simp only [saysTheSame_iff, Table.get?_ofList]

/-!
# Looking dialects up
-/

theorem firstIndices_concat (front : List Dialect) (last : Dialect) :
    firstIndices (front ++ [last]) = (firstIndices front).insertIfNew last front.length := by
  rw [firstIndices, List.zipIdx_append, List.foldl_append, Nat.zero_add]
  rfl

/-- A dialect is new to the map as long as no dialect before is equal to it. -/
theorem getElem?_firstIndices (dialects : List Dialect) (dialect : Dialect) :
    (firstIndices dialects)[dialect]? = dialects.findIdx? (· == dialect) := by
  induction dialects using List.reverseRecOn with
  | nil => exact Std.HashMap.getElem?_empty
  | append_singleton front last ih =>
      rw [firstIndices_concat, Std.HashMap.getElem?_insertIfNew, List.findIdx?_append,
        List.findIdx?_singleton, ih]
      by_cases same : (last == dialect) = true
      · have known : last ∈ firstIndices front ↔
            (front.findIdx? (· == dialect)).isSome = true := by
          rw [Std.HashMap.mem_congr same, Std.HashMap.mem_iff_isSome_getElem?, ih]
        simp only [known, same, true_and, if_true]
        cases front.findIdx? (· == dialect) with
        | none => simp
        | some first => simp
      · simp [same]

/-- The first dialect of the list that is equal to the given one has this index. -/
structure IsFirstEqual (dialects : List Dialect) (dialect : Dialect) (index : Nat) : Prop where
  equal : ∃ other, dialects[index]? = some other ∧ other.SaysTheSame dialect
  earlier : ∀ before < index, ∀ other, dialects[before]? = some other →
    ¬ other.SaysTheSame dialect

theorem isFirstEqual_of_findIdx? {dialects : List Dialect} {dialect : Dialect} {index : Nat}
    (found : dialects.findIdx? (· == dialect) = some index) :
    IsFirstEqual dialects dialect index := by
  rw [List.findIdx?_eq_some_iff_getElem] at found
  rcases found with ⟨inside, equal, earlier⟩
  constructor
  · exact ⟨_, List.getElem?_eq_getElem inside, beq_iff_saysTheSame.mp equal⟩
  · intro before below other present same
    rcases List.getElem?_eq_some_iff.mp present with ⟨_, rfl⟩
    exact earlier before below (beq_iff_saysTheSame.mpr same)

/-- A dialect of the list is found in it, at the latest at its own place. -/
theorem exists_findIdx?_of_getElem? {dialects : List Dialect} {dialect : Dialect} {index : Nat}
    (present : dialects[index]? = some dialect) :
    ∃ first, dialects.findIdx? (· == dialect) = some first := by
  have found : (dialects.findIdx? (· == dialect)).isSome = true := by
    rw [List.findIdx?_isSome, List.any_eq_true]
    exact ⟨dialect, List.mem_of_getElem? present, BEq.rfl⟩
  exact Option.isSome_iff_exists.mp found

theorem exists_first_of_getElem? {dialects : List Dialect} {dialect : Dialect} {index : Nat}
    (present : dialects[index]? = some dialect) :
    ∃ first, IsFirstEqual dialects dialect first ∧
      (lookUpAll dialects)[index]? = some (some first) ∧
      (firstEqual dialects)[index]? = some first := by
  rcases exists_findIdx?_of_getElem? present with ⟨first, found⟩
  refine ⟨first, isFirstEqual_of_findIdx? found, ?_, ?_⟩
  · rw [lookUpAll, List.getElem?_map, present, Option.map_some, getElem?_firstIndices, found]
  · rw [firstEqual, List.getElem?_map, present, Option.map_some,
      (List.findIdx?_eq_some_iff_findIdx_eq.mp found).2]

/-!
# Counting different dialects
-/

theorem countDistinct_concat (front : List Dialect) (last : Dialect) :
    countDistinct (front ++ [last]) =
      if front.contains last = true then countDistinct front else countDistinct front + 1 := by
  unfold countDistinct
  rw [Std.HashSet.ofList_eq_insertMany_empty, Std.HashSet.insertMany_append,
    Std.HashSet.insertMany_list_singleton, Std.HashSet.size_insert,
    ← Std.HashSet.ofList_eq_insertMany_empty]
  simp only [Std.HashSet.mem_ofList]

/-- A further dialect changes nothing about those before it. -/
theorem firstEqual_concat (front : List Dialect) (last : Dialect) :
    firstEqual (front ++ [last]) =
      firstEqual front ++ [(front ++ [last]).findIdx (· == last)] := by
  rw [firstEqual, List.map_append, firstEqual]
  congr 1
  apply List.map_congr_left
  intro dialect member
  have found : front.findIdx (· == dialect) < front.length :=
    List.findIdx_lt_length.mpr ⟨dialect, member, BEq.rfl⟩
  rw [List.findIdx_append, if_pos found]

theorem length_firstEqual (dialects : List Dialect) :
    (firstEqual dialects).length = dialects.length :=
  List.length_map _

/-- A last dialect is its own first equal one when none before is equal to it. -/
theorem findIdx_concat_eq_length_iff {front : List Dialect} {last : Dialect} :
    (front ++ [last]).findIdx (· == last) = front.length ↔ ¬ front.contains last = true := by
  have found : front.findIdx (· == last) < front.length ↔ front.contains last = true := by
    rw [List.findIdx_lt_length, List.contains_iff_exists_mem_beq]
    simp only [BEq.comm]
  rw [List.findIdx_append, ← found]
  split
  next below =>
    constructor
    · intro same
      exact absurd same (Nat.ne_of_lt below)
    · intro apart
      exact absurd below apart
  next above => simp [above]

theorem countDistinct_eq_countP (dialects : List Dialect) :
    countDistinct dialects =
      (List.range dialects.length).countP fun index =>
        (firstEqual dialects)[index]? == some index := by
  induction dialects using List.reverseRecOn with
  | nil => rfl
  | append_singleton front last ih =>
      have before : (List.range front.length).countP (fun index =>
            (firstEqual (front ++ [last]))[index]? == some index) =
          countDistinct front := by
        rw [ih]
        apply List.countP_congr
        intro index inside
        rw [firstEqual_concat, List.getElem?_append_left]
        rw [length_firstEqual]
        exact List.mem_range.mp inside
      have own : (firstEqual (front ++ [last]))[front.length]? =
          some ((front ++ [last]).findIdx (· == last)) := by
        rw [firstEqual_concat, ← length_firstEqual front, List.getElem?_concat_length]
      rw [countDistinct_concat, List.length_append, List.length_singleton, List.range_succ,
        List.countP_append, before, List.countP_singleton, own]
      by_cases known : front.contains last = true
      · have apart := mt findIdx_concat_eq_length_iff.mp (not_not_intro known)
        rw [if_pos known, if_neg (by simpa using apart), Nat.add_zero]
      · have same := findIdx_concat_eq_length_iff.mpr known
        rw [if_neg known, if_pos (by simpa using same)]

/--
Dialects are equal when they say the same of every character, which is what the last
entry for it says, in whatever order the entries are.  Equality is an equivalence,
and equal dialects have equal hashes.  So each dialect of a list is looked up at the
first one that is equal to it, and there are as many different ones as are the first
of their kind.
-/
theorem dialects_are_looked_up_by_value :
    (∀ dialect other : Dialect, (dialect == other) = true ↔ dialect.SaysTheSame other) ∧
    (Equivalence fun dialect other : Dialect => (dialect == other) = true) ∧
    (∀ dialect other : Dialect, (dialect == other) = true → hash dialect = hash other) ∧
    (∀ (dialect : Dialect) (quotes : Table Char QuoteRule) (escapes : Table Char Char),
      quotes.entries.Perm dialect.quotes.entries →
      escapes.entries.Perm dialect.escapes.entries →
      (({ dialect with quotes, escapes } : Dialect) == dialect) = true) ∧
    (∀ (quotes quotes' : List (Char × QuoteRule)) (escapes escapes' : List (Char × Char))
        (leader leader' : Option Char),
      ∃ dialect other,
        (DialectParts.ofEntries quotes escapes leader).toDialect = .ok dialect ∧
        (DialectParts.ofEntries quotes' escapes' leader').toDialect = .ok other ∧
        ((dialect == other) = true ↔
          (∀ opener, quotes.reverse.lookup opener = quotes'.reverse.lookup opener) ∧
          (∀ key, escapes.reverse.lookup key = escapes'.reverse.lookup key) ∧
          leader = leader')) ∧
    ∀ dialects : List Dialect,
      (∀ (index : Nat) (dialect : Dialect), dialects[index]? = some dialect →
        ∃ first, IsFirstEqual dialects dialect first ∧
          (lookUpAll dialects)[index]? = some (some first) ∧
          (firstEqual dialects)[index]? = some first) ∧
      countDistinct dialects =
        (List.range dialects.length).countP fun index =>
          (firstEqual dialects)[index]? == some index := by
  refine ⟨fun _ _ => beq_iff_saysTheSame, ?_, fun _ _ => LawfulHashable.hash_eq _ _, ?_, ?_, ?_⟩
  · exact ⟨fun _ => BEq.rfl, BEq.symm, BEq.trans⟩
  · intro dialect quotes escapes quotesPermuted escapesPermuted
    exact beq_iff_saysTheSame.mpr (saysTheSame_of_perm quotesPermuted escapesPermuted)
  · intro quotes quotes' escapes escapes' leader leader'
    refine ⟨_, _, DialectParts.toDialect_ofEntries quotes escapes leader,
      DialectParts.toDialect_ofEntries quotes' escapes' leader', ?_⟩
    exact beq_iff_saysTheSame.trans saysTheSame_ofList_iff
  · intro dialects
    refine ⟨?_, countDistinct_eq_countP dialects⟩
    intro index dialect present
    exact exists_first_of_getElem? present

/--
The dialect of the shell once more, from entries in another order, of which one is
given twice; it is found at the first, but without its leader it is another.
-/
theorem shell_is_looked_up_at_first :
    let shell := Style.shell.dialect
    let again : Dialect :=
      { quotes := .ofList
          [('"', ⟨'>', .ignoreEscapes⟩), ('\'', ⟨'\'', .ignoreEscapes⟩),
           ('"', ⟨'"', .parseEscapes⟩)]
        leader := some '\\' }
    let dialects := [Style.c.dialect, shell, { shell with leader := none }, again,
      Style.c.dialect]
    (again == shell) = true ∧ hash again = hash shell ∧
      (lookUpAll dialects)[3]? = some (some 1) ∧ countDistinct dialects = 3 := by
  intro shell again dialects
  rcases dialects_are_looked_up_by_value with ⟨-, -, hashes, permuted, -, found⟩
  have equal : (again == shell) = true :=
    permuted shell again.quotes again.escapes (by decide) (List.Perm.refl _)
  have firsts : firstEqual dialects = [0, 1, 2, 1, 0] := by decide
  rcases (found dialects).1 3 again rfl with ⟨first, -, lookedUp, same⟩
  rw [firsts] at same
  cases same
  refine ⟨equal, hashes again shell equal, lookedUp, ?_⟩
  rw [(found dialects).2, firsts]
  rfl

end Dialect
end QuotedWords
