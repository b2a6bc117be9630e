import Mathlib.Data.List.Nodup
import Mathlib.Data.List.Perm.Subperm
import QuotedWords.Proofs.Table

/-!
# Tables compared

Two tables are equal when they say the same of every key.  They then hold the same
entries, if in another order, and a hash in which the order does not count is the
same for both.  What a table made from entries says of a key is the last of the
values that they give to it.
-/

namespace QuotedWords
namespace Table

variable {κ α : Type} {left right : Table κ α}

theorem nodup_entries (table : Table κ α) : table.entries.Nodup :=
  List.Nodup.of_map Prod.fst table.nodup_keys

/-- The hashes of the entries are added up, so it does not matter which comes first. -/
theorem hashWith_eq_of_perm (hashEntry : κ → α → UInt64)
    (permuted : left.entries.Perm right.entries) :
    left.hashWith hashEntry = right.hashWith hashEntry := by
  unfold hashWith
  apply permuted.foldl_eq'
  intro one _ other _ total
  rw [UInt64.add_assoc, UInt64.add_assoc, UInt64.add_comm (hashEntry one.1 one.2)]

variable [DecidableEq κ]

theorem perm_iff_get?_eq :
    left.entries.Perm right.entries ↔ ∀ key, left.get? key = right.get? key := by
  constructor
  · exact get?_eq_of_perm
  · intro same
    rw [List.perm_ext_iff_of_nodup left.nodup_entries right.nodup_entries]
    intro entry
    rcases entry with ⟨key, value⟩
    rw [← get?_eq_some_iff, ← get?_eq_some_iff, same]

/--
As many entries as the other table has, each of which the other has as well, are all
of its entries, since neither table has an entry twice.
-/
theorem sameEntries_iff_perm [BEq α] [LawfulBEq α] :
    left.sameEntries right = true ↔ left.entries.Perm right.entries := by
  rw [sameEntries, Bool.and_eq_true, beq_iff_eq, List.all_eq_true]
  constructor
  · intro same
    rcases same with ⟨size, found⟩
    have subset : left.entries ⊆ right.entries := by
      intro entry member
      exact get?_eq_some_iff.mp (eq_of_beq (found _ member))
    exact (List.subperm_of_subset left.nodup_entries subset).perm_of_length_le (Nat.le_of_eq size.symm)
  · intro permuted
    refine ⟨permuted.length_eq, ?_⟩
    intro entry member
    rw [beq_iff_eq, get?_eq_some_iff]
    exact permuted.mem_iff.mp member

theorem beq_iff_get?_eq [BEq α] [LawfulBEq α] :
    (left == right) = true ↔ ∀ key, left.get? key = right.get? key :=
  sameEntries_iff_perm.trans perm_iff_get?_eq

theorem get?_ofList (entries : List (κ × α)) (key : κ) :
    (ofList entries).get? key = entries.reverse.lookup key := by
  induction entries using List.reverseRecOn with
  | nil => rfl
  | append_singleton front last ih =>
      rw [ofList_concat, get?_insert, ih, List.reverse_concat, lookup_cons]

end Table
end QuotedWords
