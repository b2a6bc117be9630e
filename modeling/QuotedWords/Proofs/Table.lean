import Mathlib.Data.List.Induction
import QuotedWords.Table.Basic

/-!
# What a table holds

No key occurs twice in a table, so its answer for a key is the value of the one
entry that has the key, wherever this entry stands.
-/

namespace QuotedWords
namespace Table

variable {κ α : Type}

theorem isEmpty_eq_of_perm {left right : Table κ α}
    (permuted : left.entries.Perm right.entries) :
    left.isEmpty = right.isEmpty := by
  unfold isEmpty
  rw [Bool.eq_iff_iff, List.isEmpty_iff, List.isEmpty_iff]
  constructor
  · intro empty
    rw [empty] at permuted
    exact permuted.nil_eq.symm
  · intro empty
    rw [empty] at permuted
    exact permuted.eq_nil

variable [DecidableEq κ]

theorem mem_of_lookup_eq_some {entries : List (κ × α)} {key : κ} {value : α}
    (found : entries.lookup key = some value) :
    (key, value) ∈ entries := by
  induction entries with
  | nil => cases found
  | cons entry rest ih =>
      rw [lookup_cons] at found
      split at found
      next same =>
        cases found
        rw [same]
        exact List.mem_cons_self
      next => exact List.mem_cons_of_mem entry (ih found)

theorem lookup_eq_some_of_mem {entries : List (κ × α)} {key : κ} {value : α}
    (nodup : (entries.map Prod.fst).Nodup)
    (member : (key, value) ∈ entries) :
    entries.lookup key = some value := by
  induction entries with
  | nil => cases member
  | cons entry rest ih =>
      rw [List.map_cons, List.nodup_cons] at nodup
      rw [lookup_cons]
      rcases List.mem_cons.mp member with first | later
      · rw [← first, if_pos rfl]
      · have other : key ≠ entry.1 := by
          intro same
          apply nodup.1
          rw [← same]
          exact List.mem_map_of_mem later
        rw [if_neg other]
        exact ih nodup.2 later

theorem get?_eq_some_iff {table : Table κ α} {key : κ} {value : α} :
    table.get? key = some value ↔ (key, value) ∈ table.entries := by
  constructor
  · exact mem_of_lookup_eq_some
  · exact lookup_eq_some_of_mem table.nodup_keys

/-- The order of the entries does not count. -/
theorem get?_eq_of_perm {left right : Table κ α}
    (permuted : left.entries.Perm right.entries) (key : κ) :
    left.get? key = right.get? key := by
  apply Option.ext
  intro value
  rw [get?_eq_some_iff, get?_eq_some_iff]
  exact permuted.mem_iff

theorem isEmpty_insert (table : Table κ α) (key : κ) (value : α) :
    (table.insert key value).isEmpty = false := by
  show (put key value table.entries).isEmpty = false
  cases table.entries with
  | nil => rfl
  | cons entry rest =>
      unfold put
      split <;> rfl

/-!
# Tables and their entries
-/

omit [DecidableEq κ] in
theorem eq_of_entries_eq {left right : Table κ α}
    (same : left.entries = right.entries) :
    left = right := by
  cases left
  cases right
  cases same
  rfl

theorem put_of_not_mem {key : κ} {entries : List (κ × α)}
    (fresh : key ∉ entries.map Prod.fst) (value : α) :
    put key value entries = entries ++ [(key, value)] := by
  induction entries with
  | nil => rfl
  | cons entry rest ih =>
      rw [List.map_cons, List.mem_cons, not_or] at fresh
      rw [put, if_neg (Ne.symm fresh.1), ih fresh.2, List.cons_append]

theorem ofList_concat (front : List (κ × α)) (last : κ × α) :
    ofList (front ++ [last]) = (ofList front).insert last.1 last.2 :=
  List.foldl_append

/-- Entries without a repeated key are those of their table. -/
theorem entries_ofList {entries : List (κ × α)}
    (nodup : (entries.map Prod.fst).Nodup) :
    (ofList entries).entries = entries := by
  induction entries using List.reverseRecOn with
  | nil => rfl
  | append_singleton front entry ih =>
      rw [List.map_append, List.nodup_append] at nodup
      rcases nodup with ⟨others, _, apart⟩
      have fresh : entry.1 ∉ front.map Prod.fst := by
        intro repeated
        exact apart _ repeated _ (List.mem_singleton_self entry.1) rfl
      rw [ofList_concat]
      show put entry.1 entry.2 (ofList front).entries = _
      rw [ih others, put_of_not_mem fresh]

section Map

variable {κ' β : Type} [DecidableEq κ'] {key : κ → κ'} {make : κ × α → κ' × β}

theorem put_map
    (apart : ∀ one other, key one = key other → one = other)
    (keys : ∀ entry, (make entry).1 = key entry.1)
    (last : κ × α) (entries : List (κ × α)) :
    put (make last).1 (make last).2 (entries.map make) =
      (put last.1 last.2 entries).map make := by
  induction entries with
  | nil => rfl
  | cons entry rest ih =>
      rw [List.map_cons, put, put]
      by_cases same : entry.1 = last.1
      · rw [if_pos same, if_pos (by rw [keys, keys, same]), List.map_cons]
      · have different : (make entry).1 ≠ (make last).1 := by
          intro made
          rw [keys, keys] at made
          exact same (apart _ _ made)
        rw [if_neg same, if_neg different, List.map_cons, ih]

/-- Entries that are made from others, with a key of its own for each key. -/
theorem map_entries_ofList
    (apart : ∀ one other, key one = key other → one = other)
    (keys : ∀ entry, (make entry).1 = key entry.1) (entries : List (κ × α)) :
    (ofList (entries.map make)).entries = (ofList entries).entries.map make := by
  induction entries using List.reverseRecOn with
  | nil => rfl
  | append_singleton front last ih =>
      rw [List.map_append, List.map_singleton, ofList_concat, ofList_concat]
      show put _ _ (ofList (front.map make)).entries = _
      rw [ih, put_map apart keys]
      rfl

end Map

theorem ofList_entries (table : Table κ α) : ofList table.entries = table :=
  eq_of_entries_eq (entries_ofList table.nodup_keys)

/-!
# Without a key
-/

end Table
end QuotedWords
