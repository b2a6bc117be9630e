/-!
# Insertion-ordered tables

A table maps keys to values and keeps the order in which the keys first came.
Giving a value to a key a second time replaces the value and leaves the key at
its place.  All that a table says about a key is its answer to `get?`.
-/

namespace QuotedWords

/-- A finite map that remembers the order of its keys; no key occurs twice. -/
structure Table (κ : Type) (α : Type) where
  entries : List (κ × α)
  nodup_keys : (entries.map Prod.fst).Nodup

namespace Table

variable {κ α β : Type}

def empty : Table κ α :=
  ⟨[], List.nodup_nil⟩

instance : EmptyCollection (Table κ α) :=
  ⟨empty⟩

instance : Inhabited (Table κ α) :=
  ⟨empty⟩

def keys (table : Table κ α) : List κ :=
  table.entries.map Prod.fst

def size (table : Table κ α) : Nat :=
  table.entries.length

def isEmpty (table : Table κ α) : Bool :=
  table.entries.isEmpty

variable [DecidableEq κ]

def get? (table : Table κ α) (key : κ) : Option α :=
  table.entries.lookup key

/-!
# Adding entries
-/

/-- Gives a value to a key, at its place if it has one and else at the end. -/
def put (key : κ) (value : α) : List (κ × α) → List (κ × α)
  | [] => [(key, value)]
  | entry :: rest =>
      if entry.1 = key then (key, value) :: rest
      else entry :: put key value rest

theorem mem_keys_put {key : κ} {value : α} {entries : List (κ × α)} {other : κ} :
    other ∈ (put key value entries).map Prod.fst ↔
      other = key ∨ other ∈ entries.map Prod.fst := by
  induction entries with
  | nil => simp [put]
  | cons entry rest ih =>
      by_cases same : entry.1 = key
      · simp [put, same]
      · simp only [put, if_neg same, List.map_cons, List.mem_cons, ih]
        constructor
        · rintro (h | h | h)
          · exact Or.inr (Or.inl h)
          · exact Or.inl h
          · exact Or.inr (Or.inr h)
        · rintro (h | h | h)
          · exact Or.inr (Or.inl h)
          · exact Or.inl h
          · exact Or.inr (Or.inr h)

theorem nodup_keys_put {key : κ} {value : α} {entries : List (κ × α)}
    (nodup : (entries.map Prod.fst).Nodup) :
    ((put key value entries).map Prod.fst).Nodup := by
  induction entries with
  | nil => simp [put]
  | cons entry rest ih =>
      rw [List.map_cons, List.nodup_cons] at nodup
      by_cases same : entry.1 = key
      · simpa [put, same] using nodup
      · simp only [put, if_neg same, List.map_cons, List.nodup_cons]
        constructor
        · intro present
          rcases mem_keys_put.mp present with h | h
          · exact same h
          · exact nodup.1 h
        · exact ih nodup.2

def insert (table : Table κ α) (key : κ) (value : α) : Table κ α :=
  ⟨put key value table.entries, nodup_keys_put table.nodup_keys⟩

/-- The table of some entries; of those with one key the last one counts. -/
def ofList (entries : List (κ × α)) : Table κ α :=
  entries.foldl (fun table entry => table.insert entry.1 entry.2) empty

theorem lookup_cons (entry : κ × α) (rest : List (κ × α)) (key : κ) :
    (entry :: rest).lookup key =
      if key = entry.1 then some entry.2 else rest.lookup key := by
  rw [List.lookup_cons]
  by_cases same : key = entry.1
  · simp [same]
  · have apart : (key == entry.1) = false := by simpa using same
    simp [apart, same]

theorem lookup_put (key : κ) (value : α) (entries : List (κ × α)) (other : κ) :
    (put key value entries).lookup other =
      if other = key then some value else entries.lookup other := by
  induction entries with
  | nil => simp [put, lookup_cons]
  | cons entry rest ih =>
      by_cases here : entry.1 = key
      · simp only [put, if_pos here, lookup_cons]
        by_cases same : other = key
        · simp [same]
        · have apart : ¬ other = entry.1 := fun h => same (h.trans here)
          simp [same, apart]
      · simp only [put, if_neg here, lookup_cons, ih]
        by_cases same : other = entry.1
        · have apart : ¬ other = key := fun h => here (same ▸ h)
          simp [same, here]
        · simp [same]

@[simp] theorem get?_insert (table : Table κ α) (key : κ) (value : α) (other : κ) :
    (table.insert key value).get? other =
      if other = key then some value else table.get? other :=
  lookup_put key value table.entries other

@[simp] theorem get?_empty (key : κ) : (empty : Table κ α).get? key = none :=
  rfl

/-!
# Comparing
-/

/-- Whether two tables give the same value to every key, in whatever order. -/
def sameEntries [BEq α] (left right : Table κ α) : Bool :=
  left.size == right.size &&
    left.entries.all fun entry => right.get? entry.1 == some entry.2

instance [BEq α] : BEq (Table κ α) :=
  ⟨sameEntries⟩

/-- A hash made of those of the entries, in which their order does not count. -/
def hashWith (hashEntry : κ → α → UInt64) (table : Table κ α) : UInt64 :=
  table.entries.foldl (fun total entry => total + hashEntry entry.1 entry.2) 0

end Table
end QuotedWords
