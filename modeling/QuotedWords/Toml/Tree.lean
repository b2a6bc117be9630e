import QuotedWords.Table.Basic
import QuotedWords.Datum.Basic
import QuotedWords.Toml.Fault

/-!
# The tables of a TOML document

The tables of a document grow while it is read.  Every table remembers how it
came to be, because that decides what may still be done to it: a header declares
a table once, and dotted keys add to a table only in the section in which dotted
keys made it.  Of an array of tables only the last one grows.  Inline tables and
arrays are values, to which nothing is added.
-/

namespace QuotedWords
namespace Toml

/-- How a table came to be. -/
inductive Origin where
  /-- As a table around a declared one. -/
  | implied
  | header
  /-- By a dotted key in the section of this number. -/
  | dotted (part : Nat)
  deriving DecidableEq, Repr

/-- A value of a document, a table, or an array of tables. -/
inductive Node where
  | value (value : Datum)
  | table (origin : Origin) (entries : List (Text × Node))
  | tables (finished : List Datum) (last : List (Text × Node))

/-- The entries of a table that may still grow. -/
abbrev Entries := List (Text × Node)

mutual

def Node.datum : Node → Datum
  | .value value => value
  | .table _ entries => .table (entriesData entries)
  | .tables finished last => .list (finished ++ [.table (entriesData last)])

def entriesData : List (Text × Node) → List (Text × Datum)
  | [] => []
  | (key, node) :: entries => (key, node.datum) :: entriesData entries

end

/-- Whether a value is an array or an inline table. -/
def isCollection : Datum → Bool
  | .list _ | .table _ => true
  | _ => false

/-- What is said when something is added to a value; of a collection it is this. -/
def refusal (immutable : Cause) (value : Datum) : Cause :=
  if isCollection value then immutable else .overwritten

namespace Entries

/-!
# Headers
-/

/--
Changes the entries of a table inside of a table, which is made if it is missing.
What is said of a collection on the way is given.
-/
def under (immutable : Cause) (change : Entries → Except Cause Entries) :
    List Text → Entries → Except Cause Entries
  | [], entries => change entries
  | key :: path, entries =>
      match entries.lookup key with
      | none => do
          let inner ← under immutable change path []
          .ok (Table.put key (.table .implied inner) entries)
      | some (.table origin inner) => do
          let inner ← under immutable change path inner
          .ok (Table.put key (.table origin inner) entries)
      | some (.tables finished last) => do
          let last ← under immutable change path last
          .ok (Table.put key (.tables finished last) entries)
      | some (.value value) => .error (refusal immutable value)

/-- Declares a table by a header, of which this is the last part. -/
def declareHere (twice : Cause) (key : Text) (entries : Entries) : Except Cause Entries :=
  match entries.lookup key with
  | none => .ok (Table.put key (.table .header []) entries)
  | some (.table .implied inner) => .ok (Table.put key (.table .header inner) entries)
  | some (.table _ _) | some (.tables _ _) => .error twice
  | some (.value value) => .error (refusal twice value)

/-- Declares the table of a header with this key. -/
def declare (path : List Text) (entries : Entries) : Except Cause Entries :=
  match path.getLast? with
  | none => .ok entries
  | some key =>
      let twice := Cause.declaredTwice path
      under twice (declareHere twice key) path.dropLast entries

/-- Adds a table to an array of tables by a header, of which this is the last part. -/
def appendHere (immutable : Cause) (key : Text) (entries : Entries) : Except Cause Entries :=
  match entries.lookup key with
  | none => .ok (Table.put key (.tables [] []) entries)
  | some (.tables finished last) =>
      .ok (Table.put key (.tables (finished ++ [.table (entriesData last)]) []) entries)
  | some (.table _ _) => .error .overwritten
  | some (.value value) => .error (refusal immutable value)

/-- Adds a table to the array of tables of a header with this key. -/
def append (path : List Text) (entries : Entries) : Except Cause Entries :=
  match path.getLast? with
  | none => .ok entries
  | some key =>
      let immutable := Cause.immutable path
      under immutable (appendHere immutable key) path.dropLast entries

/-!
# Assignments
-/

/-- Where a value is assigned, and what is said when that is not possible. -/
structure Site where
  /-- The number of the section. -/
  part : Nat
  /-- The key of its header. -/
  header : List Text
  immutable : Cause
  taken : Node → Cause

/-- An assignment to a key in a section of a document. -/
def Site.inSection (part : Nat) (header key : List Text) : Site :=
  { part, header
    immutable := .immutable (header ++ key.dropLast)
    taken := fun _ => .overwritten }

/-- An assignment to a key in an inline table. -/
def Site.inTable (key : List Text) : Site :=
  { part := 0, header := []
    immutable := .immutable key
    taken := fun node =>
      match node with
      | .value value => if isCollection value then .immutable key else repeated
      | _ => repeated }
where
  repeated : Cause := .repeated (key.getLast?.getD [])

/-- Gives a value to a dotted key, of which so many parts have been gone through. -/
def assign (site : Site) (value : Datum) (passed : List Text) :
    List Text → Entries → Except Cause Entries
  | [], entries => .ok entries
  | [key], entries =>
      match entries.lookup key with
      | none => .ok (Table.put key (.value value) entries)
      | some node => .error (site.taken node)
  | key :: next :: path, entries =>
      let passed := passed ++ [key]
      match entries.lookup key with
      | none => do
          let inner ← assign site value passed (next :: path) []
          .ok (Table.put key (.table (.dotted site.part) inner) entries)
      | some (.table origin inner) =>
          if origin = .implied ∨ origin = .dotted site.part then do
            let inner ← assign site value passed (next :: path) inner
            .ok (Table.put key (.table (.dotted site.part) inner) entries)
          else .error (.redefined (site.header ++ passed))
      | some (.tables _ _) => .error (.redefined (site.header ++ passed))
      | some (.value value) => .error (refusal site.immutable value)

end Entries
end Toml
end QuotedWords
