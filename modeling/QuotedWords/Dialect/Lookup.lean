import Std.Data.HashMap
import Std.Data.HashSet
import QuotedWords.Dialect.Basic

/-!
# Equality of dialects, and looking them up

Dialects are compared by what they say about each character, so the order in
which quotes and escapes were given does not count, neither for equality nor for
the hash.
-/

namespace QuotedWords
namespace Dialect

instance : BEq Dialect :=
  ⟨fun left right =>
    left.quotes == right.quotes && left.escapes == right.escapes &&
      left.leader == right.leader⟩

def hashChar (c : Char) : UInt64 :=
  c.val.toUInt64

/-- The hash of what a quote says about its opener. -/
def hashQuote (opener : Char) (rule : QuoteRule) : UInt64 :=
  let mode : UInt64 :=
    match rule.mode with
    | .ignoreEscapes => 1
    | .parseEscapes => 2
  mixHash (hashChar opener) (mixHash (hashChar rule.close) mode)

/-- The hash of what an escape says about its key. -/
def hashEscape (key replacement : Char) : UInt64 :=
  mixHash (hashChar key) (hashChar replacement)

instance : Hashable Dialect :=
  ⟨fun dialect =>
    mixHash
      (mixHash (dialect.quotes.hashWith hashQuote) (dialect.escapes.hashWith hashEscape))
      (dialect.leader.elim 0 hashChar)⟩

/-- For every dialect of a list the index of the first one that is equal to it. -/
def firstEqual (dialects : List Dialect) : List Nat :=
  dialects.map fun dialect => dialects.findIdx fun other => other == dialect

/-- A map that holds for every dialect of a list the index at which it came first. -/
def firstIndices (dialects : List Dialect) : Std.HashMap Dialect Nat :=
  dialects.zipIdx.foldl (fun indices entry => indices.insertIfNew entry.1 entry.2) {}

/-- For every dialect of a list what the map of first indices holds. -/
def lookUpAll (dialects : List Dialect) : List (Option Nat) :=
  let indices := firstIndices dialects
  dialects.map fun dialect => indices[dialect]?

def countDistinct (dialects : List Dialect) : Nat :=
  (Std.HashSet.ofList dialects).size

end Dialect
end QuotedWords
