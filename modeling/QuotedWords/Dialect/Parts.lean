import QuotedWords.Dialect.Fault

/-!
# Dialects from loosely typed parts

The parts are checked in a fixed order, and the first fault is the one that is
reported: every quote in turn by its opener, the shape of its pair, its closer
and its mode; then every escape by its key and its replacement; then the leader.
-/

namespace QuotedWords

/-- The parts of a dialect before they have been checked. -/
structure DialectParts where
  /-- For every opener the pair of its closer and its mode. -/
  quotes : Table Scalar Datum := {}
  /-- For every escape its replacement. -/
  escapes : Table Scalar Datum := {}
  /-- The leader of the escapes, or nothing. -/
  leader : Datum := .null

namespace DialectParts

/-!
# All faults of the parts
-/

/-- The faults of one quote.  What its pair is to be is known only by its opener. -/
def quoteFaults (opener : Scalar) (pair : Datum) : List DialectFault :=
  match opener with
  | .text [c] =>
      match pair.pair? with
      | none => [.badPair c pair]
      | some (close, mode) =>
          (if close.char?.isSome then [] else [.badCloser c close]) ++
            (if mode.mode?.isSome then [] else [.badMode c mode])
  | _ => [.badOpener (.scalar opener)]

def escapeFaults (key : Scalar) (replacement : Datum) : List DialectFault :=
  match key with
  | .text [c] =>
      if replacement.char?.isSome then [] else [.badReplacement c replacement]
  | _ => [.badEscapeKey (.scalar key)]

def leaderFaults (leader : Datum) : List DialectFault :=
  if leader.isNull || leader.char?.isSome then [] else [.badLeader leader]

/-- The faults of all parts, in the order in which they are looked for. -/
def faults (parts : DialectParts) : List DialectFault :=
  (parts.quotes.entries.flatMap fun entry => quoteFaults entry.1 entry.2) ++
    (parts.escapes.entries.flatMap fun entry => escapeFaults entry.1 entry.2) ++
    leaderFaults parts.leader

/-!
# Checking the parts
-/

/-- The single character that a value has to be. -/
def single (value : Datum) (fault : Datum → DialectFault) :
    Except DialectFault Char :=
  match value.char? with
  | some c => .ok c
  | none => .error (fault value)

def quote (opener : Scalar) (pair : Datum) :
    Except DialectFault (Char × QuoteRule) := do
  let opener ← single (.scalar opener) .badOpener
  match pair.pair? with
  | none => .error (.badPair opener pair)
  | some (close, mode) =>
      let close ← single close (.badCloser opener)
      match mode.mode? with
      | some known => .ok (opener, ⟨close, known⟩)
      | none => .error (.badMode opener mode)

def escape (key : Scalar) (replacement : Datum) :
    Except DialectFault (Char × Char) := do
  let key ← single (.scalar key) .badEscapeKey
  let replacement ← single replacement (.badReplacement key)
  .ok (key, replacement)

def checkedLeader (leader : Datum) : Except DialectFault (Option Char) :=
  if leader.isNull then .ok none
  else (single leader .badLeader).map some

def toDialect (parts : DialectParts) : Except DialectFault Dialect := do
  let quotes ← parts.quotes.entries.mapM fun entry => quote entry.1 entry.2
  let escapes ← parts.escapes.entries.mapM fun entry => escape entry.1 entry.2
  let leader ← checkedLeader parts.leader
  .ok { quotes := .ofList quotes, escapes := .ofList escapes, leader }

end DialectParts
end QuotedWords
