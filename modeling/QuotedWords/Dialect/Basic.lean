import QuotedWords.Table.Basic
import QuotedWords.Dialect.QuoteMode

/-!
# Dialects

A dialect of quoting and escaping says which characters quote, which character
leads an escape, and what the escapes stand for.
-/

namespace QuotedWords

/-- How a quotation is closed, and what its inside is read as. -/
structure QuoteRule where
  close : Char
  mode : QuoteMode
  deriving DecidableEq, Repr

structure Dialect where
  /-- The rule of every character that opens a quotation. -/
  quotes : Table Char QuoteRule := {}
  /--
  What the character after the leader stands for.  Without any entry every
  character after the leader stands for itself.
  -/
  escapes : Table Char Char := {}
  /-- The character that leads an escape; without one nothing is an escape. -/
  leader : Option Char := none
  deriving Inhabited

/--
What an escaped key stands for.  Without any entries every key stands for
itself, in the form that `literal` gives to it; otherwise only the keys of the
table stand for something.
-/
def resolveEscape {κ α : Type} [DecidableEq κ]
    (literal : κ → α) (escapes : Table κ α) (key : κ) : Option α :=
  if escapes.isEmpty then some (literal key) else escapes.get? key

namespace Dialect

def resolve (dialect : Dialect) (c : Char) : Option Char :=
  resolveEscape id dialect.escapes c

def isLeader (dialect : Dialect) (c : Char) : Bool :=
  dialect.leader == some c

end Dialect
end QuotedWords
