import QuotedWords.Text.Quoted

/-!
# Faults of TOML documents

Settings are kept in TOML documents.  Reading one stops at the first fault; the
message names the cause and the place in the document at which it showed.
-/

namespace QuotedWords
namespace Toml

inductive Cause where
  | statement
  | lineEnd
  | key
  | equalsSign
  | value
  /-- A day that the calendar does not have. -/
  | moment
  /-- A character that may stand neither in a comment nor in a literal string. -/
  | forbidden (c : Char)
  /-- A character that may not stand in a basic string. -/
  | illegal (c : Char)
  | unterminated
  /-- The mark that ends a literal string is missing. -/
  | unclosed (mark : Text)
  | escape
  | hexadecimal
  | noCharacter
  | array
  | inlineTable
  | tableHeader
  | arrayHeader
  | integerTooLong (digits : Nat)
  | nestedTooDeeply
  /-- A table is declared that already is. -/
  | declaredTwice (path : List Text)
  /-- A dotted key adds to a table that is declared elsewhere. -/
  | redefined (path : List Text)
  /-- Something is added to an array or an inline table. -/
  | immutable (path : List Text)
  | overwritten
  | repeated (key : Text)
  deriving DecidableEq, Repr

/-- The display of a dotted key; after a single part stands a comma too. -/
def displayPath (path : List Text) : Text :=
  '(' :: (Text.joinWith ", ".toList (path.map Text.display) ++
    if path.length = 1 then ",)".toList else [')'])

namespace Cause

def message : Cause → Text
  | .statement => "Invalid statement".toList
  | .lineEnd => "Expected newline or end of document after a statement".toList
  | .key => "Invalid initial character for a key part".toList
  | .equalsSign => "Expected '=' after a key in a key/value pair".toList
  | .value => "Invalid value".toList
  | .moment => "Invalid date or datetime".toList
  | .forbidden c => "Found invalid character ".toList ++ Text.display [c]
  | .illegal c => "Illegal character ".toList ++ Text.display [c]
  | .unterminated => "Unterminated string".toList
  | .unclosed mark => "Expected ".toList ++ Text.display mark
  | .escape => "Unescaped '\\' in a string".toList
  | .hexadecimal => "Invalid hex value".toList
  | .noCharacter => "Escaped character is not a Unicode scalar value".toList
  | .array => "Unclosed array".toList
  | .inlineTable => "Unclosed inline table".toList
  | .tableHeader => "Expected ']' at the end of a table declaration".toList
  | .arrayHeader => "Expected ']]' at the end of an array declaration".toList
  | .integerTooLong digits => "integer of ".toList ++ Text.ofNat digits ++ " digits".toList
  | .nestedTooDeeply => "values nested too deeply".toList
  | .declaredTwice path => "Cannot declare ".toList ++ displayPath path ++ " twice".toList
  | .redefined path => "Cannot redefine namespace ".toList ++ displayPath path
  | .immutable path => "Cannot mutate immutable namespace ".toList ++ displayPath path
  | .overwritten => "Cannot overwrite a value".toList
  | .repeated name => "Duplicate inline table key ".toList ++ Text.display name

end Cause

/-- A cause, and the part of the document that had not been read. -/
structure Stop where
  cause : Cause
  rest : Text
  deriving DecidableEq, Repr

def stop {α : Type} (cause : Cause) (rest : Text) : Except Stop α :=
  .error ⟨cause, rest⟩

/-!
# Places
-/

inductive Place where
  | within (line column : Nat)
  | atEnd
  deriving DecidableEq, Repr

/-- The place in a document at which the unread part of it starts. -/
def placeOf (document rest : Text) : Place :=
  if rest.isEmpty then .atEnd
  else
    let passed := document.take (document.length - rest.length)
    .within (passed.count '\n' + 1) ((passed.reverse.takeWhile (· != '\n')).length + 1)

def Place.display : Place → Text
  | .within row column =>
      "line ".toList ++ Text.ofNat row ++ ", column ".toList ++ Text.ofNat column
  | .atEnd => "end of document".toList

/-- Why a document cannot be read, and the place at which that showed. -/
structure Flaw where
  cause : Cause
  place : Place
  deriving DecidableEq, Repr

def Stop.flaw (stopped : Stop) (document : Text) : Flaw :=
  ⟨stopped.cause, placeOf document stopped.rest⟩

def Flaw.message (flaw : Flaw) : Text :=
  flaw.cause.message ++ " (at ".toList ++ flaw.place.display ++ ")".toList

end Toml
end QuotedWords
