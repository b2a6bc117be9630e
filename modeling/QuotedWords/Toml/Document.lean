import QuotedWords.Toml.Value

/-!
# TOML documents

A document of TOML 1.0 is read one statement at a time: a key with its value, or the
header that opens a section.  A header in two brackets opens the section of one more
table of an array.
-/

namespace QuotedWords
namespace Toml

/-- What has been read of a document. -/
structure Reader where
  entries : Entries := []
  /-- The key of the header of the current section. -/
  header : List Text := []
  /-- The number of the current section. -/
  part : Nat := 0

namespace Reader

/-- Reads a header after its opening brackets, and opens its section. -/
def openSection (reader : Reader) (ofArray : Bool) (text : Text) :
    Except Stop (Reader × Text) := do
  let (path, rest) ← key (skipSpaces text)
  let opened :=
    if ofArray then Entries.append path reader.entries
    else Entries.declare path reader.entries
  match opened with
  | .error cause => stop cause rest
  | .ok entries =>
      let reader : Reader := { entries, header := path, part := reader.part + 1 }
      match ofArray, rest with
      | false, ']' :: rest => .ok (reader, rest)
      | true, ']' :: ']' :: rest => .ok (reader, rest)
      | false, rest => stop .tableHeader rest
      | true, rest => stop .arrayHeader rest

def assign (reader : Reader) (levels : Nat) (text : Text) :
    Except Stop (Reader × Text) := do
  let ((path, assigned), rest) ← assignment (2 * text.length + 1) levels text
  let site := Entries.Site.inSection reader.part reader.header path
  let change := Entries.assign site assigned [] path
  match Entries.under site.immutable change reader.header reader.entries with
  | .error cause => stop cause rest
  | .ok entries => .ok ({ reader with entries }, rest)

/-- Reads a statement, unless only a comment or nothing is on the line. -/
def statement (reader : Reader) (levels : Nat) (text : Text) :
    Except Stop (Reader × Text) :=
  match text with
  | [] => .ok (reader, text)
  | '[' :: '[' :: rest => reader.openSection true rest
  | '[' :: rest => reader.openSection false rest
  | c :: _ =>
      if c = '\n' ∨ c = '#' then .ok (reader, text)
      else if isBare c || c == '"' || c == '\'' then reader.assign levels text
      else stop .statement text

/-- Reads the statements that are left; the budget bounds their number. -/
def statements (levels : Nat) : Nat → Reader → Text → Except Stop Reader
  | 0, _, text => stop .statement text
  | budget + 1, reader, text => do
      let (reader, rest) ← reader.statement levels (skipSpaces text)
      match ← skipComment (skipSpaces rest) with
      | [] => .ok reader
      | '\n' :: rest => statements levels budget reader rest
      | rest => stop .lineEnd rest

end Reader

/-- Makes a carriage return with a following newline a newline. -/
def joinLineEnds : Text → Text
  | [] => []
  | '\r' :: '\n' :: rest => '\n' :: joinLineEnds rest
  | c :: rest => c :: joinLineEnds rest

/--
The table that a document holds, or why it cannot be read.  Its values may lie in one
another in so many levels.
-/
def read (levels : Nat) (document : Text) : Except Flaw (List (Text × Datum)) :=
  let text := joinLineEnds document
  match Reader.statements levels (text.length + 1) {} text with
  | .ok reader => .ok (entriesData reader.entries)
  | .error stopped => .error (stopped.flaw text)

end Toml
end QuotedWords
