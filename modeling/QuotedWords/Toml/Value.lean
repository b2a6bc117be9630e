import QuotedWords.Toml.Moment
import QuotedWords.Toml.Tree

/-!
# Values of TOML

A value is a string, a number, a moment, a truth value, an array or an inline
table.  The readers have a budget that bounds how often they call one another; of
two calls in a row at least one comes after a character has been read, so twice the
length of the text is budget enough.  Apart from that there is a limit to nesting,
counted in levels: an array takes two of them and an inline table three.
-/

namespace QuotedWords
namespace Toml

def momentOrNumber (text : Text) : Except Stop (Datum × Text) :=
  match moment? text with
  | some (some moment, rest) => .ok (.scalar (.moment moment), rest)
  | some (none, _) => stop .moment text
  | none => (number text).map fun (read, rest) => (.scalar read, rest)

/-- Reads a value that holds no other values. -/
def scalar (text : Text) : Except Stop (Datum × Text) :=
  let asText := Except.map fun (read : Text × Text) => (Datum.text read.1, read.2)
  match text with
  | '"' :: '"' :: '"' :: rest => asText (stringOfLines '"' rest)
  | '"' :: rest => asText (basicString false .plain rest)
  | '\'' :: '\'' :: '\'' :: rest => asText (stringOfLines '\'' rest)
  | '\'' :: rest => asText (literalString rest)
  | 't' :: 'r' :: 'u' :: 'e' :: rest => .ok (.scalar (.truth true), rest)
  | 'f' :: 'a' :: 'l' :: 's' :: 'e' :: rest => .ok (.scalar (.truth false), rest)
  | _ => momentOrNumber text

mutual

def value : Nat → Nat → Text → Except Stop (Datum × Text)
  | 0, _, text => stop .value text
  | budget + 1, levels, '[' :: rest =>
      if levels < 2 then stop .nestedTooDeeply rest
      else do
        let rest ← skipVoid false rest
        let (items, rest) ← items budget (levels - 2) rest
        .ok (.list items, rest)
  | budget + 1, levels, '\x7b' :: rest =>
      if levels < 3 then stop .nestedTooDeeply rest
      else
        match skipSpaces rest with
        | '\x7d' :: rest => .ok (.table [], rest)
        | rest => fields budget (levels - 3) [] rest
  | _ + 1, _, text => scalar text

/-- Reads the items of an array that are left, and its closing bracket. -/
def items : Nat → Nat → Text → Except Stop (List Datum × Text)
  | 0, _, text => stop .array text
  | _ + 1, _, ']' :: rest => .ok ([], rest)
  | budget + 1, levels, text => do
      let (item, rest) ← value budget levels text
      match ← skipVoid false rest with
      | ',' :: rest =>
          let rest ← skipVoid false rest
          let (more, rest) ← items budget levels rest
          .ok (item :: more, rest)
      | ']' :: rest => .ok ([item], rest)
      | rest => stop .array rest

/-- Reads the fields of an inline table that are left, and its closing brace. -/
def fields : Nat → Nat → Entries → Text → Except Stop (Datum × Text)
  | 0, _, _, text => stop .inlineTable text
  | budget + 1, levels, entries, text => do
      let ((path, field), rest) ← assignment budget levels text
      match Entries.assign (.inTable path) field [] path entries with
      | .error cause => stop cause rest
      | .ok entries =>
          match skipSpaces rest with
          | ',' :: rest => fields budget levels entries (skipSpaces rest)
          | '\x7d' :: rest => .ok (.table (entriesData entries), rest)
          | rest => stop .inlineTable rest

/-- Reads a key, the sign of equality and a value. -/
def assignment : Nat → Nat → Text → Except Stop ((List Text × Datum) × Text)
  | 0, _, text => stop .key text
  | budget + 1, levels, text => do
      let (path, rest) ← key text
      match rest with
      | '=' :: rest =>
          let (assigned, rest) ← value budget levels (skipSpaces rest)
          .ok ((path, assigned), rest)
      | rest => stop .equalsSign rest

end

end Toml
end QuotedWords
