import QuotedWords.Text.JsonString

/-!
# Reports

The three forms in which the words of a document are written.
-/

namespace QuotedWords

/-- A form in which words are written. -/
inductive Format where
  /-- One word a line, with an empty line between the groups. -/
  | lines
  /-- One JSON array a group. -/
  | json
  /-- Every word ended by NUL. -/
  | null
  deriving DecidableEq, Repr

namespace Format

def name : Format → Text
  | .lines => "lines".toList
  | .json => "json".toList
  | .null => "null".toList

/-- The format of a name; any name that is no format stands for lines. -/
def named (name : Text) : Format :=
  if name = Format.json.name then .json
  else if name = Format.null.name then .null
  else .lines

def write : Format → List Text → Text
  | .lines, words => words.flatMap fun word => word ++ ['\n']
  | .json, words => Text.jsonArray words ++ ['\n']
  | .null, words => words.flatMap fun word => word ++ ['\x00']

/-- What stands between two groups. -/
def gap : Format → Text
  | .lines => ['\n']
  | _ => []

def writeAll (format : Format) : List (List Text) → Text
  | [] => []
  | words :: groups =>
      format.write words ++
        groups.flatMap fun words => format.gap ++ format.write words

end Format
end QuotedWords
