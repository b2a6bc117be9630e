import QuotedWords.Dialect.Named
import QuotedWords.Text.Quoted

/-!
# The flags of the command

The flags, how they are spelled, and everything that can be wrong with the
arguments in which they are given.
-/

namespace QuotedWords
namespace Command

inductive Flag where
  | help
  | style
  | settingsFile
  | json
  | null
  | join
  | debug
  deriving DecidableEq, Repr

namespace Flag

def all : List Flag :=
  [.help, .style, .settingsFile, .json, .null, .join, .debug]

def spellings : Flag → List Text
  | .help => ["-h".toList, "--help".toList]
  | .style => ["-s".toList, "--style".toList]
  | .settingsFile => ["--config".toList]
  | .json => ["--json".toList]
  | .null => ["-0".toList, "--null".toList]
  | .join => ["-j".toList, "--join".toList]
  | .debug => ["--debug".toList]

def takesValue : Flag → Bool
  | .style | .settingsFile => true
  | _ => false

def spelled : List (Text × Flag) :=
  all.flatMap fun flag => flag.spellings.map fun spelling => (spelling, flag)

def spelled? (spelling : Text) : Option Flag :=
  spelled.lookup spelling

/-- The name of a flag in a message. -/
def label (flag : Flag) : Text :=
  Text.joinWith ['/'] flag.spellings

theorem spelled?_of_mem_spellings
    {flag : Flag} {spelling : Text}
    (spells : spelling ∈ flag.spellings) :
    spelled? spelling = some flag := by
  have known : ∀ spelling ∈ flag.spellings, spelled? spelling = some flag := by
    cases flag <;> decide
  exact known spelling spells

end Flag

inductive Misuse where
  /-- The beginning of a long flag fits more than one. -/
  | ambiguous (argument : Text) (fitting : List Text)
  | needlessValue (flag : Flag) (value : Text)
  | missingValue (flag : Flag)
  | unknownStyle (name : Text)
  | excluded (flag other : Flag)
  | leftOver (arguments : List Text)
  deriving DecidableEq, Repr

namespace Misuse

def about (flag : Flag) (text : Text) : Text :=
  "argument ".toList ++ flag.label ++ ": ".toList ++ text

def message : Misuse → Text
  | .ambiguous argument fitting =>
      "ambiguous option: ".toList ++ argument ++ " could match ".toList ++
        Text.joinWith ", ".toList fitting
  | .needlessValue flag value =>
      about flag ("ignored explicit argument ".toList ++ Text.display value)
  | .missingValue flag => about flag "expected one argument".toList
  | .unknownStyle name =>
      about .style <|
        "invalid choice: ".toList ++ Text.display name ++ " (choose from ".toList ++
          Text.joinWith ", ".toList
            (Style.all.map fun style => Text.display style.name) ++ ")".toList
  | .excluded flag other =>
      about flag ("not allowed with argument ".toList ++ other.label)
  | .leftOver arguments =>
      "unrecognized arguments: ".toList ++ Text.joinWith [' '] arguments

end Misuse
end Command
end QuotedWords
