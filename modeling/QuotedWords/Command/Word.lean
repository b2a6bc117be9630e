import QuotedWords.Command.Flag

/-!
# Arguments as words

Every argument is first taken on its own, before any of them has an effect: it
is a flag, perhaps with a value attached, or an operand, or the separator after
which all arguments are operands.
-/

namespace QuotedWords
namespace Command

/-- An argument, taken on its own. -/
inductive Word where
  | operand (text : Text)
  | separator
  /-- It looks like a flag and is none. -/
  | unknown (text : Text)
  /-- It gives a flag in this spelling; the rest of the argument is attached to it. -/
  | given (spelling : Text) (flag : Flag) (attached : Option Text)
  deriving DecidableEq, Repr

namespace Word

/-- An argument before its first sign of equality, and after it if there is one. -/
def cutAssignment (argument : Text) : Text × Option Text :=
  let name := argument.takeWhile (· != '=')
  match argument.drop name.length with
  | [] => (name, none)
  | _ :: value => (name, some value)

/-- The flags with a spelling of which the argument is a beginning. -/
def abbreviated (argument : Text) : List Word :=
  let (name, attached) := cutAssignment argument
  (Flag.spelled.filter fun entry => name.isPrefixOf entry.1).map fun entry =>
    .given entry.1 entry.2 attached

/-- The flag of one letter with which the argument begins; the rest is attached to it. -/
def short (argument : Text) : List Word :=
  let spelling := argument.take 2
  match Flag.spelled? spelling with
  | some flag => [.given spelling flag (some (argument.drop 2))]
  | none => []

def spelling : Word → Text
  | .given spelling _ _ => spelling
  | .operand text | .unknown text => text
  | .separator => "--".toList

/-- Takes an argument that begins with a dash and is longer than that. -/
def ofDashed (argument : Text) (long : Bool) : Except Misuse Word :=
  match Flag.spelled? argument with
  | some flag => .ok (.given argument flag none)
  | none =>
      let (name, attached) := cutAssignment argument
      match attached, Flag.spelled? name with
      | some value, some flag => .ok (.given name flag (some value))
      | _, _ =>
          match if long then abbreviated argument else short argument with
          | [word] => .ok word
          | [] =>
              .ok (if argument.contains ' ' then .operand argument else .unknown argument)
          | words => .error (.ambiguous argument (words.map spelling))

def ofArgument (argument : Text) : Except Misuse Word :=
  match argument with
  | '-' :: second :: _ => ofDashed argument (second == '-')
  | _ => .ok (.operand argument)

def ofArguments : List Text → Except Misuse (List Word)
  | [] => .ok []
  | argument :: rest =>
      if argument = "--".toList then .ok (.separator :: rest.map .operand)
      else do
        let word ← ofArgument argument
        let words ← ofArguments rest
        .ok (word :: words)

end Word
end Command
end QuotedWords
