import QuotedWords.Report
import QuotedWords.Command.Word

/-!
# Reading the arguments

The words are gone through in order.  A flag takes effect where it stands, so
the first fault or request for help decides.  Flags of one letter may be written
together in one argument, of which the last may take a value; the effects of such
a cluster wait until all of it has been read.
-/

namespace QuotedWords
namespace Command

structure Arguments where
  input : Option Text := none
  /--
  The style asked for.  A separator that is attached to the flag is no value, so
  then a style is asked for and none is named.
  -/
  style : Option (Option Style) := none
  settingsFile : Option Text := none
  format : Option Format := none
  join : Bool := false
  debug : Bool := false
  deriving DecidableEq, Repr

/-- Why the command ends before it does anything. -/
inductive Halt where
  | helpAsked
  | misused (misuse : Misuse)
  deriving DecidableEq, Repr

/-- The flags of one word, with the values that are attached to them. -/
abbrev Cluster := List (Flag × Option Text)

namespace Cluster

/--
A flag without a value, and the flags of one letter that follow it.  What is left
when a letter is no flag would be the value of the flag before.
-/
def ofLetters (flag : Flag) : Text → Except Halt Cluster
  | [] => .ok [(flag, none)]
  | letter :: rest =>
      match Flag.spelled? ['-', letter] with
      | none => .error (.misused (.needlessValue flag (letter :: rest)))
      | some next =>
          if next.takesValue && !rest.isEmpty then
            .ok [(flag, none), (next, some rest)]
          else do
            let following ← ofLetters next rest
            .ok ((flag, none) :: following)

def ofFlag (spelling : Text) (flag : Flag) : Option Text → Except Halt Cluster
  | none => .ok [(flag, none)]
  | some value =>
      if flag.takesValue then .ok [(flag, some value)]
      else if "--".toList.isPrefixOf spelling || value.isEmpty then
        .error (.misused (.needlessValue flag value))
      else ofLetters flag value

/-- The flag of a cluster that still needs a value. -/
def hungry? (cluster : Cluster) : Option Flag :=
  match cluster.getLast? with
  | some (flag, none) => if flag.takesValue then some flag else none
  | _ => none

def feed (cluster : Cluster) (flag : Flag) (value : Text) : Cluster :=
  cluster.dropLast ++ [(flag, some value)]

end Cluster

/-- Whether the operand of the command has been given. -/
inductive Slot where
  | vacant
  | filled
  | closed
  deriving DecidableEq, Repr

/-- What has been read of the arguments. -/
structure Reader where
  arguments : Arguments := {}
  slot : Slot := .vacant
  leftOver : List Text := []
  deriving DecidableEq, Repr

namespace Reader

def pass (reader : Reader) : Reader :=
  { reader with slot := if reader.slot = .filled then .closed else reader.slot }

def leave (reader : Reader) (argument : Text) : Reader :=
  { reader.pass with leftOver := reader.leftOver ++ [argument] }

/-- Asks for a format; only one format may be asked for. -/
def choose (reader : Reader) (flag : Flag) (format : Format)
    (other : Flag) (otherFormat : Format) : Except Halt Reader :=
  if reader.arguments.format = some otherFormat then
    .error (.misused (.excluded flag other))
  else .ok { reader with arguments := { reader.arguments with format := some format } }

/-- Gives effect to a flag.  A value that is only the separator counts as none. -/
def apply (reader : Reader) (flag : Flag) (attached : Option Text) :
    Except Halt Reader :=
  let arguments := reader.arguments
  let value := attached.filter fun value => value != "--".toList
  match flag with
  | .help => .error .helpAsked
  | .style =>
      match value with
      | none => .ok { reader with arguments := { arguments with style := some none } }
      | some name =>
          match Style.named? name with
          | some style =>
              .ok { reader with arguments := { arguments with style := some (some style) } }
          | none => .error (.misused (.unknownStyle name))
  | .settingsFile =>
      .ok { reader with arguments := { arguments with settingsFile := value } }
  | .json => reader.choose .json .json .null .null
  | .null => reader.choose .null .null .json .json
  | .join => .ok { reader with arguments := { arguments with join := true } }
  | .debug => .ok { reader with arguments := { arguments with debug := true } }

def applyCluster (reader : Reader) (cluster : Cluster) : Except Halt Reader :=
  cluster.foldlM (fun reader given => reader.apply given.1 given.2) reader.pass

/-- Takes an operand: the first one is the input. -/
def operand (reader : Reader) (text : Text) : Reader :=
  if reader.slot = .vacant then
    { reader with arguments := { reader.arguments with input := some text }, slot := .filled }
  else reader.leave text

/-- Takes the separator, which is left over only if it helps no operand. -/
def separator (reader : Reader) : Reader :=
  if reader.slot = .closed then reader.leave "--".toList else reader.pass

def words : Reader → List Word → Except Halt Reader
  | reader, [] => .ok reader
  | reader, .operand text :: rest => words (reader.operand text) rest
  | reader, .separator :: rest => words reader.separator rest
  | reader, .unknown text :: rest => words (reader.leave text) rest
  | reader, .given spelling flag attached :: rest => do
      let cluster ← Cluster.ofFlag spelling flag attached
      match cluster.hungry?, rest with
      | none, rest => words (← reader.applyCluster cluster) rest
      | some hungry, .operand value :: rest =>
          words (← reader.applyCluster (cluster.feed hungry value)) rest
      | some hungry, _ => .error (.misused (.missingValue hungry))

end Reader

def Arguments.read (arguments : List Text) : Except Halt Arguments := do
  let words ← (Word.ofArguments arguments).mapError .misused
  let reader ← Reader.words {} words
  if reader.leftOver.isEmpty then .ok reader.arguments
  else .error (.misused (.leftOver reader.leftOver))

end Command
end QuotedWords
