import QuotedWords.Dialect.Settings
import QuotedWords.Command.Arguments
import QuotedWords.Command.World

/-!
# Options

The options of a run come from the arguments and from a file of settings, which
is named by an argument or looked for beside the input.
-/

namespace QuotedWords
namespace Command

structure Options where
  /-- The input file; without one the standard input is read. -/
  input : Option Path := none
  dialect : Dialect
  format : Format := .lines
  join : Bool := false
  debug : Bool := false

inductive Obstacle where
  | faulty (fault : DialectFault)
  | aborted (abort : Abort)

namespace Arguments

def inputPath? (arguments : Arguments) : Option Path :=
  match arguments.input with
  | none => none
  | some name => if name = [] ∨ name = ['-'] then none else some (.ofText name)

def settingsPath (arguments : Arguments) : Path :=
  match arguments.settingsFile with
  | some (c :: name) => .ofText (c :: name)
  | _ =>
      let directory :=
        match arguments.inputPath? with
        | some input => input.parent
        | none => .ofText ['.']
      directory.child "quotesplit.toml".toList

/-- The style that is asked for as a datum; no name at all is an empty list. -/
def styleDatum? (arguments : Arguments) : Option Datum :=
  arguments.style.map fun named =>
    match named with
    | some style => .text style.name
    | none => .list []

end Arguments

/-- The bytes of the settings at a path; where there is no file there are none. -/
def settingsBytes (files : Files) (path : Path) : Except Abort (Option (List UInt8)) :=
  if path.holdsNul then .ok none
  else
    match files.isFile path with
    | .error error => .error (.settingsUnopened error path)
    | .ok false => .ok none
    | .ok true =>
        match files.read path with
        | .error error => .error (.settingsUnopened error path)
        | .ok bytes => .ok (some bytes)

def World.settingsOfBytes (world : World) (bytes : List UInt8) : Except Obstacle Settings :=
  match Utf8.decode? bytes with
  | none => .error (.aborted .undecodable)
  | some document =>
      match world.load document with
      | .settings entries => .ok (.ofList entries)
      | .malformed detail => .error (.faulty (.unreadable detail))
      | .aborted abort => .error (.aborted abort)

def World.settingsAt (world : World) (path : Path) : Except Obstacle Settings :=
  match settingsBytes world.files path with
  | .error abort => .error (.aborted abort)
  | .ok none => .ok {}
  | .ok (some bytes) => world.settingsOfBytes bytes

/-- A fault is reported, unless what it is about cannot be shown. -/
def World.obstacle (world : World) (fault : DialectFault) : Obstacle :=
  match fault.limitWithin? (world.shownLevels fault) with
  | some limit => .aborted (.unshowable limit)
  | none => .faulty fault

def Arguments.resolve (arguments : Arguments) (world : World) :
    Except Obstacle Options := do
  let settings ← world.settingsAt arguments.settingsPath
  let dialect ← (settings.toDialect arguments.styleDatum?).mapError world.obstacle
  .ok
    { input := arguments.inputPath?
      dialect
      format := arguments.format.getD .lines
      join := arguments.join
      debug := arguments.debug }

end Command
end QuotedWords
