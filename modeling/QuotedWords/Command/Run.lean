import QuotedWords.Failure.Snippet
import QuotedWords.Trace
import QuotedWords.Command.Help
import QuotedWords.Command.Options

/-!
# Running the command

What the command writes and how it ends, as a function of its arguments and of the
world around it.
-/

namespace QuotedWords
namespace Command

inductive Ending where
  | exit (code : Nat)
  /-- The arguments ended it before it did anything. -/
  | halted (code : Nat)
  | aborted (abort : Abort)
  deriving DecidableEq, Repr

/-- What the command writes, and how it ends. -/
structure Outcome where
  ending : Ending
  output : Text := []
  errors : Text := []
  deriving DecidableEq, Repr

def Outcome.code (outcome : Outcome) : Nat :=
  match outcome.ending with
  | .exit code | .halted code => code
  | .aborted _ => 1

/-- What is still to be said when the command has been aborted. -/
def Outcome.notice (outcome : Outcome) : Text :=
  match outcome.ending with
  | .aborted abort => abort.message ++ ['\n']
  | _ => []

def Halt.outcome : Halt → Outcome
  | .helpAsked => { ending := .halted 0, output := help }
  | .misused misuse =>
      { ending := .halted 2
        errors := usage ++ "quotesplit: error: ".toList ++ misuse.message ++ ['\n'] }

def complaint (message : Text) : Outcome :=
  { ending := .exit 2, errors := "error: ".toList ++ message ++ ['\n'] }

def Obstacle.outcome : Obstacle → Outcome
  | .faulty fault => complaint fault.message
  | .aborted abort => { ending := .aborted abort }

/-- The bytes of a file, or what is written when it cannot be opened. -/
def openFile (files : Files) (path : Path) : Except Outcome (List UInt8) :=
  if path.holdsNul then .error { ending := .aborted .nulInPath }
  else (files.read path).mapError fun error => complaint (error.message path)

def openInput (options : Options) (world : World) : Except Outcome Stream :=
  match options.input with
  | none => .ok world.stdin
  | some path => (openFile world.files path).map .ofFile

def Options.inputName (options : Options) : Text :=
  match options.input with
  | some path => path.toText
  | none => "<stdin>".toList

/-- The attempts at the lines of an input, as far as it could be read. -/
def Options.attempts (options : Options) (input : Input) : List Attempt :=
  if input.readable then options.dialect.attempts options.join input.lines
  else (options.dialect.progress options.join none 1 input.lines).attempts

def Options.run (options : Options) (input : Input) : Outcome :=
  let attempts := options.attempts input
  let document := Document.ofAttempts attempts
  let trace := if options.debug then attempts.flatMap Attempt.trace else []
  let output := options.format.writeAll (document.yields.map Prod.snd)
  match document.failure with
  | some failure =>
      { ending := .exit 1
        output
        errors := trace ++ failure.render options.inputName none ++ ['\n'] }
  | none =>
      { ending := if input.readable then .exit 0 else .aborted .undecodable
        output
        errors := trace }

def Arguments.run (arguments : Arguments) (world : World) : Outcome :=
  match arguments.resolve world with
  | .error obstacle => obstacle.outcome
  | .ok options =>
      match openInput options world with
      | .error outcome => outcome
      | .ok stream => options.run (.ofStream stream)

/-- The paths that a run with these arguments may ask about. -/
def pathsAsked (arguments : List Text) : List Path :=
  match Arguments.read arguments with
  | .error _ => []
  | .ok arguments =>
      (arguments.settingsPath :: arguments.inputPath?.toList).filter fun path =>
        !path.holdsNul

/-- Whether a run with these arguments reads its standard input. -/
def readsStdin (arguments : List Text) : Bool :=
  match Arguments.read arguments with
  | .error _ => false
  | .ok arguments => arguments.inputPath?.isNone

def run (arguments : List Text) (world : World) : Outcome :=
  match Arguments.read arguments with
  | .error halt => halt.outcome
  | .ok arguments => arguments.run world

end Command
end QuotedWords
