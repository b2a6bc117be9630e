import QuotedWords.Command.Run

/-!
# The command

Asks the file system about the paths that a run needs, runs the command on the
answers, and writes what it yields.
-/

namespace QuotedWords
namespace Command

/-- The number and the reason of an error; one that has no number is one of reading. -/
def numbered (error : IO.Error) : UInt32 × String :=
  match error with
  | .alreadyExists _ number reason
  | .inappropriateType _ number reason
  | .interrupted _ number reason
  | .invalidArgument _ number reason
  | .noFileOrDirectory _ number reason
  | .noSuchThing _ number reason
  | .permissionDenied _ number reason
  | .resourceExhausted _ number reason
  | .hardwareFault number reason
  | .illegalOperation number reason
  | .otherError number reason
  | .protocolError number reason
  | .resourceBusy number reason
  | .resourceVanished number reason
  | .timeExpired number reason
  | .unsatisfiedConstraints number reason
  | .unsupportedOperation number reason => (number, reason)
  | .unexpectedEof | .userError _ => (5, "Input/output error")

/-- What the system says of the errors of opening and reading, by their numbers. -/
def reasons : List (Nat × String) :=
  [(1, "Operation not permitted"), (2, "No such file or directory"),
   (4, "Interrupted system call"), (5, "Input/output error"),
   (6, "No such device or address"), (9, "Bad file descriptor"),
   (11, "Resource temporarily unavailable"), (12, "Cannot allocate memory"),
   (13, "Permission denied"), (14, "Bad address"), (16, "Device or resource busy"),
   (19, "No such device"), (20, "Not a directory"), (21, "Is a directory"),
   (22, "Invalid argument"), (23, "Too many open files in system"),
   (24, "Too many open files"), (26, "Text file busy"), (27, "File too large"),
   (30, "Read-only file system"), (36, "File name too long"),
   (40, "Too many levels of symbolic links"),
   (75, "Value too large for defined data type"), (95, "Operation not supported"),
   (116, "Stale file handle")]

/-- The error of the system; some errors hold its number negated. -/
def systemError (error : IO.Error) : SystemError :=
  let (held, reason) := numbered error
  let number := (min held (0 - held)).toNat
  { number
    reason := ((reasons.lookup number).getD reason).toList.filter (· != '\n')
    oneLine := by simp }

/-- What can be read at a path of the file system. -/
def readAt (path : Path) : IO (Except SystemError (List UInt8)) := do
  try
    let bytes ← IO.FS.readBinFile (String.ofList path.toText)
    return .ok bytes.toList
  catch error =>
    return .error (systemError error)

/-- The answers of a file system of which only this is known: what can be read at a path. -/
def filesOf (read : Path → Except SystemError (List UInt8)) : Files where
  read := read
  isFile path :=
    match read path with
    | .ok _ => .ok true
    | .error error =>
        if error.saysAbsent || error.number == SystemError.isDirectory.number then .ok false
        else .error error

/--
In how many levels a value is shown by a machine whose stack has a thousand of them.
What the settings name has more of them than what a dialect is made from, which is
looked at further inside.
-/
def shownLevels : DialectFault → Nat
  | .unknownStyle _ | .unknownMode _ _ => 993
  | _ => 989

/-- In how many levels such a machine reads the values of the settings. -/
def readLevels : Nat := 984

end Command
end QuotedWords

open QuotedWords in
def main (arguments : List String) : IO UInt32 := do
  let arguments := arguments.map String.toList
  let read ← (Command.pathsAsked arguments).mapM fun path =>
    return (path, ← Command.readAt path)
  let stdin ←
    if Command.readsStdin arguments then (← IO.getStdin).readBinToEnd
    else pure .empty
  let outcome := Command.run arguments
    { files := Command.filesOf fun path => (read.lookup path).getD (.error .missing)
      stdin := ⟨stdin.toList, .newlines⟩
      load := fun document => .ofToml (Toml.read Command.readLevels document)
      shownLevels := Command.shownLevels }
  (← IO.getStdout).putStr (String.ofList outcome.output)
  (← IO.getStderr).putStr (String.ofList (outcome.errors ++ outcome.notice))
  return outcome.code.toUInt32
