import QuotedWords.Text.Quoted
import QuotedWords.Command.Path

/-!
# Files

What the command asks of a file system: whether a file is at a path, and what can be
read there.  The system may answer either question with an error.
-/

namespace QuotedWords

/-- An error of the system: its number, and the reason in one line. -/
structure SystemError where
  number : Nat
  reason : Text
  oneLine : '\n' ∉ reason
  deriving DecidableEq, Repr

namespace SystemError

def message (error : SystemError) (path : Path) : Text :=
  "[Errno ".toList ++ Text.ofNat error.number ++ "] ".toList ++ error.reason ++ ": ".toList ++
    Text.display path.toText

def missing : SystemError :=
  ⟨2, "No such file or directory".toList, by decide⟩

def denied : SystemError :=
  ⟨13, "Permission denied".toList, by decide⟩

/-- The path leads through a file. -/
def notDirectory : SystemError :=
  ⟨20, "Not a directory".toList, by decide⟩

def isDirectory : SystemError :=
  ⟨21, "Is a directory".toList, by decide⟩

def nameTooLong : SystemError :=
  ⟨36, "File name too long".toList, by decide⟩

/--
Whether the error says that no file is at a path: nothing is there, or the path goes
by a closed descriptor, through a file or round in links.
-/
def saysAbsent (error : SystemError) : Bool :=
  [2, 9, 20, 40].contains error.number

end SystemError

/-- The answers of a file system. -/
structure Files where
  /-- Whether there is a file at a path; a directory is none. -/
  isFile : Path → Except SystemError Bool
  /-- The bytes that can be read at a path. -/
  read : Path → Except SystemError (List UInt8)

end QuotedWords
