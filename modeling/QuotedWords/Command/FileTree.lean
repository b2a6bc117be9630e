import QuotedWords.Text.Utf8
import QuotedWords.Command.Files

/-!
# File trees

A file tree answers for the files below the current directory; all that is known of
the world around it is its directories further up.  A name is looked up only if it is
not too long, and so is a path.
-/

namespace QuotedWords

/-- What a file tree holds at one place. -/
inductive Content where
  | file (bytes : List UInt8)
  /-- A file that may not be read. -/
  | locked
  | directory
  deriving DecidableEq, Repr

/-- The files below the current directory; what was made last comes first. -/
structure FileTree where
  entries : List (List Text × Content) := []
  deriving DecidableEq, Repr

namespace FileTree

def add (tree : FileTree) (path : Path) (content : Content) : FileTree :=
  ⟨(path.segments, content) :: tree.entries⟩

def content? (tree : FileTree) (place : List Text) : Option Content :=
  if place.isEmpty then some .directory
  else
    match tree.entries.lookup place with
    | some content => some content
    | none =>
        if tree.entries.any fun entry => place.isPrefixOf entry.1 then some .directory
        else none

/-- How many bytes a name can have. -/
def longestName : Nat := 255

/-- How many bytes a path can have. -/
def longestPath : Nat := 4095

/--
Follows segments from a place: a directory of the tree, or nothing for a
directory further up.
-/
def follow (tree : FileTree) :
    Option (List Text) → List Text → Except SystemError Content
  | _, [] => .ok .directory
  | place, segment :: rest =>
      if segment = ['.', '.'] then
        match place with
        | none | some [] => tree.follow none rest
        | some place => tree.follow (some place.dropLast) rest
      else if longestName < Utf8.length segment then .error .nameTooLong
      else
        match place.bind fun place => tree.content? (place ++ [segment]) with
        | none => .error .missing
        | some .directory =>
            tree.follow (place.map fun place => place ++ [segment]) rest
        | some content => if rest.isEmpty then .ok content else .error .notDirectory

/-- What is at a path. -/
def find (tree : FileTree) (path : Path) : Except SystemError Content :=
  if longestPath < Utf8.length path.toText then .error .nameTooLong
  else if path.anchor = 0 then tree.follow (some []) path.segments
  else tree.follow none path.segments

def isFile (tree : FileTree) (path : Path) : Except SystemError Bool :=
  match tree.find path with
  | .ok .directory => .ok false
  | .ok _ => .ok true
  | .error error => if error.saysAbsent then .ok false else .error error

def read (tree : FileTree) (path : Path) : Except SystemError (List UInt8) :=
  match tree.find path with
  | .ok (.file bytes) => .ok bytes
  | .ok .locked => .error .denied
  | .ok .directory => .error .isDirectory
  | .error error => .error error

def files (tree : FileTree) : Files :=
  { isFile := tree.isFile, read := tree.read }

end FileTree
end QuotedWords
