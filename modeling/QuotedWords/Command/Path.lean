import QuotedWords.Text.Lines

/-!
# Paths

A path is kept without what does not change its meaning: empty segments and
those that stay where they are.  A segment that goes up is kept, because what is
below it need not be a directory.
-/

namespace QuotedWords

structure Path where
  /-- The slashes in front of the first segment: none, one, or exactly two. -/
  anchor : Nat
  segments : List Text
  deriving DecidableEq, Repr

namespace Path

def ofText (text : Text) : Path :=
  let slashes := (text.takeWhile (· == '/')).length
  { anchor := if slashes = 0 ∨ slashes = 2 then slashes else 1
    segments := (Text.cutAt '/' text).filter fun piece => !(piece.isEmpty || piece == ['.']) }

def toText (path : Path) : Text :=
  if path.anchor = 0 ∧ path.segments = [] then ['.']
  else List.replicate path.anchor '/' ++ Text.joinWith ['/'] path.segments

def parent (path : Path) : Path :=
  { path with segments := path.segments.dropLast }

def child (path : Path) (name : Text) : Path :=
  { path with segments := path.segments ++ [name] }

/-- Whether a path holds NUL, which no path of a file can. -/
def holdsNul (path : Path) : Bool :=
  path.segments.any fun segment => segment.contains '\x00'

example : (ofText "./sub//./f".toList).toText = "sub/f".toList := by decide

example : (ofText "sub/../f/".toList).toText = "sub/../f".toList := by decide

end Path
end QuotedWords
