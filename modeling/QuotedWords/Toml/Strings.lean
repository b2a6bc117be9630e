import QuotedWords.Toml.Fault

/-!
# Blanks, comments, strings and keys of TOML

Keys, comments and most strings are on one line; blanks between the members of an
array and strings in three quotes may go over many.
-/

namespace QuotedWords
namespace Toml

/-!
# Blanks and comments
-/

/-- Whether a character separates tokens on a line. -/
def isSpace (c : Char) : Bool :=
  c == ' ' || c == '\t'

/-- Whether a character may stand neither in a string of one line nor in a comment. -/
def isForbidden (c : Char) : Bool :=
  (c.toNat < 0x20 || c.toNat == 0x7F) && c != '\t'

/-- Whether a character may not stand in a string of many lines. -/
def isForbiddenInLines (c : Char) : Bool :=
  isForbidden c && c != '\n'

def skipSpaces (text : Text) : Text :=
  text.dropWhile isSpace

/-- Skips a comment up to the end of its line. -/
def skipCommentBody : Text → Except Stop Text
  | [] => .ok []
  | c :: rest =>
      if c = '\n' then .ok (c :: rest)
      else if isForbidden c then stop (.forbidden c) (c :: rest)
      else skipCommentBody rest

def skipComment : Text → Except Stop Text
  | '#' :: rest => skipCommentBody rest
  | text => .ok text

/-- Skips blanks, line ends and comments; the flag says whether a comment is open. -/
def skipVoid : Bool → Text → Except Stop Text
  | _, [] => .ok []
  | true, c :: rest =>
      if c = '\n' then skipVoid false rest
      else if isForbidden c then stop (.forbidden c) (c :: rest)
      else skipVoid true rest
  | false, c :: rest =>
      if c = '#' then skipVoid true rest
      else if isSpace c || c == '\n' then skipVoid false rest
      else .ok (c :: rest)

/-!
# Literal strings
-/

/-- A text before the first place where a mark stands, and the text from there on. -/
def before? (mark : Text) : Text → Option (Text × Text)
  | [] => none
  | c :: rest =>
      if mark.isPrefixOf (c :: rest) then some ([], c :: rest)
      else (before? mark rest).map fun (read, rest) => (c :: read, rest)

/--
Reads a string up to the mark that ends it.  The mark is looked for first, also
beyond the line, and only then whether all that is before it may stand there.
-/
def literalUpTo (mark : Text) (isForbidden : Char → Bool) (text : Text) :
    Except Stop (Text × Text) :=
  match before? mark text with
  | none => stop (.unclosed mark) []
  | some (read, rest) =>
      match read.find? isForbidden with
      | some c => stop (.forbidden c) (text.dropWhile fun c => !isForbidden c)
      | none => .ok (read, rest.drop mark.length)

def literalString : Text → Except Stop (Text × Text) :=
  literalUpTo ['\''] isForbidden

/-!
# Basic strings
-/

/-- Puts a character in front of a text that is read. -/
def consRead (c : Char) : Except Stop (Text × Text) → Except Stop (Text × Text)
  | .ok (text, rest) => .ok (c :: text, rest)
  | .error stopped => .error stopped

/-- What a letter after a backslash stands for. -/
def simpleEscape? : Char → Option Char
  | 'b' => some '\x08'
  | 't' => some '\t'
  | 'n' => some '\n'
  | 'f' => some '\x0c'
  | 'r' => some '\r'
  | '"' => some '"'
  | '\\' => some '\\'
  | _ => none

/-- How the next character of a basic string is read. -/
inductive StringState where
  | plain
  /-- A backslash was read. -/
  | escape
  /-- This many characters after the next one belong to a code point that is read. -/
  | digits (missing : Nat)
  /-- Blanks after a backslash, before the end of their line. -/
  | lineEnd
  /-- Blanks and line ends after a backslash and the end of its line. -/
  | gap

/-- The character of a code point of so many hexadecimal digits. -/
def codePoint (digits : Nat) (text : Text) : Except Stop Char :=
  match (text.take digits).mapM Text.hexValue? with
  | none => stop .hexadecimal text
  | some values =>
      if values.length < digits then stop .hexadecimal text
      else
        match Text.charOfCodePoint? (values.foldl (fun value digit => value * 16 + digit) 0) with
        | some c => .ok c
        | none => stop .noCharacter (text.drop digits)

/--
Reads a basic string after its opening quotes: one quote, or three when the string
may go over many lines.
-/
def basicString (lines : Bool) : StringState → Text → Except Stop (Text × Text)
  | .escape, [] => stop .escape []
  | _, [] => stop .unterminated []
  | .digits missing, _ :: rest =>
      match missing with
      | 0 => basicString lines .plain rest
      | missing + 1 => basicString lines (.digits missing) rest
  | .escape, c :: rest =>
      if lines && c == '\n' then basicString lines .gap rest
      else if lines && isSpace c then basicString lines .lineEnd rest
      else if c = 'u' then do
        consRead (← codePoint 4 rest) (basicString lines (.digits 3) rest)
      else if c = 'U' then do
        consRead (← codePoint 8 rest) (basicString lines (.digits 7) rest)
      else match simpleEscape? c with
        | some meant => consRead meant (basicString lines .plain rest)
        | none => stop .escape rest
  | .lineEnd, c :: rest =>
      if c = '\n' then basicString lines .gap rest
      else if isSpace c then basicString lines .lineEnd rest
      else stop .escape (c :: rest)
  | state, c :: rest =>
      let skipped :=
        match state with
        | .gap => isSpace c || c == '\n'
        | _ => false
      if skipped then basicString lines .gap rest
      else if c = '"' then
        if !lines then .ok ([], rest)
        else if ['"', '"'].isPrefixOf rest then .ok ([], rest.drop 2)
        else consRead c (basicString lines .plain rest)
      else if c = '\\' then basicString lines .escape rest
      else if if lines then isForbiddenInLines c else isForbidden c then
        stop (.illegal c) (c :: rest)
      else consRead c (basicString lines .plain rest)

/-!
# Strings of many lines
-/

/-- Leaves out the end of the line on which a string of many lines is opened. -/
def skipLineEnd : Text → Text
  | '\n' :: rest => rest
  | text => text

/-- Of more than three quotes at the end of a string up to two belong to it. -/
def takeQuotes (quote : Char) (read rest : Text) : Text × Text :=
  let more := (rest.takeWhile (· == quote)).take 2
  (read ++ more, rest.drop more.length)

/-- Reads a string of many lines after its three opening quotes. -/
def stringOfLines (quote : Char) (text : Text) : Except Stop (Text × Text) := do
  let (read, rest) ←
    if quote = '"' then basicString true .plain (skipLineEnd text)
    else literalUpTo [quote, quote, quote] isForbiddenInLines (skipLineEnd text)
  .ok (takeQuotes quote read rest)

/-!
# Keys
-/

/-- Whether a character may stand in a key without quotes. -/
def isBare (c : Char) : Bool :=
  c.isAlphanum || c == '-' || c == '_'

def keyPart (text : Text) : Except Stop (Text × Text) :=
  match text with
  | [] => stop .key []
  | c :: rest =>
      if c = '"' then basicString false .plain rest
      else if c = '\'' then literalString rest
      else if isBare c then .ok (text.takeWhile isBare, text.dropWhile isBare)
      else stop .key text

/--
Reads a key of parts with dots between them, and the blanks after it.  The
budget bounds the number of parts.
-/
def keyWithin : Nat → Text → Except Stop (List Text × Text)
  | 0, text => stop .key text
  | budget + 1, text => do
      let (part, rest) ← keyPart text
      match skipSpaces rest with
      | '.' :: rest =>
          let (parts, rest) ← keyWithin budget (skipSpaces rest)
          .ok (part :: parts, rest)
      | rest => .ok ([part], rest)

def key (text : Text) : Except Stop (List Text × Text) :=
  keyWithin (text.length + 1) text

example : (stringOfLines '"' "\na\\  \n  \"b\"\"\"\"c".toList).toOption =
    some ("a\"b\"".toList, ['c']) := by
  decide +kernel

end Toml
end QuotedWords
