import QuotedWords.Text.Basic
import QuotedWords.Dialect.Basic

/-!
# The named styles

Three dialects that have a name: words between blanks only, the quoting of a
shell, and the string literals of C.
-/

namespace QuotedWords

inductive Style where
  /-- Quotes and backslashes are ordinary characters. -/
  | whitespace
  /--
  Single quotes are literal, double quotes honour escapes, and a backslash makes
  the next character stand for itself inside double quotes and out.
  -/
  | shell
  /-- Double quotes, and the backslash sequences of C. -/
  | c
  deriving DecidableEq, Repr

namespace Style

def name : Style → Text
  | .whitespace => "whitespace".toList
  | .shell => "shell".toList
  | .c => "c".toList

def all : List Style :=
  [.c, .shell, .whitespace]

def named? (name : Text) : Option Style :=
  all.find? fun style => style.name == name

theorem named?_name (style : Style) : named? style.name = some style := by
  cases style <;> decide

def cEscapes : Table Char Char :=
  .ofList
    [('n', '\n'), ('r', '\r'), ('t', '\t'), ('"', '"'), ('\'', '\''), ('\\', '\\')]

def dialect : Style → Dialect
  | .whitespace => {}
  | .shell =>
      { quotes := .ofList
          [('\'', ⟨'\'', .ignoreEscapes⟩), ('"', ⟨'"', .parseEscapes⟩)]
        leader := some '\\' }
  | .c =>
      { quotes := .ofList [('"', ⟨'"', .parseEscapes⟩)]
        escapes := cEscapes
        leader := some '\\' }

end Style

namespace Dialect

/-- The quoting of a shell; this is the dialect that is meant when none is named. -/
def shell : Dialect :=
  Style.shell.dialect

end Dialect
end QuotedWords
