import QuotedWords.Text.Basic

/-!
# Help
-/

namespace QuotedWords
namespace Command

def usage : Text :=
  ("usage: quotesplit [-h] [-s \x7bc,shell,whitespace\x7d] [--config FILE] [--json | -0]\n" ++
    "                  [-j] [--debug]\n" ++
    "                  [input]\n").toList

def help : Text :=
  usage ++
    ("\nSplit lines into words, honouring quotes and escapes\n\n" ++
      "positional arguments:\n" ++
      "  input                 Input file (default: stdin)\n\n" ++
      "options:\n" ++
      "  -h, --help            show this help message and exit\n" ++
      "  -s \x7bc,shell,whitespace\x7d, --style \x7bc,shell,whitespace\x7d\n" ++
      "                        Quoting style (default: shell)\n" ++
      "  --config FILE         Config file (default: auto-discover quotesplit.toml)\n" ++
      "  --json                Print one JSON array per input line\n" ++
      "  -0, --null            Terminate each word with NUL instead of newline\n" ++
      "  -j, --join            Continue an unterminated quote onto the next line\n" ++
      "  --debug               Log tokenising and dump words to stderr\n").toList

end Command
end QuotedWords
