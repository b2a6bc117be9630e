import QuotedWords.Datum.Limit
import QuotedWords.Command.Files

/-!
# Aborts

What ends the command on the spot, in the middle of whatever it was doing.
-/

namespace QuotedWords
namespace Command

inductive Abort where
  /-- Bytes that had to be UTF-8 are not. -/
  | undecodable
  | nulInPath
  /-- The system does not say whether settings are at a path, or does not open them. -/
  | settingsUnopened (error : SystemError) (path : Path)
  /-- A decimal integer of the settings has too many digits to be read. -/
  | integerTooLong (digits : Nat)
  | unshowable (limit : Datum.Limit)
  | nestedTooDeeply
  deriving DecidableEq, Repr

def Abort.message : Abort → Text
  | .undecodable => "bytes that are no UTF-8".toList
  | .nulInPath => "embedded null byte".toList
  | .settingsUnopened error path => error.message path
  | .integerTooLong digits =>
      "Exceeds the limit (4300 digits) for integer string conversion: value has ".toList ++
        Text.ofNat digits ++
        " digits; use sys.set_int_max_str_digits() to increase the limit".toList
  | .unshowable limit => limit.message
  | .nestedTooDeeply => "maximum recursion depth exceeded".toList

end Command
end QuotedWords
