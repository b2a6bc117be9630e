import QuotedWords.Datum.Moment
import QuotedWords.Toml.Number

/-!
# Moments of TOML

A day, a time of day, or a day with a time, of which all numbers but the fraction of
a second have a fixed number of digits.  A day that has the form of one but is not in
the calendar is told from what does not have the form.
-/

namespace QuotedWords
namespace Toml

/-- Reads a number below a bound, of exactly so many digits. -/
def fixedNumber? (digits bound : Nat) (text : Text) : Option (Fin bound × Text) := do
  let values ← (text.take digits).mapM (digit? 10)
  if fits : values.length = digits ∧ valueOf 10 values < bound then
    some (⟨valueOf 10 values, fits.2⟩, text.drop digits)
  else none

def mark? (isMark : Char → Bool) : Text → Option Text
  | [] => none
  | c :: rest => if isMark c then some rest else none

/-- The year, the month and the day of what has the form of a day. -/
def day? (text : Text) : Option ((Nat × Nat × Nat) × Text) := do
  let (year, rest) ← fixedNumber? 4 10000 text
  let (month, rest) ← fixedNumber? 2 13 (← mark? (· == '-') rest)
  let (day, rest) ← fixedNumber? 2 32 (← mark? (· == '-') rest)
  if month.val = 0 ∨ day.val = 0 then none else some ((year, month, day), rest)

/-- Reads the fraction of a second, of which six digits count. -/
def microseconds? (text : Text) : Option (Fin 1000000 × Text) :=
  match text with
  | '.' :: rest =>
      let places := rest.takeWhile Char.isDigit
      if places.isEmpty then none
      else
        (fixedNumber? 6 1000000 (places ++ List.replicate 6 '0')).map fun read =>
          (read.1, rest.drop places.length)
  | _ => none

def clock? (text : Text) : Option (Clock × Text) := do
  let (hour, rest) ← fixedNumber? 2 24 text
  let (minute, rest) ← fixedNumber? 2 60 (← mark? (· == ':') rest)
  let (second, rest) ← fixedNumber? 2 60 (← mark? (· == ':') rest)
  let (microsecond, rest) := (microseconds? rest).getD (⟨0, by decide⟩, rest)
  some (⟨hour, minute, second, microsecond⟩, rest)

/-- Reads how many minutes a clock is ahead of universal time. -/
def ahead? (text : Text) : Option (Int × Text) :=
  match text with
  | [] => none
  | c :: rest =>
      if c = 'Z' ∨ c = 'z' then some (0, rest)
      else if c = '+' ∨ c = '-' then do
        let (hours, rest) ← fixedNumber? 2 24 rest
        let (minutes, rest) ← fixedNumber? 2 60 (← mark? (· == ':') rest)
        let total : Int := hours.val * 60 + minutes.val
        some (if c = '-' then -total else total, rest)
      else none

/-- Reads the time behind a day, set apart by a letter or a blank. -/
def timeOfDay? (text : Text) : Option ((Clock × Option Int) × Text) := do
  let (clock, rest) ← clock? (← mark? (fun c => c == 'T' || c == 't' || c == ' ') text)
  match ahead? rest with
  | some (ahead, rest) => some ((clock, some ahead), rest)
  | none => some ((clock, none), rest)

/-- Reads what has the form of a moment; a day that does not exist makes none. -/
def moment? (text : Text) : Option (Option Moment × Text) :=
  match day? text with
  | some ((year, month, day), rest) =>
      let found := Day.of? year month day
      match timeOfDay? rest with
      | some ((clock, ahead), rest) =>
          some (found.map fun day => .instant day clock ahead, rest)
      | none => some (found.map .day, rest)
  | none => (clock? text).map fun (clock, rest) => (some (.clock clock), rest)

example : (moment? "2024-02-30 ".toList).map Prod.fst = some none := by decide +kernel

end Toml
end QuotedWords
