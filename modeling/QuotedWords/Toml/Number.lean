import QuotedWords.Datum.Basic
import QuotedWords.Toml.Strings

/-!
# Numbers of TOML

Integers in four bases and floating-point numbers.  Digits may be set apart by
single underscores; a number ends before the first character that cannot go on
with it.  Only the digits of a decimal integer are limited in number.
-/

namespace QuotedWords
namespace Toml

/-- The value of a digit in bases up to sixteen, if it is one in this base. -/
def digit? (base : Nat) (c : Char) : Option Nat :=
  (Text.hexValue? c).filter (· < base)

/-- Reads the digits after the first one of a run. -/
def moreDigits (base : Nat) : Text → List Nat × Text
  | [] => ([], [])
  | '_' :: c :: rest =>
      match digit? base c with
      | some digit =>
          let more := moreDigits base rest
          (digit :: more.1, more.2)
      | none => ([], '_' :: c :: rest)
  | c :: rest =>
      match digit? base c with
      | some digit =>
          let more := moreDigits base rest
          (digit :: more.1, more.2)
      | none => ([], c :: rest)

/-- Reads a run of at least one digit. -/
def digits? (base : Nat) : Text → Option (List Nat × Text)
  | [] => none
  | c :: rest =>
      (digit? base c).map fun digit =>
        let more := moreDigits base rest
        (digit :: more.1, more.2)

def valueOf (base : Nat) (digits : List Nat) : Nat :=
  digits.foldl (fun value digit => value * base + digit) 0

/-- Reads an optional sign; the flag says whether it is a minus. -/
def sign : Text → Bool × Text
  | '-' :: rest => (true, rest)
  | '+' :: rest => (false, rest)
  | text => (false, text)

/-- Reads the whole part of a decimal number, which has no leading zeros. -/
def wholePart? : Text → Option (List Nat × Text)
  | '0' :: rest => some ([0], rest)
  | text => digits? 10 text

def fraction? (text : Text) : Option (List Nat × Text) :=
  match text with
  | '.' :: rest => digits? 10 rest
  | _ => none

def exponent? (text : Text) : Option (Int × Text) :=
  match text with
  | c :: rest =>
      if c = 'e' ∨ c = 'E' then
        let (negative, rest) := sign rest
        (digits? 10 rest).map fun (digits, rest) =>
          let value : Int := valueOf 10 digits
          (if negative then -value else value, rest)
      else none
  | [] => none

/-- Reads an integer in one of the bases that are marked by a letter. -/
def basedInteger? : Text → Option (Nat × Text)
  | '0' :: mark :: rest =>
      let base? : Option Nat :=
        match mark with
        | 'x' => some 16
        | 'o' => some 8
        | 'b' => some 2
        | _ => none
      base?.bind fun base =>
        (digits? base rest).map fun (digits, rest) => (valueOf base digits, rest)
  | _ => none

def decimalNumber? (text : Text) : Option (Scalar × Text) := do
  let (negative, unsigned) := sign text
  let (whole, afterWhole) ← wholePart? unsigned
  let fraction := fraction? afterWhole
  let (places, afterFraction) := fraction.getD ([], afterWhole)
  let exponent := exponent? afterFraction
  let (power, rest) := exponent.getD (0, afterFraction)
  if fraction.isNone && exponent.isNone then
    let value : Int := valueOf 10 whole
    some (.integer (if negative then -value else value), rest)
  else
    let number :=
      Binary64.ofDecimal negative (valueOf 10 (whole ++ places)) (power - places.length)
    some (.real number, rest)

/-- Reads an infinity or what is not a number. -/
def specialNumber? (text : Text) : Option (Scalar × Text) :=
  let (negative, unsigned) := sign text
  match unsigned with
  | 'i' :: 'n' :: 'f' :: rest => some (.real (.infinite negative), rest)
  | 'n' :: 'a' :: 'n' :: rest => some (.real .nan, rest)
  | _ => none

def number (text : Text) : Except Stop (Scalar × Text) :=
  match basedInteger? text with
  | some (value, rest) => .ok (.integer value, rest)
  | none =>
      match (decimalNumber? text).or (specialNumber? text) with
      | none => stop .value text
      | some (value, rest) =>
          match value.excess? with
          | some digits => stop (.integerTooLong digits) text
          | none => .ok (value, rest)

example : (number "1_000 ".toList).toOption = some (.integer 1000, [' ']) := by decide +kernel

example : (number "0x_1".toList).toOption = some (.integer 0, "x_1".toList) := by decide +kernel

example : (number "-0b101".toList).toOption = some (.integer 0, "b101".toList) := by decide +kernel

end Toml
end QuotedWords
