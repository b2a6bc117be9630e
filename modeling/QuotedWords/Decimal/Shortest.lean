import QuotedWords.Text.Basic
import QuotedWords.Decimal.Binary64

/-!
# Shortest decimal numerals

A finite number is displayed with the fewest digits that are read back as the
same number; among the numerals of that length the nearest to the number is
taken, and from a tie the one with an even last digit.
-/

namespace QuotedWords
namespace Binary64

/-!
# Choosing the digits
-/

/--
The numbers that are read as a given positive number, as an interval of
fractions with a common denominator.
-/
structure Neighbourhood where
  low : Nat
  value : Nat
  high : Nat
  denominator : Nat
  /-- The ends belong to the interval. -/
  closed : Bool

/--
The interval around `significand · 2 ^ exponent`.  It reaches half-way to the
neighbours; the lower neighbour of a power of two is only half as far away.
-/
def neighbourhood (significand : Nat) (exponent : Int) : Neighbourhood :=
  let quarter := exponent - 2
  let scale := twoTo quarter.toNat
  let below :=
    if significand = twoTo (precision - 1) ∧ leastExponent < exponent then 1 else 2
  { low := (4 * significand - below) * scale
    value := 4 * significand * scale
    high := (4 * significand + 2) * scale
    denominator := twoTo (-quarter).toNat
    closed := significand % 2 == 0 }

/-- Whether a fraction, given by its parts, lies in the interval. -/
def Neighbourhood.holds (near : Neighbourhood) (numerator denominator : Nat) : Bool :=
  let point := numerator * near.denominator
  if near.closed then
    near.low * denominator ≤ point && point ≤ near.high * denominator
  else
    near.low * denominator < point && point < near.high * denominator

/-- The power of ten of the first digit of the value. -/
def Neighbourhood.magnitude (near : Neighbourhood) : Int :=
  let shift : Nat := 400
  let leading := Nat.toDigits 10 (near.value * tenTo shift / near.denominator)
  leading.length - 1 - shift

/-- The numeral of `count` digits in the interval that is nearest to the value. -/
def Neighbourhood.digits? (near : Neighbourhood) (count : Nat) : Option Nat :=
  let step : Int := near.magnitude + 1 - count
  let up := tenTo step.toNat
  let down := tenTo (-step).toNat
  let floor := near.value * down / (near.denominator * up)
  let inside (candidate : Nat) : Bool := near.holds (candidate * up) down
  let nearest := roundDiv (near.value * down) (near.denominator * up)
  let other := if nearest = floor then floor + 1 else floor
  if inside nearest then some nearest
  else if inside other then some other
  else none

/-- The first of these lengths for which there is a numeral, with that numeral. -/
def Neighbourhood.shortest? (near : Neighbourhood) : List Nat → Option (Nat × Nat)
  | [] => none
  | count :: counts =>
      match near.digits? count with
      | some digits => some (digits, count)
      | none => near.shortest? counts

/-- The digits of a positive number and the power of ten of the first one. -/
def shortestDigits (significand : Nat) (exponent : Int) : Text × Int :=
  let near := neighbourhood significand exponent
  match near.shortest? (List.range' 1 17) with
  | some (digits, count) =>
      let numeral := Text.ofNat digits
      let carry : Int := numeral.length - count
      (numeral.dropEndWhile (· == '0'), near.magnitude + carry)
  | none => (['0'], 0)

/-!
# Writing them
-/

/-- How floating-point numbers are laid out. -/
structure Layout where
  /-- The least power of ten that is written positionally. -/
  leastPositional : Int
  /-- The first power of ten that is no longer written positionally. -/
  positionalBound : Int
  /-- The least number of digits of an exponent. -/
  exponentDigits : Nat

/--
Numbers from 10 ^ -4 to below 10 ^ 16 are written positionally with at least one
digit after the point; an exponent has a sign and at least two digits.
-/
def displayLayout : Layout :=
  { leastPositional := -4, positionalBound := 16, exponentDigits := 2 }

/-- Digits written positionally, the first one at the given power of ten. -/
def positional (digits : Text) (power : Int) : Text :=
  if power < 0 then
    '0' :: '.' :: (List.replicate (-power - 1).toNat '0' ++ digits)
  else
    let whole := digits.take (power.toNat + 1)
    let padded := whole ++ List.replicate (power.toNat + 1 - whole.length) '0'
    let fraction := digits.drop (power.toNat + 1)
    padded ++ '.' :: (if fraction.isEmpty then ['0'] else fraction)

/-- Digits written with an exponent. -/
def scientific (exponentDigits : Nat) (digits : Text) (power : Int) : Text :=
  let fraction := digits.drop 1
  let numeral := Text.ofNat power.natAbs
  digits.take 1 ++ (if fraction.isEmpty then [] else '.' :: fraction) ++
    'e' :: (if power < 0 then '-' else '+') ::
      (List.replicate (exponentDigits - numeral.length) '0' ++ numeral)

/-- A number in a layout. -/
def write (layout : Layout) : Binary64 → Text
  | .nan => "nan".toList
  | .infinite negative => sign negative ++ "inf".toList
  | .finite negative 0 _ => sign negative ++ "0.0".toList
  | .finite negative significand exponent =>
      let digits := shortestDigits significand exponent
      let inRange := layout.leastPositional ≤ digits.2 ∧ digits.2 < layout.positionalBound
      sign negative ++
        if inRange then positional digits.1 digits.2
        else scientific layout.exponentDigits digits.1 digits.2
where
  sign (negative : Bool) : Text := if negative then ['-'] else []

def display (number : Binary64) : Text :=
  number.write displayLayout

end Binary64
end QuotedWords
