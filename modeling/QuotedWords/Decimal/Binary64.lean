/-!
# Binary floating-point numbers

A number of the 64-bit binary format, held as its exact value, and the reading
of decimal numerals, which are rounded to the nearest such number and from a tie
to the even one.
-/

namespace QuotedWords

/-- A number of the 64-bit binary floating-point format. -/
inductive Binary64 where
  | nan
  | infinite (negative : Bool)
  /-- The number `± significand · 2 ^ exponent`; zero has both signs. -/
  | finite (negative : Bool) (significand : Nat) (exponent : Int)
  deriving DecidableEq, Repr

namespace Binary64

/-- The exponent of the numbers closest to zero. -/
def leastExponent : Int := -1074

/-- The exponent of the numbers farthest from zero. -/
def greatestExponent : Int := 971

/-- The significands have at most this many binary digits. -/
def precision : Nat := 53

/-- Whether the number is zero, of either sign. -/
def isZero : Binary64 → Bool
  | .finite _ significand _ => significand == 0
  | _ => false

/-- The nearest integer to a quotient; a tie goes to the even neighbour. -/
def roundDiv (numerator denominator : Nat) : Nat :=
  let quotient := numerator / denominator
  let twice := 2 * (numerator % denominator)
  if twice < denominator then quotient
  else if denominator < twice then quotient + 1
  else if quotient % 2 = 0 then quotient
  else quotient + 1

def twoTo (exponent : Nat) : Nat :=
  Nat.pow 2 exponent

def tenTo (exponent : Nat) : Nat :=
  Nat.pow 10 exponent

/-- The nearest number to a positive quotient. -/
def ofQuotient (negative : Bool) (numerator denominator : Nat) : Binary64 :=
  let guess : Int := (numerator.log2 : Int) - denominator.log2 - precision
  let fits (exponent : Int) : Bool :=
    numerator * twoTo (-exponent).toNat <
      twoTo precision * denominator * twoTo exponent.toNat
  let tight := if fits guess then guess else guess + 1
  let exponent := max tight leastExponent
  let significand :=
    roundDiv (numerator * twoTo (-exponent).toNat)
      (denominator * twoTo exponent.toNat)
  let carried := significand == twoTo precision
  let significand := if carried then twoTo (precision - 1) else significand
  let exponent := if carried then exponent + 1 else exponent
  if greatestExponent < exponent then .infinite negative
  else .finite negative significand exponent

/--
The nearest number to `± digits · 10 ^ exponent`.  A numeral far outside of the
range of the format is decided by its size alone.
-/
def ofDecimal (negative : Bool) (digits : Nat) (exponent : Int) : Binary64 :=
  let size := exponent + (Nat.toDigits 10 digits).length
  if digits = 0 ∨ size < -330 then .finite negative 0 leastExponent
  else if 330 < size then .infinite negative
  else
    ofQuotient negative (digits * tenTo exponent.toNat) (tenTo (-exponent).toNat)

example : ofDecimal false 5 (-1) = .finite false (twoTo 52) (-53) := by decide +kernel

example : ofDecimal true 0 0 = .finite true 0 (-1074) := by decide +kernel

example : ofDecimal false 5 (-324) = .finite false 1 (-1074) := by decide +kernel

example : ofDecimal false 18 307 = .infinite false := by decide +kernel

end Binary64
end QuotedWords
