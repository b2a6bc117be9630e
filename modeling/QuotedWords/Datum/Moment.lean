import QuotedWords.Text.Basic

/-!
# Moments

A moment is a day, a time of day, or both.  A moment that is both may say how far
its clock is ahead of universal time.
-/

namespace QuotedWords

/-!
# Days
-/

def isLeapYear (year : Nat) : Bool :=
  year % 4 == 0 && (year % 100 != 0 || year % 400 == 0)

def daysOfMonth (year month : Nat) : Nat :=
  if month = 2 then if isLeapYear year then 29 else 28
  else if month = 4 ∨ month = 6 ∨ month = 9 ∨ month = 11 then 30
  else 31

/-- Whether the calendar has a day; its years have at most four digits. -/
def isDay (year month day : Nat) : Bool :=
  0 < year && year ≤ 9999 && 0 < month && month ≤ 12 &&
    0 < day && day ≤ daysOfMonth year month

structure Day where
  year : Nat
  month : Nat
  day : Nat
  valid : isDay year month day = true
  deriving DecidableEq, Repr

def Day.of? (year month day : Nat) : Option Day :=
  if valid : isDay year month day = true then some ⟨year, month, day, valid⟩ else none

def Day.numbers (date : Day) : List Nat :=
  [date.year, date.month, date.day]

/-!
# Times of day
-/

structure Clock where
  hour : Fin 24
  minute : Fin 60
  second : Fin 60
  microsecond : Fin 1000000
  deriving DecidableEq, Repr

/-- The numbers of a time of day up to its minute, or up to the last that is not zero. -/
def Clock.numbers (time : Clock) : List Nat :=
  [time.hour.val, time.minute.val] ++
    if time.microsecond.val ≠ 0 then [time.second.val, time.microsecond.val]
    else if time.second.val ≠ 0 then [time.second.val]
    else []

/-!
# Moments
-/

inductive Moment where
  | day (date : Day)
  | clock (time : Clock)
  /-- A time of a day; how many minutes its clock is ahead may be left open. -/
  | instant (date : Day) (time : Clock) (ahead : Option Int)
  deriving DecidableEq, Repr

namespace Moment

def call (name : String) (arguments : List Text) : Text :=
  name.toList ++ '(' :: (Text.joinWith ", ".toList arguments ++ [')'])

/-- The display of how many minutes a clock is ahead; a clock behind is a day less. -/
def displayAhead (minutes : Int) : Text :=
  if minutes = 0 then "datetime.timezone.utc".toList
  else
    let span :=
      if minutes < 0 then
        ["days=-1".toList, "seconds=".toList ++ Text.ofInt (86400 + minutes * 60)]
      else ["seconds=".toList ++ Text.ofInt (minutes * 60)]
    call "datetime.timezone" [call "datetime.timedelta" span]

def display : Moment → Text
  | .day date => call "datetime.date" (date.numbers.map Text.ofNat)
  | .clock time => call "datetime.time" (time.numbers.map Text.ofNat)
  | .instant date time ahead =>
      let numbers := date.numbers ++ time.numbers
      let zone := ahead.map fun minutes => "tzinfo=".toList ++ displayAhead minutes
      call "datetime.datetime" (numbers.map Text.ofNat ++ zone.toList)

end Moment
end QuotedWords
