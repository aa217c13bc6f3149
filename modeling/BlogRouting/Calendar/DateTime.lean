/-!
# Date-times

A calendar date of the proleptic Gregorian calendar and a time of day, without a time zone. A
second numbered sixty is a leap second and may stand at the end of any minute.
-/

namespace BlogRouting

structure DateTime where
  year : Int
  month : Nat
  day : Nat
  hour : Nat
  minute : Nat
  second : Nat
  nanosecond : Nat
  deriving DecidableEq, Repr

namespace DateTime

def isLeapYear (year : Int) : Bool :=
  year % 4 = 0 && (year % 100 ≠ 0 || year % 400 = 0)

/-- The number of days of a month, zero for a month that is none. -/
def daysInMonth (year : Int) : Nat → Nat
  | 2 => if isLeapYear year then 29 else 28
  | 4 | 6 | 9 | 11 => 30
  | 1 | 3 | 5 | 7 | 8 | 10 | 12 => 31
  | _ => 0

/-- The years that have dates. -/
def firstYear : Int := -262143

def lastYear : Int := 262142

/-- Whether the fields name a date that exists and a time that a day has. -/
def isValid (t : DateTime) : Bool :=
  firstYear ≤ t.year && t.year ≤ lastYear
    && 1 ≤ t.day && t.day ≤ daysInMonth t.year t.month
    && t.hour < 24 && t.minute < 60 && t.second ≤ 60 && t.nanosecond < 1000000000

end DateTime

end BlogRouting
