/-!
# Calendar - days and dates

Days are counted from the first of January 1970, which was a Thursday, in the calendar that has a leap day
every four years but in centuries that 400 does not divide.
-/
namespace Courier
namespace Calendar

def isLeap (y : Nat) : Bool :=
  y % 4 == 0 && (y % 100 != 0 || y % 400 == 0)

/-- The number of days of a month, counted from one, in a year. -/
def daysInMonth (y m : Nat) : Nat :=
  match m with
  | 2 => if isLeap y then 29 else 28
  | 4 | 6 | 9 | 11 => 30
  | _ => 31

/-- The number of leap years before a year, from year one on. -/
def leapsBefore (y : Nat) : Nat :=
  (y - 1) / 4 - (y - 1) / 100 + (y - 1) / 400

/-- The days from the start of 1970 to the start of a year not before it. -/
def daysBeforeYear (y : Nat) : Nat :=
  365 * (y - 1970) + (leapsBefore y - leapsBefore 1970)

def daysBeforeMonth (y m : Nat) : Nat :=
  ((List.range (m - 1)).map fun i => daysInMonth y (i + 1)).foldr (· + ·) 0

structure Date where
  year : Nat
  month : Nat
  day : Nat
deriving Repr, DecidableEq, Inhabited

namespace Date

/-- The day exists, and lies in 1970 or later. -/
def exists? (d : Date) : Bool :=
  1970 ≤ d.year && 1 ≤ d.month && d.month ≤ 12 && 1 ≤ d.day && d.day ≤ daysInMonth d.year d.month

/-- The days from the start of 1970 to a date. -/
def days (d : Date) : Nat :=
  daysBeforeYear d.year + daysBeforeMonth d.year d.month + (d.day - 1)

/-- The day of the week, Monday being 0. -/
def weekday (d : Date) : Nat :=
  (d.days + 3) % 7

end Date
end Calendar
end Courier
