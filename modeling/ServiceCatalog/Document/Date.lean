/-!
# Calendar dates

A document may hold dates.  A `Date` is a day of the Gregorian calendar in the years 1 to 9999, and
the type keeps that: the thirtieth of February has no value here.
-/

namespace ServiceCatalog

/-- A year with a twenty-ninth of February. -/
def isLeapYear (year : Nat) : Bool :=
  year % 4 = 0 && (year % 100 ≠ 0 || year % 400 = 0)

/-- The number of days of a month; a month out of range has none. -/
def daysInMonth (year month : Nat) : Nat :=
  match month with
  | 1 | 3 | 5 | 7 | 8 | 10 | 12 => 31
  | 4 | 6 | 9 | 11 => 30
  | 2 => if isLeapYear year then 29 else 28
  | _ => 0

/-- A year, a month and a day name a day of the calendar. -/
def isCalendarDay (year month day : Nat) : Bool :=
  1 ≤ year && year ≤ 9999 && 1 ≤ day && day ≤ daysInMonth year month

/-- A day of the calendar. -/
structure Date where
  year : Nat
  month : Nat
  day : Nat
  isDay : isCalendarDay year month day = true
  deriving DecidableEq

/-- The first number that makes something no date, or no time of a day. -/
inductive CalendarFault where
  | year (year : Nat)
  | month
  | day
  | hour
  | minute
  | second
  /-- An offset, in minutes, is a whole day or more. -/
  | offset (minutes : Int)
  deriving DecidableEq

/-- The day with the given numbers, or the first number that is out of range. -/
def Date.ofNumbers (year month day : Nat) : Except CalendarFault Date :=
  if h : isCalendarDay year month day = true then .ok ⟨year, month, day, h⟩
  else .error <|
    if year = 0 ∨ 9999 < year then .year year
    else if daysInMonth year month = 0 then .month
    else .day

/-- A number with zeros in front up to a width. -/
def paddedNumber (width n : Nat) : List Char :=
  let ds := Nat.toDigits 10 n
  List.replicate (width - ds.length) '0' ++ ds

/-- The form `2020-01-31`. -/
def Date.iso (d : Date) : List Char :=
  paddedNumber 4 d.year ++ '-' :: paddedNumber 2 d.month ++ '-' :: paddedNumber 2 d.day

/-- The number of days up to the end of a day, from the start of the first year on. -/
def Date.number (d : Date) : Nat :=
  let past := d.year - 1
  365 * past + past / 4 - past / 100 + past / 400 +
    (List.range (d.month - 1)).foldl (fun days m => days + daysInMonth d.year (m + 1)) 0 + d.day

end ServiceCatalog
