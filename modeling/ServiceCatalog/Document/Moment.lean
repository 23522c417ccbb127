import ServiceCatalog.Document.Date

/-!
# Moments

A document may hold a date with a time of day, and the time may say by how much its clock is ahead
of the universal one.  A `Moment` without such an offset is a reading of some clock; one with an
offset is a point in time, and two of them are the same point if they agree after the offset is
taken off (`Moment.instant`).  A reading and a point are never the same.
-/

namespace ServiceCatalog

/-- The numbers are a time of day. -/
def isClockTime (hour minute second microsecond : Nat) : Bool :=
  hour < 24 && minute < 60 && second < 60 && microsecond < 1000000

/-- An offset, in minutes, is shorter than a day. -/
def isOffset (offset : Option Int) : Bool := offset.all fun m => m.natAbs < 24 * 60

/-- A date with a time of day, and perhaps an offset in minutes. -/
structure Moment where
  date : Date
  hour : Nat
  minute : Nat
  second : Nat
  microsecond : Nat
  offset : Option Int
  isTime : isClockTime hour minute second microsecond = true
  isOffset : isOffset offset = true
  deriving DecidableEq

namespace Moment

/-- The moment with the given numbers, or the first of them that is out of range.  The offset counts
first, and the date before the time of day. -/
def ofNumbers (year month day hour minute second microsecond : Nat) (offset : Option Int) :
    Except CalendarFault Moment :=
  if ho : ServiceCatalog.isOffset offset = true then do
    let date ← Date.ofNumbers year month day
    if ht : isClockTime hour minute second microsecond = true then
      return ⟨date, hour, minute, second, microsecond, offset, ht, ho⟩
    else .error (if 24 ≤ hour then .hour else if 60 ≤ minute then .minute else .second)
  else .error (.offset (offset.getD 0))

/-- What makes two moments the same: whether there is an offset, the seconds from the start of the
first year on, and the microseconds. -/
def instant (m : Moment) : Bool × Int × Nat :=
  let minutes : Int := 60 * (24 * m.date.number + m.hour) + m.minute
  (m.offset.isSome, 60 * (minutes - m.offset.getD 0) + m.second, m.microsecond)

/-- The time of day in the form `21:59:43.100000`, without a fraction if there is none. -/
def clock (m : Moment) : List Char :=
  paddedNumber 2 m.hour ++ ':' :: paddedNumber 2 m.minute ++ ':' :: paddedNumber 2 m.second ++
    if m.microsecond = 0 then [] else '.' :: paddedNumber 6 m.microsecond

/-- An offset in the form `-05:00`. -/
def writtenOffset (minutes : Int) : List Char :=
  (if minutes < 0 then '-' else '+') ::
    paddedNumber 2 (minutes.natAbs / 60) ++ ':' :: paddedNumber 2 (minutes.natAbs % 60)

/-- The form `2001-12-14T21:59:43-05:00`, with some sign between the date and the time, and some
form of the offset. -/
def written (m : Moment) (between : Char) (offset : Int → List Char) : List Char :=
  m.date.iso ++ between :: m.clock ++ (m.offset.map offset).getD []

/-- The form in JSON, where the universal clock itself is marked by a `Z`. -/
def iso (m : Moment) : List Char :=
  m.written 'T' fun minutes => if minutes = 0 then ['Z'] else writtenOffset minutes

/-- The plain form, with a space in front of the time. -/
def plain (m : Moment) : List Char := m.written ' ' writtenOffset

end Moment

/-! ## Spelled out -/

/-- The literal form of a span of minutes: whole days, which may be negative, and seconds. -/
def spanLiteral (minutes : Int) : List Char :=
  let days := minutes / (24 * 60)
  let seconds := 60 * (minutes % (24 * 60))
  let parts : List String :=
    (if days = 0 then [] else [s!"days={days}"]) ++
      (if seconds = 0 then [] else [s!"seconds={seconds}"])
  let inner := if parts.isEmpty then "0" else String.intercalate ", " parts
  ("datetime.timedelta(" ++ inner ++ ")").toList

namespace Moment

/-- The literal form of a moment.  The numbers behind the minute are left out from the end if they
are zero. -/
def literal (m : Moment) : List Char :=
  let small :=
    if m.microsecond ≠ 0 then [m.second, m.microsecond] else if m.second ≠ 0 then [m.second] else []
  let numbers := [m.date.year, m.date.month, m.date.day, m.hour, m.minute] ++ small
  let zone := match m.offset with
    | none => ""
    | some 0 => ", tzinfo=datetime.timezone.utc"
    | some minutes =>
      ", tzinfo=datetime.timezone(" ++ String.ofList (spanLiteral minutes) ++ ")"
  ("datetime.datetime(" ++ String.intercalate ", " (numbers.map fun n => toString n) ++ zone ++
    ")").toList

end Moment

/-- What is said about numbers that are no date or no time. -/
def CalendarFault.message (fault : CalendarFault) : String :=
  match fault with
  | .year number => s!"year {number} is out of range"
  | .month => "month must be in 1..12"
  | .day => "day is out of range for month"
  | .hour => "hour must be in 0..23"
  | .minute => "minute must be in 0..59"
  | .second => "second must be in 0..59"
  | .offset minutes =>
    "offset must be a timedelta strictly between -timedelta(hours=24) and timedelta(hours=24), not "
      ++ String.ofList (spanLiteral minutes) ++ "."

end ServiceCatalog
