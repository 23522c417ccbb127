import ServiceCatalog.Document.Value
import ServiceCatalog.Yaml.Cursor

/-!
# Written dates and moments

A date is written as `2020-01-31`.  A moment has a time of day behind it, after the letter `t` or
some blanks, and the time may have a fraction and say how far its clock is ahead of the universal
one: `2001-12-14t21:59:43.10-05:00`.

The numbers are only read here.  Whether the calendar has such a day is another question
(`WrittenTime.scalar`).
-/

namespace ServiceCatalog
namespace Yaml

/-- A written time of day.  The offset is in minutes. -/
structure WrittenClock where
  hour : Nat
  minute : Nat
  second : Nat
  microsecond : Nat
  offset : Option Int
  deriving DecidableEq

/-- A written date, with a time of day or without. -/
structure WrittenTime where
  year : Nat
  month : Nat
  day : Nat
  clock : Option WrittenClock
  deriving DecidableEq

namespace WrittenTime

/-- The value of digits. -/
def numberOf (ds : List Char) : Nat := ds.foldl (fun n c => 10 * n + (c.toNat - 48)) 0

/-- A number of at least and at most so many digits, and what follows it. -/
def number? (least most : Nat) (cs : List Char) : Option (Nat × List Char) :=
  let ds := (cs.take most).takeWhile Char.isDigit
  if least ≤ ds.length then some (numberOf ds, cs.drop ds.length) else none

/-- What follows one of some characters. -/
def behind? (marks : List Char) : List Char → Option (List Char)
  | [] => none
  | c :: cs => if marks.contains c then some cs else none

/-- The text ends here, but for one line feed perhaps. -/
def atEnd (cs : List Char) : Bool := cs = [] || cs = ['\n']

/-- The millionths that the digits of a fraction write. -/
def millionths (ds : List Char) : Nat :=
  let six := ds.take 6
  numberOf (six ++ List.replicate (6 - six.length) '0')

/-- The offset behind a sign, and what follows it. -/
def signedOffset? (negative : Bool) (cs : List Char) : Option (Int × List Char) := do
  let (hours, cs) ← number? 1 2 cs
  let (minutes, cs) := match (behind? [':'] cs).bind (number? 2 2) with
    | some r => r
    | none => (0, cs)
  let all : Int := 60 * hours + minutes
  return (if negative then -all else all, cs)

/-- The offset that a text is, up to its end. -/
def offset? (cs : List Char) : Option (Option Int) :=
  if atEnd cs then some none
  else
    let found := match cs.dropWhile isGap with
      | 'Z' :: ds => some (0, ds)
      | '+' :: ds => signedOffset? false ds
      | '-' :: ds => signedOffset? true ds
      | _ => none
    match found with
    | some (offset, rest) => if atEnd rest then some (some offset) else none
    | none => none

/-- The time of day that a text is, up to its end. -/
def clock? (cs : List Char) : Option WrittenClock := do
  let (hour, cs) ← number? 1 2 cs
  let (minute, cs) ← (behind? [':'] cs).bind (number? 2 2)
  let (second, cs) ← (behind? [':'] cs).bind (number? 2 2)
  let (fraction, cs) := match cs with
    | '.' :: ds => (ds.takeWhile Char.isDigit, ds.dropWhile Char.isDigit)
    | _ => ([], cs)
  let offset ← offset? cs
  return ⟨hour, minute, second, millionths fraction, offset⟩

/-- What stands behind the mark between a date and a time. -/
def behindDate? (cs : List Char) : Option (List Char) :=
  match behind? ['T', 't'] cs with
  | some ds => some ds
  | none => if cs.head?.any isGap then some (cs.dropWhile isGap) else none

/-- The date or the moment that a text writes. -/
def ofText? (cs : List Char) : Option WrittenTime := do
  let (year, cs) ← number? 4 4 cs
  let (month, cs) ← (behind? ['-'] cs).bind (number? 1 2)
  let (day, cs) ← (behind? ['-'] cs).bind (number? 1 2)
  if atEnd cs then return ⟨year, month, day, none⟩
  else
    let clock ← (behindDate? cs).bind clock?
    return ⟨year, month, day, some clock⟩

/-- A text that is a date or a moment without being marked as one: a date alone has two digits for
the month and two for the day. -/
def isEvident (cs : List Char) : Bool :=
  match ofText? cs with
  | some t => t.clock.isSome || (cs.takeWhile (· ≠ '\n')).length = 10
  | none => false

/-- The scalar of a written date or moment, if the calendar and the clock have it. -/
def scalar (t : WrittenTime) : Except CalendarFault Scalar :=
  match t.clock with
  | none => (Date.ofNumbers t.year t.month t.day).map .date
  | some c =>
    (Moment.ofNumbers t.year t.month t.day c.hour c.minute c.second c.microsecond c.offset).map
      .moment

end WrittenTime
end Yaml
end ServiceCatalog
