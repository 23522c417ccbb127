import ServiceCatalog.Yaml.Cursor

/-!
# Plain scalars

A plain scalar has no quotes, so what follows decides where it ends: a colon in front of a blank, a
blank in front of a `#`, inside brackets also a bracket or a comma, and outside of them a line that
is not indented enough.  It may go on over several lines.  A single break between two lines is read
as a space, and of more breaks all but the first are kept.

A scalar that crossed a break leaves the reader at a place where a key may start; one that did not
leaves it behind a value.  That is the flag `crossed`.
-/

namespace ServiceCatalog
namespace Yaml

/-- A bracket, a brace or a comma. -/
def isFlowMark (c : Char) : Bool := c = ',' || c = '[' || c = ']' || c = '\x7b' || c = '\x7d'

/-- The text goes on, after a colon, with something that makes the colon a mark. -/
def isAfterColon (inFlow : Bool) : List Char → Bool
  | [] => true
  | c :: _ => isGap c || isBreak c || (inFlow && isFlowMark c)

/-- The part of a plain scalar at the start of a line's rest. -/
def plainRun (inFlow : Bool) : List Char → List Char
  | [] => []
  | c :: cs =>
    if isGap c || isBreak c || (c = ':' && isAfterColon inFlow cs) ||
        (inFlow && (isFlowMark c || c = '?')) then []
    else c :: plainRun inFlow cs

/-- The breaks and spaces behind the first break inside a plain scalar: the breaks that are kept,
and the place behind them.  A mark between documents ends the scalar. -/
def plainBreaks (c : Cursor) : Option (List Char) × Cursor :=
  if isDocumentMark c.rest then (none, c)
  else
    let d := c.skipSpaces
    match _h : d.lineBreak? with
    | none => (some [], d)
    | some (b, e) =>
      let (bs, f) := plainBreaks e
      (bs.map (b :: ·), f)
termination_by c.rest.length
decreasing_by
  have h := Cursor.length_rest_of_lineBreak? _h
  have hd : d.rest.length ≤ c.rest.length := by
    simp only [d, Cursor.skipSpaces, Cursor.rest_skipWhile]
    exact (List.dropWhile_suffix _).length_le
  omega

/-- What stands between two parts of a plain scalar, if anything does; whether it holds a break; and
the place behind it. -/
def plainSpaces (c : Cursor) : Option (List Char) × Bool × Cursor :=
  let (spaces, d) := c.span (· = ' ')
  match d.lineBreak? with
  | none => (if spaces.isEmpty then none else some spaces, false, d)
  | some (b, e) =>
    let (breaks, f) := plainBreaks e
    (breaks.map fun bs => if b ≠ '\n' then b :: bs else if bs.isEmpty then [' '] else bs, true, f)

/-- The parts of a plain scalar from some place on.  The text that was left at its start bounds
their number, since every part takes a character of it. -/
def plainParts (inFlow : Bool) (indent : Int) :
    (bound : List Char) → Cursor → List Char × Bool × Cursor
  | [], c => ([], false, c)
  | _ :: bound, c =>
    let run := plainRun inFlow c.rest
    let (spaces, crossed, d) := plainSpaces (c.skip run.length)
    match spaces with
    | none => (run, crossed, d)
    | some between =>
      if d.rest.head? = some '#' || (!inFlow && d.column < indent) ||
          (plainRun inFlow d.rest).isEmpty then (run, crossed, d)
      else
        let (others, crossed', e) := plainParts inFlow indent bound d
        (run ++ between ++ others, crossed', e)

/-- The plain scalar at a place, whether it crossed a break at its end, and the place behind it. -/
def plainScalar (inFlow : Bool) (indent : Int) (c : Cursor) : List Char × Bool × Cursor :=
  plainParts inFlow indent c.rest c

end Yaml
end ServiceCatalog
