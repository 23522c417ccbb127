import ServiceCatalog.Yaml.Cursor
import ServiceCatalog.Yaml.Fault

/-!
# Block scalars

A block scalar is a paragraph of indented lines behind `|` or `>`.  The header may say how far the
lines are indented, as a digit relative to the surrounding block, and otherwise the blank lines and
the first line of the content decide.  It may also say what becomes of the breaks at the end: `-`
drops them all, `+` keeps them all, and without either one the last line keeps its own.

A literal block keeps its lines as they are.  A folded one joins two lines by a space, unless one of
them starts with a blank; of more breaks between them all but the first are kept.
-/

namespace ServiceCatalog
namespace Yaml

/-- What becomes of the breaks at the end of a block scalar. -/
inductive Chomping where
  | strip
  | clip
  | keep
  deriving DecidableEq, Repr

/-- The header of a block scalar. -/
structure BlockHeader where
  chomping : Chomping := .clip
  /-- The indentation relative to the surrounding block. -/
  increment : Option Nat := none

/-- A sign that says what becomes of the breaks at the end. -/
def chomping? : Char → Option Chomping
  | '+' => some .keep
  | '-' => some .strip
  | _ => none

/-- A digit that says how far the lines are indented; zero is none. -/
def increment? (c : Char) : Option Nat :=
  if '1' ≤ c ∧ c ≤ '9' then some (c.toNat - 48) else none

/-- The header at the start of some characters, and the number of characters it takes.  A sign and a
digit may stand in any order. -/
def BlockHeader.ofChars : List Char → BlockHeader × Nat
  | [] => ({}, 0)
  | a :: cs =>
    match chomping? a, increment? a, cs with
    | some h, _, b :: _ =>
      match increment? b with
      | some n => ({ chomping := h, increment := some n }, 2)
      | none => ({ chomping := h }, 1)
    | some h, _, [] => ({ chomping := h }, 1)
    | none, some n, b :: _ =>
      match chomping? b with
      | some h => ({ chomping := h, increment := some n }, 2)
      | none => ({ increment := some n }, 1)
    | none, some n, [] => ({ increment := some n }, 1)
    | none, none, _ => ({}, 0)

/-- The place behind a line that may hold spaces and a comment only. -/
def endOfLine (c : Cursor) (cause : Malformed) : Except Fault Cursor :=
  let d := c.skipSpaces
  let e := if d.rest.head? = some '#' then d.skipLine else d
  match e.lineBreak? with
  | some (_, f) => .ok f
  | none => if e.rest.isEmpty then .ok e else malformed cause

/-- The blank lines in front of a block scalar without a digit: their breaks, the widest indentation
in them and of the first line behind them, and the place there. -/
def openingBreaks (widest : Nat) (c : Cursor) : List Char × Nat × Cursor :=
  let d := c.skipSpaces
  match _h : d.lineBreak? with
  | none => ([], max widest d.column, d)
  | some (b, e) =>
    let (bs, w, f) := openingBreaks (max widest d.column) e
    (b :: bs, w, f)
termination_by c.rest.length
decreasing_by
  have h := Cursor.length_rest_of_lineBreak? _h
  have hd : d.rest.length ≤ c.rest.length := by
    simp only [d, Cursor.skipSpaces, Cursor.rest_skipWhile]
    exact (List.dropWhile_suffix _).length_le
  omega

/-- The blank lines between two lines of a block scalar: their breaks, and the place behind them.
More spaces than the indentation are part of the content. -/
def blankLines (indent : Nat) (c : Cursor) : List Char × Cursor :=
  let d := c.skipIndentation indent
  match _h : d.lineBreak? with
  | none => ([], d)
  | some (b, e) =>
    let (bs, f) := blankLines indent e
    (b :: bs, f)
termination_by c.rest.length
decreasing_by
  have h := Cursor.length_rest_of_lineBreak? _h
  have hd : d.rest.length ≤ c.rest.length := by
    simp only [d, Cursor.skipIndentation, Cursor.rest_skip]
    simp
  omega

/-- The text goes on with a space or a tab. -/
def startsBlank (cs : List Char) : Bool := cs.head?.any isGap

/-- The breaks at the end of a block scalar: the one of its last line, and those of blank lines. -/
def trailing (chomping : Chomping) (last : List Char) (blank : List Char) : List Char :=
  match chomping with
  | .strip => []
  | .clip => last
  | .keep => last ++ blank

/-- The lines of a block scalar from some place on, which is at its indentation.  The text that
was left at the first one bounds their number, since every line takes a character of it. -/
def blockLines (folded : Bool) (chomping : Chomping) (indent : Nat) :
    (bound : List Char) → Cursor → List Char × Cursor
  | [], c => ([], c)
  | _ :: bound, c =>
    let (line, d) := c.span fun ch => !isBreak ch
    let (last, e) : List Char × Cursor := match d.lineBreak? with
      | some (b, e) => ([b], e)
      | none => ([], d)
    let (blank, f) := blankLines indent e
    if f.column = indent && !f.rest.isEmpty then
      let between : List Char :=
        if folded && last = ['\n'] && !startsBlank c.rest && !startsBlank f.rest then
          if blank.isEmpty then [' '] else []
        else last
      let (others, g) := blockLines folded chomping indent bound f
      (line ++ between ++ blank ++ others, g)
    else (line ++ trailing chomping last blank, f)

/-- The block scalar at a place inside a block of some indentation, and the place behind it. -/
def blockScalar (folded : Bool) (parent : Int) (c : Cursor) :
    Except Fault (List Char × Cursor) := do
  let (header, width) := BlockHeader.ofChars (c.advance).rest
  let d := c.skip (1 + width)
  if !atSpaceOrEnd d.rest then malformed .blockHeader
  else
    let e ← endOfLine d .blockHeader
    let least := (max (parent + 1) 1).toNat
    let (blank, indent, f) : List Char × Nat × Cursor := match header.increment with
      | some n =>
        let indent := least + n - 1
        let (bs, f) := blankLines indent e
        (bs, indent, f)
      | none =>
        let (bs, widest, f) := openingBreaks 0 e
        (bs, max least widest, f)
    if f.column = indent && !f.rest.isEmpty then
      let (text, g) := blockLines folded header.chomping indent f.rest f
      return (blank ++ text, g)
    else return (trailing header.chomping [] blank, f)

end Yaml
end ServiceCatalog
