import ServiceCatalog.Text.Halves
import ServiceCatalog.Yaml.Cursor
import ServiceCatalog.Yaml.Fault

/-!
# Quoted scalars

Between single quotes a doubled quote stands for one, and nothing else has a meaning.  Between
double quotes a backslash starts an escape, and one at the end of a line joins the line to the next.

In both styles a line may be broken: blanks around the break are dropped, a single break is read as
a space, and of more breaks all but the first are kept.  A line inside a quoted scalar may not be a
mark between documents.

An escape names a code point, which may be half of a pair of code units.  Two halves are not joined
here, although they are in JSON.
-/

namespace ServiceCatalog
namespace Yaml

/-- The two kinds of quotes. -/
inductive QuoteStyle where
  | single
  | double
  deriving DecidableEq, Repr

/-- The character of a quote. -/
def QuoteStyle.mark : QuoteStyle → Char
  | .single => '\''
  | .double => '"'

/-- The character that a one-letter escape stands for. -/
def namedEscape? : Char → Option Char
  | '0' => some '\x00'
  | 'a' => some '\x07'
  | 'b' => some '\x08'
  | 't' => some '\t'
  | '\t' => some '\t'
  | 'n' => some '\n'
  | 'v' => some '\x0b'
  | 'f' => some '\x0c'
  | 'r' => some '\r'
  | 'e' => some '\x1b'
  | ' ' => some ' '
  | '"' => some '"'
  | '\\' => some '\\'
  | '/' => some '/'
  | 'N' => some '\x85'
  | '_' => some '\xa0'
  | 'L' => some '\u2028'
  | 'P' => some '\u2029'
  | _ => none

/-- The number of digits of an escape that names a code point. -/
def escapeWidth? : Char → Option Nat
  | 'x' => some 2
  | 'u' => some 4
  | 'U' => some 8
  | _ => none

/-- The code point that an escape of some width names, as it is spelled. -/
def escapedPoint (width : Nat) (cs : List Char) : Except Fault (List Char) :=
  if cs.length < width then malformed .escape
  else
    match Text.hexValue? (cs.take width) with
    | none => malformed .escape
    | some n =>
      if n < 0x110000 then .ok (Text.spell n)
      else unsuitable (if n < 0x80000000 then .codePoint else .wideCodePoint)

/-- The breaks behind the first break inside a quoted scalar, and the place behind them.  Blanks at
the start of a line are dropped. -/
def quotedBreaks (c : Cursor) : Except Fault (List Char × Cursor) :=
  if isDocumentMark c.rest then malformed .unclosedQuote
  else
    let d := c.skipWhile isGap
    match _h : d.lineBreak? with
    | none => .ok ([], d)
    | some (b, e) => (quotedBreaks e).map fun p => (b :: p.1, p.2)
termination_by c.rest.length
decreasing_by
  have h := Cursor.length_rest_of_lineBreak? _h
  have hd : d.rest.length ≤ c.rest.length := by
    simp only [d, Cursor.rest_skipWhile]
    exact (List.dropWhile_suffix _).length_le
  omega

/-- A break inside a quoted scalar as it is read, given the break and those behind it. -/
def foldedBreak (b : Char) (breaks : List Char) : List Char :=
  if b ≠ '\n' then b :: breaks else if breaks.isEmpty then [' '] else breaks

/-- The contents of a quoted scalar up to its closing quote.  The text that was left at its start
bounds the number of steps, since every step reads a character of it. -/
def quotedContents (style : QuoteStyle) :
    (bound : List Char) → Cursor → Except Fault (List Char × Cursor)
  | [], _ => malformed .unclosedQuote
  | _ :: bound, c =>
    let goOn (front : List Char) (d : Cursor) : Except Fault (List Char × Cursor) :=
      (quotedContents style bound d).map fun p => (front ++ p.1, p.2)
    match c.rest with
    | [] => malformed .unclosedQuote
    | ch :: cs =>
      if isGap ch || isBreak ch then
        let (gap, d) := c.span isGap
        match d.lineBreak? with
        | none =>
          if d.rest.isEmpty then malformed .unclosedQuote else goOn gap d
        | some (b, e) => (quotedBreaks e).bind fun p => goOn (foldedBreak b p.1) p.2
      else if style = .single && ch = '\'' && cs.head? = some '\'' then goOn [ch] (c.skip 2)
      else if ch = style.mark then .ok ([], c.advance)
      else if style = .double && ch = '\\' then
        match cs with
        | [] => malformed .escape
        | e :: es =>
          match namedEscape? e, escapeWidth? e with
          | some named, _ => goOn [named] (c.skip 2)
          | none, some width =>
            (escapedPoint width es).bind fun cs => goOn cs (c.skip (2 + width))
          | none, none =>
            match c.advance.lineBreak? with
            | some (_, d) => (quotedBreaks d).bind fun p => goOn p.1 p.2
            | none => malformed .escape
      else goOn [ch] c.advance

/-- The quoted scalar at a place, and the place behind it. -/
def quotedScalar (style : QuoteStyle) (c : Cursor) : Except Fault (List Char × Cursor) :=
  quotedContents style c.rest c.advance

end Yaml
end ServiceCatalog
