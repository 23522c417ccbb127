import ServiceCatalog.Json.Basic
import ServiceCatalog.Number.Limit
import ServiceCatalog.Text.Hex
import ServiceCatalog.Text.Units

/-!
# Reading JSON text

A recursive descent over the characters of a text.  Every function returns what it has read and the
characters left, and an error carries the characters left where it was found; only at the very end
is that turned into an offset, a line and a column (`Fault.at`).

## What is accepted

JSON, and three names for the numbers that JSON lacks: `NaN`, `Infinity` and `-Infinity`.  A
repeated key keeps its first place and takes its last value.  A number with a fraction or an
exponent is rounded to the nearest double, and any other number is an integer.  An integer beyond
the limit is not read, although there is nothing wrong with the text (`Stop.overlong`).

## Why the fuel never runs out

A value inside a value starts at least one character later, so twice as many steps as there are
characters are enough; `parse` starts with more.
-/

namespace ServiceCatalog
namespace Json

/-- What is wrong with a text that is not JSON. -/
inductive Fault.Cause where
  | value
  | propertyName
  | colon
  | comma
  | extraData
  | unterminated
  | controlCharacter
  | badEscape
  | badUnicodeEscape
  | byteOrderMark
  deriving DecidableEq

/-- The words for a cause. -/
def Fault.Cause.message : Fault.Cause → String
  | .value => "Expecting value"
  | .propertyName => "Expecting property name enclosed in double quotes"
  | .colon => "Expecting ':' delimiter"
  | .comma => "Expecting ',' delimiter"
  | .extraData => "Extra data"
  | .unterminated => "Unterminated string starting at"
  | .controlCharacter => "Invalid control character at"
  | .badEscape => "Invalid \\escape"
  | .badUnicodeEscape => "Invalid \\uXXXX escape"
  | .byteOrderMark => "Unexpected UTF-8 BOM (decode using utf-8-sig)"

/-- A cause and the characters left where it was found. -/
structure Fault where
  cause : Fault.Cause
  left : List Char

/-- Why the reading of a text stops. -/
inductive Stop where
  | fault (f : Fault)
  /-- An integer in the text is too long. -/
  | overlong (cause : Overlong)

/-- What a part of the text was read as, and the characters behind it. -/
abbrev Reading (α : Type) : Type := Except Stop (α × List Char)

/-- A fault at the start of some characters. -/
def fault {α : Type} (cause : Fault.Cause) (left : List Char) : Reading α :=
  .error (.fault ⟨cause, left⟩)

/-- The four blanks of JSON. -/
def isBlank (c : Char) : Bool := c = ' ' || c = '\t' || c = '\n' || c = '\r'

/-- The characters behind the blanks at the start. -/
def skipBlanks (cs : List Char) : List Char := cs.dropWhile isBlank

/-! ## Strings -/

/-- The character of a one-letter escape. -/
def simpleEscape? : Char → Option Char
  | '"' => some '"'
  | '\\' => some '\\'
  | '/' => some '/'
  | 'b' => some '\x08'
  | 'f' => some '\x0c'
  | 'n' => some '\n'
  | 'r' => some '\r'
  | 't' => some '\t'
  | _ => none

/-- Puts a code unit in front of those that have been read. -/
def pushUnit (n : Nat) (r : Reading (List Nat)) : Reading (List Nat) :=
  r.map fun p => (n :: p.1, p.2)

/-- The code units of a string up to its closing quote.  The first argument is the text from the
opening quote on, where a string without an end is reported.  The digits of an escape have to be
followed by something. -/
def units (opened : List Char) : List Char → Reading (List Nat)
  | [] => fault .unterminated opened
  | '"' :: cs => .ok ([], cs)
  | ['\\'] => fault .unterminated opened
  | '\\' :: 'u' :: a :: b :: c :: d :: cs =>
    match Text.hexValue? [a, b, c, d], cs with
    | some n, _ :: _ => pushUnit n (units opened cs)
    | _, _ => fault .badUnicodeEscape ('u' :: a :: b :: c :: d :: cs)
  | '\\' :: 'u' :: cs => fault .badUnicodeEscape ('u' :: cs)
  | '\\' :: c :: cs =>
    match simpleEscape? c with
    | some d => pushUnit d.toNat (units opened cs)
    | none => fault .badEscape ('\\' :: c :: cs)
  | c :: cs =>
    if c.toNat < 0x20 then fault .controlCharacter (c :: cs) else pushUnit c.toNat (units opened cs)

/-- The text of a string up to its closing quote. -/
def string (opened cs : List Char) : Reading String :=
  (units opened cs).map fun p => (String.ofList (Text.charsOfUnits p.1), p.2)

/-! ## Numbers -/

/-- The number that a list of ASCII digits writes. -/
def digitsValue (ds : List Char) : Nat := ds.foldl (fun n d => 10 * n + (d.toNat - 48)) 0

/-- The digits before the point: a single zero, or digits that do not start with one. -/
def wholePart? : List Char → Option (List Char × List Char)
  | '0' :: cs => some (['0'], cs)
  | c :: cs =>
    if c.isDigit then some ((c :: cs).takeWhile Char.isDigit, (c :: cs).dropWhile Char.isDigit)
    else none
  | [] => none

/-- The digits behind a point, if a point with a digit behind it follows. -/
def fraction? : List Char → Option (List Char × List Char)
  | '.' :: c :: cs =>
    if c.isDigit then some ((c :: cs).takeWhile Char.isDigit, (c :: cs).dropWhile Char.isDigit)
    else none
  | _ => none

/-- The digits of an exponent, with a sign in front of them. -/
def signedDigits? : List Char → Option (Int × List Char)
  | '-' :: c :: cs =>
    if c.isDigit then
      some (-(digitsValue ((c :: cs).takeWhile Char.isDigit) : Int),
        (c :: cs).dropWhile Char.isDigit)
    else none
  | '+' :: c :: cs =>
    if c.isDigit then
      some ((digitsValue ((c :: cs).takeWhile Char.isDigit) : Int),
        (c :: cs).dropWhile Char.isDigit)
    else none
  | c :: cs =>
    if c.isDigit then
      some ((digitsValue ((c :: cs).takeWhile Char.isDigit) : Int),
        (c :: cs).dropWhile Char.isDigit)
    else none
  | [] => none

/-- An exponent, if one follows. -/
def exponent? : List Char → Option (Int × List Char)
  | 'e' :: cs => signedDigits? cs
  | 'E' :: cs => signedDigits? cs
  | _ => none

/-- A number without its sign. -/
def magnitude? (negative : Bool) (cs : List Char) : Option (Json × List Char) :=
  (wholePart? cs).map fun (whole, cs) =>
    let (places, cs') := (fraction? cs).getD ([], cs)
    match exponent? cs' with
    | some (e, cs'') =>
      (.float (.ofDecimal negative (digitsValue (whole ++ places)) (e - places.length)), cs'')
    | none =>
      if places.isEmpty then
        (.int (if negative then -(digitsValue whole : Int) else digitsValue whole), cs)
      else (.float (.ofDecimal negative (digitsValue (whole ++ places)) (-places.length)), cs')

/-- A number. -/
def number? : List Char → Option (Json × List Char)
  | '-' :: cs => magnitude? true cs
  | cs => magnitude? false cs

/-- A value that has been read, unless it is an integer beyond the limit.  An integer is written
without zeros at the front, so it has as many digits as the text. -/
def withinLimit (p : Json × List Char) : Reading Json :=
  match p.1 with
  | .int n =>
    if isShortInt n then .ok p
    else .error (.overlong (.read (Nat.toDigits 10 n.natAbs).length))
  | _ => .ok p

/-! ## Values -/

/-- A value that is a name. -/
def name? : List Char → Option (Json × List Char)
  | 'n' :: 'u' :: 'l' :: 'l' :: cs => some (.null, cs)
  | 't' :: 'r' :: 'u' :: 'e' :: cs => some (.bool true, cs)
  | 'f' :: 'a' :: 'l' :: 's' :: 'e' :: cs => some (.bool false, cs)
  | 'N' :: 'a' :: 'N' :: cs => some (.float .nan, cs)
  | 'I' :: 'n' :: 'f' :: 'i' :: 'n' :: 'i' :: 't' :: 'y' :: cs =>
    some (.float (.infinite false), cs)
  | '-' :: 'I' :: 'n' :: 'f' :: 'i' :: 'n' :: 'i' :: 't' :: 'y' :: cs =>
    some (.float (.infinite true), cs)
  | _ => none

mutual

/-- A value at the start of the text. -/
def value : (fuel : Nat) → List Char → Reading Json
  | 0, cs => fault .value cs
  | fuel + 1, cs =>
    match cs with
    | '"' :: ds => (string cs ds).map fun p => (.text p.1, p.2)
    | '[' :: ds =>
      match skipBlanks ds with
      | ']' :: es => .ok (.array [], es)
      | es => (items fuel es).map fun p => (.array p.1, p.2)
    | '{' :: ds =>
      match skipBlanks ds with
      | '}' :: es => .ok (.object [], es)
      | es => (members fuel es).map fun p => (.object (distinct p.1), p.2)
    | ds =>
      match (name? ds).or (number? ds) with
      | some p => withinLimit p
      | none => fault .value ds

/-- The items of an array up to its end, of which there is at least one. -/
def items : (fuel : Nat) → List Char → Reading (List Json)
  | 0, cs => fault .value cs
  | fuel + 1, cs =>
    (value fuel cs).bind fun p =>
      match skipBlanks p.2 with
      | ']' :: ds => .ok ([p.1], ds)
      | ',' :: ds => (items fuel (skipBlanks ds)).map fun q => (p.1 :: q.1, q.2)
      | ds => fault .comma ds

/-- The members of an object up to its end, of which there is at least one. -/
def members : (fuel : Nat) → List Char → Reading (List (String × Json))
  | 0, cs => fault .propertyName cs
  | fuel + 1, cs =>
    match cs with
    | '"' :: ds =>
      (string cs ds).bind fun k =>
        match skipBlanks k.2 with
        | ':' :: es =>
          (value fuel (skipBlanks es)).bind fun p =>
            match skipBlanks p.2 with
            | '}' :: fs => .ok ([(k.1, p.1)], fs)
            | ',' :: fs =>
              (members fuel (skipBlanks fs)).map fun q => ((k.1, p.1) :: q.1, q.2)
            | fs => fault .comma fs
        | es => fault .colon es
    | ds => fault .propertyName ds

end

/-! ## Whole texts -/

/-- An error in a text, with its place. -/
structure SyntaxError where
  cause : Fault.Cause
  offset : Nat
  line : Nat
  column : Nat
  deriving DecidableEq

/-- What is said about an error in a text. -/
def SyntaxError.message (e : SyntaxError) : String :=
  let cause := e.cause.message
  let line := e.line
  let column := e.column
  let offset := e.offset
  s!"{cause}: line {line} column {column} (char {offset})"

/-- The place of a fault in its text: lines and columns count from one. -/
def Fault.at (text : List Char) (f : Fault) : SyntaxError :=
  let consumed := Text.points (text.take (text.length - f.left.length))
  { cause := f.cause
    offset := consumed.length
    line := consumed.count '\n'.toNat + 1
    column := (consumed.reverse.takeWhile (· ≠ '\n'.toNat)).length + 1 }

/-- The value that a whole text is, with blanks around it. -/
def read (cs : List Char) : Except Stop Json :=
  match cs with
  | '\uFEFF' :: _ => .error (.fault ⟨.byteOrderMark, cs⟩)
  | _ =>
    (value (2 * cs.length + 2) (skipBlanks cs)).bind fun p =>
      match skipBlanks p.2 with
      | [] => .ok p.1
      | left => .error (.fault ⟨.extraData, left⟩)

/-- Why a text is not read. -/
inductive ParseError where
  | malformed (cause : SyntaxError)
  /-- An integer in the text is too long. -/
  | overlong (cause : Overlong)
  deriving DecidableEq

/-- The value that a whole text is. -/
def parse (text : String) : Except ParseError Json :=
  match read text.toList with
  | .ok j => .ok j
  | .error (.fault f) => .error (.malformed (f.at text.toList))
  | .error (.overlong cause) => .error (.overlong cause)

end Json
end ServiceCatalog
