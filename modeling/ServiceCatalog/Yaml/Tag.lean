import ServiceCatalog.Text.Hex
import ServiceCatalog.Text.Pieces
import ServiceCatalog.Yaml.Fault
import ServiceCatalog.Yaml.Timestamp

/-!
# Tags

The tag of a node says what kind of value it is.  A scalar without a written tag is a text if it is
quoted, and otherwise its text decides (`Tag.ofPlain`): whether it looks like nothing, a truth
value, a number, a date, a merge key, or none of these.

The forms are those of the first version of the language: truth values may be `yes` and `off`, a
leading zero means base eight, a colon base sixty, and a number has a fraction only with a point,
and an exponent only with a fraction and a sign.  One line feed at the end of a text, which a plain
scalar never has, makes no difference to its form.
-/

namespace ServiceCatalog
namespace Yaml

/-- The kinds of values that a document may be made of. -/
inductive Tag where
  | null
  | bool
  | int
  | float
  | binary
  /-- A date, or a moment. -/
  | date
  | text
  | sequence
  | mapping
  /-- The keys of a mapping. -/
  | set
  /-- A list of pairs with different keys; that they differ is not looked at. -/
  | orderedMapping
  | pairs
  /-- The key of what is merged into a mapping. -/
  | merge
  /-- The key of the value that stands for a whole mapping. -/
  | default
  | other (name : String)
  deriving DecidableEq

namespace Tag

/-- Where the names of tags start. -/
def home : String := "tag:yaml.org,2002:"

/-- The name of a tag in its home. -/
def localName : Tag → String
  | .null => "null"
  | .bool => "bool"
  | .int => "int"
  | .float => "float"
  | .binary => "binary"
  | .date => "timestamp"
  | .text => "str"
  | .sequence => "seq"
  | .mapping => "map"
  | .set => "set"
  | .orderedMapping => "omap"
  | .pairs => "pairs"
  | .merge => "merge"
  | .default => "value"
  | .other name => name

/-- The tags that have a meaning. -/
def known : List Tag :=
  [.null, .bool, .int, .float, .binary, .date, .text, .sequence, .mapping, .set, .orderedMapping,
   .pairs, .merge, .default]

/-- The full name of a tag. -/
def fullName : Tag → String
  | .other name => name
  | t => home ++ t.localName

/-- The tag with a full name. -/
def ofName (name : String) : Tag :=
  (known.find? fun t => t.fullName = name).getD (.other name)

/-! ## The forms of plain scalars -/

/-- The texts that are nothing. -/
def nulls : List String := ["", "~", "null", "Null", "NULL"]

/-- The texts that are true. -/
def truths : List String := ["yes", "Yes", "YES", "true", "True", "TRUE", "on", "On", "ON"]

/-- The texts that are false. -/
def falsehoods : List String := ["no", "No", "NO", "false", "False", "FALSE", "off", "Off", "OFF"]

/-- The text without a sign at its start. -/
def withoutSign : List Char → List Char
  | '-' :: cs => cs
  | '+' :: cs => cs
  | cs => cs

/-- A digit or an underscore. -/
def isDigitOrGap (c : Char) : Bool := c.isDigit || c = '_'

/-- A part of a number in base sixty: one digit, or two of which the first is at most five. -/
def isSixtieth : List Char → Bool
  | [a] => a.isDigit
  | [a, b] => '0' ≤ a && a ≤ '5' && b.isDigit
  | _ => false

/-- The text is an integer. -/
def isInt (cs : List Char) : Bool :=
  match withoutSign cs with
  | ['0'] => true
  | '0' :: 'b' :: ds => !ds.isEmpty && ds.all fun c => c = '0' || c = '1' || c = '_'
  | '0' :: 'x' :: ds => !ds.isEmpty && ds.all fun c => (Text.hexDigitValue? c).isSome || c = '_'
  | '0' :: ds => !ds.isEmpty && ds.all fun c => ('0' ≤ c && c ≤ '7') || c = '_'
  | d :: ds =>
    match Text.pieces (· == ':') ds with
    | (ones, parts) => d.isDigit && ones.all isDigitOrGap && parts.all isSixtieth
  | [] => false

/-- An exponent: a letter, a sign and digits. -/
def isExponent : List Char → Bool
  | e :: sign :: d :: ds =>
    (e = 'e' || e = 'E') && (sign = '-' || sign = '+') && (d :: ds).all Char.isDigit
  | _ => false

/-- Digits and underscores behind a point, and an exponent or nothing behind them. -/
def isFraction (cs : List Char) : Bool :=
  match cs.dropWhile isDigitOrGap with
  | [] => true
  | e => isExponent e

/-- The text is a number with a point.  In base sixty it is the last part that has the
point, and there is no exponent. -/
def isFloat (cs : List Char) : Bool :=
  if (String.ofList (withoutSign cs)) ∈ [".inf", ".Inf", ".INF"] then true
  else if String.ofList cs ∈ [".nan", ".NaN", ".NAN"] then true
  else match cs with
    | '.' :: d :: ds => d.isDigit && isFraction ds
    | _ =>
      match withoutSign cs with
      | d :: ds =>
        match Text.pieces (· == '.') ds with
        | (whole, [_]) =>
          let places := ds.drop (whole.length + 1)
          match Text.pieces (· == ':') whole with
          | (ones, []) => d.isDigit && ones.all isDigitOrGap && isFraction places
          | (ones, parts) =>
            d.isDigit && ones.all isDigitOrGap && parts.all isSixtieth && places.all isDigitOrGap
        | _ => false
      | [] => false

/-- A text that is one of the marks of an anchor, an alias or a tag. -/
def isMark (cs : List Char) : Bool := cs = ['!'] || cs = ['&'] || cs = ['*']

/-- The tag of a text that ends without a line feed. -/
def ofLine (cs : List Char) : Tag :=
  let s := String.ofList cs
  if truths.contains s || falsehoods.contains s then .bool
  else if isFloat cs then .float
  else if isInt cs then .int
  else if s = "<<" then .merge
  else if nulls.contains s then .null
  else if WrittenTime.isEvident cs then .date
  else if s = "=" then .default
  else if isMark cs then .other (home ++ "yaml")
  else .text

/-- The tag of a plain scalar. -/
def ofPlain (cs : List Char) : Tag :=
  match cs.reverse with
  | ['\n'] => .text
  | '\n' :: line => ofLine line.reverse
  | _ => ofLine cs

end Tag
end Yaml
end ServiceCatalog
