import ServiceCatalog.Charset.Name
import ServiceCatalog.Text.Blank
import ServiceCatalog.Text.Casing
import ServiceCatalog.Text.Digit
import ServiceCatalog.Text.Hex
import ServiceCatalog.Text.Pieces

/-!
# Content types

A content type is a name with parameters behind it, between semicolons; one of them may name the
character set of the body.  A value may stand between quotation marks, inside of which a semicolon
separates nothing, or between angle brackets.

A parameter may also come in parts.  Their names end in an asterisk and a number, and the value is
put together in the order of the numbers.  A further asterisk says that percent signs in the part
stand for bytes; then the value begins with a character set and a language, each with an apostrophe
behind it, and the set says what the bytes mean.
-/

namespace ServiceCatalog
namespace ContentType

/-- Cuts a text at its semicolons, but not between quotation marks; a quotation mark behind a
backslash is an ordinary character. -/
def fields (isQuoted : Bool) (before : Option Char) : List Char → List Char × List (List Char)
  | [] => ([], [])
  | c :: cs =>
    if c = ';' && !isQuoted then
      let later := fields false none cs
      ([], later.1 :: later.2)
    else
      let toggles := c = '"' && before ≠ some '\\'
      let later := fields (isQuoted != toggles) (some c) cs
      (c :: later.1, later.2)

/-- A parameter: its name, and its value as it is written. -/
def parameter (field : List Char) : List Char × List Char :=
  match Text.pieces (· == '=') field with
  | (_, []) => (Text.trim field, [])
  | (name, _) =>
    (Text.lower (Text.trim name), Text.trim (field.drop (name.length + 1)))

/-- The parameters of a content type.  Its name counts as the first one. -/
def parameters (contentType : String) : List (List Char × List Char) :=
  let found := fields false none contentType.toList
  (found.1 :: found.2).map fun f => parameter (Text.trim f)

/-- A text in which two characters stand for the second one of them. -/
def undoubled (escaped : Char) : List Char → List Char
  | '\\' :: c :: cs =>
    if c = escaped then escaped :: undoubled escaped cs else '\\' :: undoubled escaped (c :: cs)
  | c :: cs => c :: undoubled escaped cs
  | [] => []

/-- A value without the marks around it. -/
def unquoted (value : List Char) : List Char :=
  match value, value.getLast? with
  | '"' :: c :: cs, some '"' => undoubled '"' (undoubled '\\' (c :: cs).dropLast)
  | '<' :: c :: cs, some '>' => (c :: cs).dropLast
  | _, _ => value

/-- A part of a parameter. -/
structure Part where
  number : Option Nat
  value : List Char
  /-- Percent signs stand for bytes. -/
  isEncoded : Bool

/-- A character of the name of a parameter that comes in parts. -/
def isWordChar (c : Char) : Bool := c.isAlphanum || c = '_'

/-- The part that a name and a value are, with the name of the whole parameter. -/
def part? (name value : List Char) : Option (List Char × Part) :=
  let word := name.takeWhile isWordChar
  let encoded := name.getLast? = some '*'
  match word, name.drop word.length with
  | [], _ => none
  | _, ['*'] => some (word, ⟨none, unquoted value, encoded⟩)
  | _, '*' :: rest =>
    let digits := rest.takeWhile Char.isDigit
    let behind := rest.drop digits.length
    if digits ≠ [] ∧ (behind = [] ∨ behind = ['*']) then
      some (word, ⟨Text.natural? digits, unquoted value, encoded⟩)
    else none
  | _, _ => none

/-- A text with a character for each percent sign and the two digits behind it. -/
def percentDecoded : List Char → List Char
  | '%' :: a :: b :: cs =>
    match Text.hexValue? [a, b] with
    | some n => Char.ofNat n :: percentDecoded cs
    | none => '%' :: percentDecoded (a :: b :: cs)
  | c :: cs => c :: percentDecoded cs
  | [] => []

/-- One part stands before another or in the same place. -/
def Part.le (a b : Part) : Bool :=
  match a.number, b.number with
  | some m, some n => m < n || (m = n && textLe a b)
  | none, none => textLe a b
  | none, some _ => true
  | some _, none => false
where
  /-- The order of parts with one number. -/
  textLe (a b : Part) : Bool :=
    a.value < b.value || (a.value = b.value && (!a.isEncoded || b.isEncoded))

/-- The bytes of a text: a character beyond the first 256 is written with its number. -/
def bytes (cs : List Char) : List UInt8 :=
  cs.flatMap fun c =>
    let escape (letter : Char) (digits : Nat) : List UInt8 :=
      ('\\' :: letter :: Text.hexDigits digits c.toNat).map fun d => d.toNat.toUInt8
    if c.toNat < 0x100 then [c.toNat.toUInt8]
    else if c.toNat < 0x10000 then escape 'u' 4
    else escape 'U' 8

/-- A value behind its character set and its language. -/
def decoded (value : List Char) : List Char :=
  let (name, text) := match Text.pieces (· == '\'') value with
    | (set, language :: _ :: _) => (set, value.drop (set.length + language.length + 2))
    | _ => ([], value)
  let named := if name.isEmpty then "ascii" else String.ofList name
  match (Charset.ofName? named).bind fun c => c.whole? (bytes text) with
  | some s => s.toList
  | none => text

/-- The value that parts make up. -/
def joined (parts : List Part) : Except CharsetFault (List Char) :=
  if parts.any (fun p => p.number.isNone) && parts.any (fun p => p.number.isSome) then
    .error .mixedParts
  else
    let sorted := parts.mergeSort Part.le
    let value := sorted.flatMap fun p => if p.isEncoded then percentDecoded p.value else p.value
    .ok (if sorted.any Part.isEncoded then decoded value else value)

/-- Adds a part to the parameter with its name. -/
def addPart (name : List Char) (p : Part) :
    List (List Char × List Part) → List (List Char × List Part)
  | [] => [(name, [p])]
  | (n, ps) :: rest => if n = name then (n, ps ++ [p]) :: rest else (n, ps) :: addPart name p rest

/-- The parts of each parameter that comes in parts, in the order in which the parameters begin. -/
def gathered (parts : List (List Char × Part)) : List (List Char × List Part) :=
  parts.foldl (fun found p => addPart p.1 p.2 found) []

/-- The name of the character set of a body, in lower case. -/
def charsetName? (contentType : String) : Except CharsetFault (Option String) := do
  let found := parameters contentType
  let first := found.take 1
  let others := (found.drop 1).map fun p => (p, part? p.1 p.2)
  let whole := (first ++ (others.filter fun p => p.2.isNone).map Prod.fst).map fun p =>
    (p.1, unquoted p.2)
  let parted ← (gathered (others.filterMap Prod.snd)).mapM fun p =>
    (joined p.2).map fun value => (p.1, value)
  let isCharset (p : List Char × List Char) : Bool :=
    Text.lower p.1 = ['c', 'h', 'a', 'r', 's', 'e', 't']
  match (whole ++ parted).find? isCharset with
  | none => return none
  | some (_, value) =>
    return if value.all (fun c => c.toNat < 0x80) then some (String.ofList (Text.lower value))
      else none

/-- The character set of a body.  One that is not named, or not known, is the standard one. -/
def charset (contentType : String) : Except CharsetFault Charset := do
  match ← charsetName? contentType with
  | none => return .standard
  | some name =>
    if name.contains '\x00' then throw .zero
    return (Charset.ofName? name).getD .standard

/-- The text of a body.  Without a byte there is nothing to decode. -/
def bodyText (contentType : String) (body : List UInt8) : Except CharsetFault String := do
  let set ← charset contentType
  if body.isEmpty then return "" else set.text body

end ContentType
end ServiceCatalog
