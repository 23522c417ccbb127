import ServiceCatalog.Text.Digit
import ServiceCatalog.Text.Pieces

/-!
# Names of types and of enum members

A component is referred to by a type of its own.  Its name is cleaned: whatever stands before the
first letter, `_` or `$` is dropped, and each run of other characters that a name cannot hold
becomes one `_`.  A component named `Page[Pet]` is a generic type `Page` applied to `Pet`.
-/

namespace ServiceCatalog
namespace Naming

open Text

/-- An ASCII letter, an ASCII digit or an underscore. -/
def isWordChar (c : Char) : Bool := c.isAlphanum || c = '_'

/-- A character that the name of a type may start with. -/
def startsTypeName (c : Char) : Bool := c.isAlpha || c = '_' || c = '$'

/-- The name of a type, cleaned. -/
def cleanTypeName (cs : List Char) : List Char :=
  collapse (fun c => isWordChar c || c = '$') '_' (cs.dropWhile fun c => !startsTypeName c)

/-- The name of a type. -/
def typeName (raw : String) : String := String.ofList (cleanTypeName raw.toList)

/-- The text without one line break at its end. -/
def withoutFinalBreak (cs : List Char) : List Char :=
  match cs.reverse with
  | '\n' :: ds => ds.reverse
  | _ => cs

/-- The two names of a generic `Outer[Inner]` on a single line: what stands before the first opening
bracket, and what stands between it and the closing bracket at the end. -/
def generic? (cs : List Char) : Option (List Char × List Char) :=
  let line := withoutFinalBreak cs
  if line.contains '\n' then none
  else match line.dropWhile (· ≠ '[') with
    | [] => none
    | _ :: inner =>
      match inner.reverse with
      | ']' :: reversed => some (line.takeWhile (· ≠ '['), reversed.reverse)
      | _ => none

/-! ## Members of enums -/

/-- Puts an underscore in front of a text that starts with a digit. -/
def guardDigit : List Char → List Char
  | [] => []
  | c :: cs => if isDigit c then '_' :: c :: cs else c :: cs

/-- Puts an underscore between a small letter and a capital, given the character before. -/
def markCapitalsAfter (a : Char) : List Char → List Char
  | [] => []
  | b :: cs =>
    if a.isLower && b.isUpper then '_' :: b :: markCapitalsAfter b cs
    else b :: markCapitalsAfter b cs

/-- Puts an underscore between a small letter and a capital. -/
def markCapitals : List Char → List Char
  | [] => []
  | a :: cs => a :: markCapitalsAfter a cs

/-- The name of the enum member for a text: words in capitals, joined by underscores. -/
def enumMemberName (cs : List Char) : List Char :=
  (markCapitals (guardDigit (collapse isWordChar '_' cs))).map Char.toUpper

/-- The name of the enum member for a written number. -/
def enumNumberName (cs : List Char) : List Char :=
  '_' :: cs.flatMap fun c =>
    if c = '-' then "MINUS_".toList else if c = '.' then ['_'] else [c]

/-- A text as a literal between apostrophes; an apostrophe in it is escaped. -/
def enumTextLiteral (cs : List Char) : List Char :=
  '\'' :: cs.flatMap (fun c => if c = '\'' then ['\\', '\''] else [c]) ++ ['\'']

end Naming
end ServiceCatalog
