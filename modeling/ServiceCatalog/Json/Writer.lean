import ServiceCatalog.Document.Literal
import ServiceCatalog.Json.Basic
import ServiceCatalog.Text.Hex

/-!
# Writing JSON text

JSON text is written with every item and every member on a line of its own, indented by two spaces
per level; an empty array or object stays on its line.  Characters beyond ASCII are written as they
are.  Doubles use their shortest form, and the three numbers that JSON lacks are written by the
names that `ServiceCatalog.Json.Reader` accepts.  Only values without overlong integers are written
(`isShort`).
-/

namespace ServiceCatalog
namespace Json

/-- Doubles in JSON text. -/
def doubleLayout : Double.Layout := { nanName := "NaN", infinityName := "Infinity" }

/-- A character inside a string. -/
def escapeChar (c : Char) : List Char :=
  if c = '"' then ['\\', '"']
  else if c = '\\' then ['\\', '\\']
  else if c = '\n' then ['\\', 'n']
  else if c = '\r' then ['\\', 'r']
  else if c = '\t' then ['\\', 't']
  else if c = '\x08' then ['\\', 'b']
  else if c = '\x0c' then ['\\', 'f']
  else if c.toNat < 0x20 then '\\' :: 'u' :: Text.hexDigits 4 c.toNat
  else [c]

/-- A text between quotes. -/
def writeText (s : String) : List Char := '"' :: s.toList.flatMap escapeChar ++ ['"']

/-- A new line, indented to a level. -/
def newLine (level : Nat) : List Char := '\n' :: List.replicate (2 * level) ' '

mutual

/-- A value whose lines are indented from a level on. -/
def writeAt (level : Nat) : Json → List Char
  | .null => "null".toList
  | .bool b => if b then "true".toList else "false".toList
  | .int n => writtenInt n
  | .float x => doubleLayout.write x
  | .text s => writeText s
  | .array [] => ['[', ']']
  | .array (j :: js) => '[' :: writeItems (level + 1) (j :: js) ++ newLine level ++ [']']
  | .object [] => ['\x7b', '\x7d']
  | .object (m :: ms) => '\x7b' :: writeMembers (level + 1) (m :: ms) ++ newLine level ++ ['\x7d']

/-- Items, each on a line of its own. -/
def writeItems (level : Nat) : List Json → List Char
  | [] => []
  | [j] => newLine level ++ writeAt level j
  | j :: js => newLine level ++ writeAt level j ++ ',' :: writeItems level js

/-- Members, each on a line of its own. -/
def writeMembers (level : Nat) : List (String × Json) → List Char
  | [] => []
  | [(k, j)] => newLine level ++ writeText k ++ ':' :: ' ' :: writeAt level j
  | (k, j) :: ms =>
    newLine level ++ writeText k ++ ':' :: ' ' :: writeAt level j ++ ',' :: writeMembers level ms

end

mutual

/-- A JSON value holds no integer beyond the limit. -/
def isShort : Json → Bool
  | .int n => isShortInt n
  | .array items => allShort items
  | .object ms => membersShort ms
  | _ => true

/-- Items hold no integer beyond the limit. -/
def allShort : List Json → Bool
  | [] => true
  | j :: js => j.isShort && allShort js

/-- Members hold no integer beyond the limit. -/
def membersShort : List (String × Json) → Bool
  | [] => true
  | (_, j) :: ms => j.isShort && membersShort ms

end

/-- The JSON text of a value. -/
def render (j : Json) : String := String.ofList (writeAt 0 j)

end Json
end ServiceCatalog
