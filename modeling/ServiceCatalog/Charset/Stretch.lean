import ServiceCatalog.Text.Hex

/-!
# Tables of characters

The tables of this library are texts.  A line holds a number in base sixteen, a space, and the
character of this number and of those behind it: a stretch.  Spaces in front of a line do not count.
-/

namespace ServiceCatalog
namespace Charset

/-- The characters of consecutive numbers. -/
structure Stretch where
  first : Nat
  chars : Array Char

/-- The stretch on a line. -/
def stretch? (line : List Char) : Option Stretch :=
  let inside := line.dropWhile (· = ' ')
  let number := inside.takeWhile (· ≠ ' ')
  if number.isEmpty then none
  else (Text.hexValue? number).map fun n => ⟨n, (inside.drop (number.length + 1)).toArray⟩

/-- The lines of a text. -/
def tableLines (line : List Char) : List Char → List (List Char)
  | [] => [line.reverse]
  | c :: cs => if c = '\n' then line.reverse :: tableLines [] cs else tableLines (c :: line) cs

/-- The stretches of a table. -/
def stretches (table : String) : List Stretch := (tableLines [] table.toList).filterMap stretch?

/-- What a table says about a number: the first stretch that holds it counts. -/
def signAt? (table : List Stretch) (n : Nat) : Option Char :=
  table.findSome? fun s => if s.first ≤ n then s.chars[n - s.first]? else none

/-- The sign for a number without a character. -/
def missing : Char := '\uFFFD'

/-- The character of a number. -/
def charAt? (table : List Stretch) (n : Nat) : Option Char :=
  (signAt? table n).filter (· ≠ missing)

end Charset
end ServiceCatalog
