import ServiceCatalog.Text.Halves

/-!
# Code units

An escape in a quoted text names a code unit by four digits, and a character beyond the first 65536
is named by a pair of them: a high half and a low half.  Text is therefore first read as numbers,
and the halves are joined at the end.  Half a pair without the other stays what it is.
-/

namespace ServiceCatalog
namespace Text

/-- The first half of a pair of code units. -/
def isHighHalf (n : Nat) : Bool := 0xD800 ≤ n && n < 0xDC00

/-- The second half of a pair of code units. -/
def isLowHalf (n : Nat) : Bool := 0xDC00 ≤ n && n < 0xE000

/-- The code point of a pair of code units. -/
def joinHalves (high low : Nat) : Nat := 0x10000 + (high - 0xD800) * 0x400 + (low - 0xDC00)

/-- What one number spells: a half is spelled as such, and any other number is a character of the
text as it stands. -/
def charsOfUnit (n : Nat) : List Char := if isHalf n then spell n else [Char.ofNat n]

/-- The characters of code units: the two halves of a pair make one code point. -/
def charsOfUnits : List Nat → List Char
  | [] => []
  | [n] => charsOfUnit n
  | n :: m :: ns =>
    if isHighHalf n && isLowHalf m then spell (joinHalves n m) ++ charsOfUnits ns
    else charsOfUnit n ++ charsOfUnits (m :: ns)

end Text
end ServiceCatalog
