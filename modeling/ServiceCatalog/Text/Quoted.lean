import ServiceCatalog.Text.Halves
import ServiceCatalog.Text.Printable

/-!
# Quoted texts

Where a list or a mapping has to be written out inside a message, the texts in it are quoted, so
that their ends show.  The rule for the quote is: an apostrophe, unless the text holds an apostrophe
and no quotation mark; then it is the quotation mark, and nothing has to be escaped.  A half of a
pair is no character and is always escaped.
-/

namespace ServiceCatalog
namespace Text

/-- The quote for a text. -/
def quoteFor (cs : List Char) : Char :=
  if cs.contains '\'' && !cs.contains '"' then '"' else '\''

/-- A character by its number, in the shortest of the three escapes that can hold it. -/
def numericEscape (n : Nat) : List Char :=
  if n ≤ 0xFF then '\\' :: 'x' :: hexDigits 2 n
  else if n ≤ 0xFFFF then '\\' :: 'u' :: hexDigits 4 n
  else '\\' :: 'U' :: hexDigits 8 n

/-- A character inside a quoted text. -/
def quotedChar (quote c : Char) : List Char :=
  if c = quote ∨ c = '\\' then ['\\', c]
  else if c = '\t' then ['\\', 't']
  else if c = '\n' then ['\\', 'n']
  else if c = '\r' then ['\\', 'r']
  else if isPrintable c then [c]
  else numericEscape c.toNat

/-- A code point inside a quoted text. -/
def quotedPoint (quote : Char) (n : Nat) : List Char :=
  if isHalf n then numericEscape n else quotedChar quote (Char.ofNat n)

/-- The quoted form of a text. -/
def quoted (cs : List Char) : List Char :=
  let quote := quoteFor cs
  quote :: (points cs).flatMap (quotedPoint quote) ++ [quote]

/-- The quoted form of bytes, which are marked by a `b` and show printable ASCII only. -/
def quotedBytes (bs : List UInt8) : List Char :=
  let cs := bs.map fun b => Char.ofNat b.toNat
  let quote := quoteFor cs
  let byte (c : Char) : List Char :=
    if c.toNat < 0x80 then quotedChar quote c else numericEscape c.toNat
  'b' :: quote :: cs.flatMap byte ++ [quote]

end Text
end ServiceCatalog
