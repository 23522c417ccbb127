import ServiceCatalog.Charset.Decoder
import ServiceCatalog.Charset.EightBitTable
import ServiceCatalog.Charset.Stretch

/-!
# Eight-bit sets

A set of at most 256 characters has a byte for each.  The seven-bit set is the first half of all of
them but for those of mainframes, and the first eight-bit set gives every byte the character of its
number.
-/

namespace ServiceCatalog
namespace Charset

/-- The seven-bit set. -/
def ascii : List UInt8 → Decoded :=
  decodeWith fun b _ => if b < 0x80 then .char (Char.ofNat b.toNat) else .fault

/-- The first eight-bit set. -/
def latin1 : List UInt8 → Decoded := decodeWith fun b _ => .char (Char.ofNat b.toNat)

/-- The character of a byte in the set with a table. -/
def eightBitChar? (table : List Stretch) (b : UInt8) : Option Char :=
  match signAt? table b.toNat with
  | none => some (Char.ofNat b.toNat)
  | some c => if c = missing then none else some (if c = '␊' then '\n' else c)

/-- The set with a table. -/
def eightBit (table : List Stretch) : List UInt8 → Decoded :=
  decodeWith fun b _ => .some? 0 (eightBitChar? table b)

/-- The eight-bit sets with a table, by their names. -/
def eightBitSets : List (String × List Stretch) :=
  eightBitTables.map fun t => (t.1, stretches t.2)

end Charset
end ServiceCatalog
