import ServiceCatalog.Charset.Unicode
import ServiceCatalog.Text.Base64

/-!
# The seven-bit form of Unicode

A text in seven-bit form is written in the seven-bit set.  Other characters stand between a `+` and
a `-`: their pieces of sixteen bits as one row of bits, in digits of six bits each.  The closing
hyphen may be left out in front of a character that is no digit, and `+-` is a plus sign.

A row has to end behind a whole piece, with fewer than six bits more, all of them zero.
-/

namespace ServiceCatalog
namespace Charset

/-- A row of bits that is being read. -/
structure BitRow where
  /-- The number of bits that belong to no piece yet. -/
  count : Nat := 0
  /-- Those bits. -/
  bits : Nat := 0
  /-- The first half of a pair. -/
  high : Option Nat := none

namespace BitRow

/-- A piece of sixteen bits behind a row: the row without it, and the code points that are complete.
A half without its other half stands for itself. -/
def push (r : BitRow) (piece : Nat) : BitRow × Decoded :=
  match r.high with
  | some h =>
    if isLowHalf piece then ({ r with high := none }, [some (pairedPoint h piece)])
    else if isHighHalf piece then ({ r with high := some piece }, [some h])
    else ({ r with high := none }, [some h, some piece])
  | none =>
    if isHighHalf piece then ({ r with high := some piece }, [])
    else ({ r with high := none }, [some piece])

/-- Adds a digit of six bits. -/
def add (r : BitRow) (digit : Nat) : BitRow × Decoded :=
  let bits := 64 * r.bits + digit
  let count := r.count + 6
  if 16 ≤ count then
    let unused := count - 16
    let unit := Nat.pow 2 unused
    { r with count := unused, bits := bits % unit }.push (bits / unit)
  else ({ r with count := count, bits := bits }, [])

/-- Bits remain that may not remain. -/
def isBroken (r : BitRow) : Bool := 6 ≤ r.count || (0 < r.count && r.bits ≠ 0)

end BitRow

/-- The digit of six bits that a byte is. -/
def sixBits? (b : UInt8) : Option Nat := Text.sextet? (Char.ofNat b.toNat)

/-- Decodes the seven-bit form, inside of a row of bits or outside. -/
def utf7From (row : Option BitRow) (bytes : List UInt8) : Decoded :=
  match row, bytes with
  | none, [] => []
  | some r, [] => if r.high.isSome || r.isBroken then [none] else []
  | none, b :: bs =>
    if b = 0x2B then
      match bs with
      | c :: rest =>
        if c = 0x2D then some 0x2B :: utf7From none rest
        else if (sixBits? c).isNone then none :: utf7From none rest
        else utf7From (some {}) (c :: rest)
      | [] => []
    else (if b < 0x80 then some b.toNat else none) :: utf7From none bs
  | some r, b :: bs =>
    match sixBits? b with
    | some digit =>
      let (next, points) := r.add digit
      points ++ utf7From (some next) bs
    | none =>
      if r.isBroken then none :: utf7From none bs
      else
        let half := if b < 0x80 && b ≠ 0x2B then r.high.toList else []
        half.map some ++ (if b = 0x2D then utf7From none bs else utf7From none (b :: bs))
termination_by 2 * bytes.length + (if row.isSome then 1 else 0)
decreasing_by
  all_goals simp only [Option.isSome_none, Option.isSome_some, List.length_cons, if_true,
    Bool.false_eq_true, if_false]
  all_goals omega

/-- Unicode in seven-bit form. -/
def utf7 : List UInt8 → Decoded := utf7From none

end Charset
end ServiceCatalog
