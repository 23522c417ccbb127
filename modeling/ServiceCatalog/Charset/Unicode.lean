import ServiceCatalog.Charset.Decoder

/-!
# The forms of Unicode

Unicode has one number for each character and several ways to write the numbers as bytes: in pieces
of eight, of sixteen and of thirty-two bits.  In the last two the bytes of a piece stand in one of
two orders, which a mark at the beginning tells if nothing else does.

In eight-bit form a faulty sequence ends where it can no longer be the beginning of a character, and
all of it is one hole.
-/

namespace ServiceCatalog
namespace Charset

/-- What has to follow a first byte in eight-bit form: the number of bytes, the range of the first
of them, and the bits that the first byte brings. -/
def utf8Lead? (b : UInt8) : Option (Nat × UInt8 × UInt8 × Nat) :=
  if 0xC2 ≤ b ∧ b ≤ 0xDF then some (1, 0x80, 0xBF, b.toNat - 0xC0)
  else if b = 0xE0 then some (2, 0xA0, 0xBF, 0)
  else if b = 0xED then some (2, 0x80, 0x9F, 0xD)
  else if 0xE1 ≤ b ∧ b ≤ 0xEF then some (2, 0x80, 0xBF, b.toNat - 0xE0)
  else if b = 0xF0 then some (3, 0x90, 0xBF, 0)
  else if 0xF1 ≤ b ∧ b ≤ 0xF3 then some (3, 0x80, 0xBF, b.toNat - 0xF0)
  else if b = 0xF4 then some (3, 0x80, 0x8F, 4)
  else none

/-- Reads what has to follow, on top of the bits that are known.  The second number counts the bytes
that fit. -/
def utf8Tail (missing : Nat) (low high : UInt8) (bits fitting : Nat) : List UInt8 → Taken
  | [] => if missing = 0 then .some? fitting (charOf? bits) else ⟨[none], fitting⟩
  | b :: bs =>
    if missing = 0 then .some? fitting (charOf? bits)
    else if low ≤ b ∧ b ≤ high then
      utf8Tail (missing - 1) 0x80 0xBF (64 * bits + (b.toNat - 0x80)) (fitting + 1) bs
    else ⟨[none], fitting⟩

/-- Unicode in eight-bit form. -/
def utf8 : List UInt8 → Decoded :=
  decodeWith fun b bs =>
    if b < 0x80 then .char (Char.ofNat b.toNat)
    else match utf8Lead? b with
      | some (missing, low, high, bits) => utf8Tail missing low high bits 0 bs
      | none => .fault

/-- The mark that may stand before a text in eight-bit form. -/
def utf8Mark : List UInt8 := [0xEF, 0xBB, 0xBF]

/-- Unicode in eight-bit form, without the mark in front of it. -/
def utf8Unmarked (bytes : List UInt8) : Decoded :=
  utf8 (if utf8Mark.isPrefixOf bytes then bytes.drop 3 else bytes)

/-- The order of the bytes in a piece. -/
inductive ByteOrder where
  | littleEnd
  | bigEnd

/-- The piece of sixteen bits that two bytes are. -/
def ByteOrder.piece (o : ByteOrder) (a b : UInt8) : Nat :=
  match o with
  | .littleEnd => pairNumber b a
  | .bigEnd => pairNumber a b

/-- A piece of sixteen bits starts a pair. -/
def isHighHalf (n : Nat) : Bool := 0xD800 ≤ n && n < 0xDC00

/-- A piece of sixteen bits ends a pair. -/
def isLowHalf (n : Nat) : Bool := 0xDC00 ≤ n && n < 0xE000

/-- The code point of a pair. -/
def pairedPoint (high low : Nat) : Nat := 0x10000 + 0x400 * (high - 0xD800) + (low - 0xDC00)

/-- Unicode in pieces of sixteen bits. -/
def utf16 (o : ByteOrder) : List UInt8 → Decoded :=
  decodeWith fun a bs =>
    match bs with
    | [] => .fault
    | b :: rest =>
      let n := o.piece a b
      if isHighHalf n then
        match rest with
        | c :: d :: _ =>
          let m := o.piece c d
          if isLowHalf m then ⟨[some (pairedPoint n m)], 3⟩ else ⟨[none], 1⟩
        | _ => .unfinished bs
      else ⟨[(charOf? n).map Char.toNat], 1⟩

/-- Unicode in pieces of thirty-two bits. -/
def utf32 (o : ByteOrder) : List UInt8 → Decoded :=
  decodeWith fun a bs =>
    match bs with
    | b :: c :: d :: _ =>
      let n := match o with
        | .littleEnd => 0x10000 * o.piece c d + o.piece a b
        | .bigEnd => 0x10000 * o.piece a b + o.piece c d
      ⟨[(charOf? n).map Char.toNat], 3⟩
    | _ => .unfinished bs

/-- Unicode in pieces of sixteen bits behind a mark that tells the order; without a mark there is no
text, unless there is no whole piece. -/
def utf16Marked? : List UInt8 → Option Decoded
  | 0xFF :: 0xFE :: bs => some (utf16 .littleEnd bs)
  | 0xFE :: 0xFF :: bs => some (utf16 .bigEnd bs)
  | _ :: _ :: _ => none
  | bs => some (utf16 .littleEnd bs)

/-- Unicode in pieces of thirty-two bits behind a mark that tells the order; without a mark there is
no text, unless there is no whole piece. -/
def utf32Marked? : List UInt8 → Option Decoded
  | 0xFF :: 0xFE :: 0 :: 0 :: bs => some (utf32 .littleEnd bs)
  | 0 :: 0 :: 0xFE :: 0xFF :: bs => some (utf32 .bigEnd bs)
  | _ :: _ :: _ :: _ :: _ => none
  | bs => some (utf32 .littleEnd bs)

end Charset
end ServiceCatalog
