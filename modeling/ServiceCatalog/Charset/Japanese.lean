import ServiceCatalog.Charset.Decoder
import ServiceCatalog.Charset.JapaneseTable
import ServiceCatalog.Charset.Stretch

/-!
# Japanese sets

The national standards give a character a number of two bytes with seven bits each, from `0x2121` to
`0x7E7E`.  In the extended form (`eucJp`) both bytes have their eighth bit set, and a prefix leads
to further planes.  In the shifted form (`shiftJis`) two rows of the standard share a first byte, so
that bytes of their own remain for the katakana of half width.
-/

namespace ServiceCatalog
namespace Charset

/-- JIS X 0208. -/
def jis0208 : List Stretch := stretches jis0208Table

/-- The supplement, JIS X 0212. -/
def jis0212 : List Stretch := stretches jis0212Table

/-- What the first plane of JIS X 0213 adds to JIS X 0208. -/
def jis0213First : List Stretch := stretches jis0213FirstTable

/-- The second plane of JIS X 0213. -/
def jis0213Second : List Stretch := stretches jis0213SecondTable

/-- What code page 932 has in its own places. -/
def codePage932 : List Stretch := stretches codePage932Table

/-- A number of two bytes with seven bits, from bytes with eight. -/
def lowNumber? (a b : UInt8) : Option Nat :=
  if 0xA1 ≤ a ∧ a ≤ 0xFE ∧ 0xA1 ≤ b ∧ b ≤ 0xFE then some (pairNumber (a - 0x80) (b - 0x80))
  else none

/-- A katakana of half width. -/
def halfKatakana? (b : UInt8) : Option Char :=
  if 0xA1 ≤ b ∧ b ≤ 0xDF then some (Char.ofNat (0xFF61 + (b.toNat - 0xA1))) else none

/-- The row and the column that a pair of bytes of the shifted form means, from zero on. -/
def shiftedPlace? (a b : UInt8) : Option (Nat × Nat) :=
  if b < 0x40 ∨ b = 0x7F ∨ 0xFC < b then none
  else
    let half := if a < 0xA0 then a.toNat - 0x81 else a.toNat - 0xC1
    let column := if b < 0x7F then b.toNat - 0x40 else b.toNat - 0x41
    some (2 * half + column / 94, column % 94)

/-- The number of a place in the national standard. -/
def placeNumber (row column : Nat) : Nat := 256 * (0x21 + row) + (0x21 + column)

/-- A byte is the first one of a pair in the shifted form. -/
def isShiftedLead (last b : UInt8) : Bool := (0x81 ≤ b && b ≤ 0x9F) || (0xE0 ≤ b && b ≤ last)

/-- The character of a pair in the shifted form. -/
def shiftedChar? (a b : UInt8) : Option Char :=
  (shiftedPlace? a b).bind fun p => charAt? jis0208 (placeNumber p.1 p.2)

/-- The second byte of a pair, if it is there. -/
def withSecond (bs : List UInt8) (f : UInt8 → Taken) : Taken :=
  match bs with
  | [] => .fault
  | b :: _ => f b

/-- The extended form. -/
def eucJp : List UInt8 → Decoded :=
  decodeWith fun a bs =>
    if a < 0x80 then .char (Char.ofNat a.toNat)
    else withSecond bs fun b =>
      if a = 0x8E then .some? 1 (halfKatakana? b)
      else if a = 0x8F then
        match bs with
        | _ :: c :: _ => .some? 2 ((lowNumber? b c).bind (charAt? jis0212))
        | _ => .unfinished bs
      else .some? 1 ((lowNumber? a b).bind (charAt? jis0208))

/-- The shifted form. -/
def shiftJis : List UInt8 → Decoded :=
  decodeWith fun a bs =>
    if a < 0x80 then .char (Char.ofNat a.toNat)
    else match halfKatakana? a with
      | some c => .char c
      | none =>
        if isShiftedLead 0xEA a then withSecond bs fun b => .some? 1 (shiftedChar? a b) else .fault

/-- The bytes of code page 932 that are characters for private use on their own. -/
def privateByte? (a : UInt8) : Option Char :=
  if a = 0xA0 then some '\uF8F0'
  else if 0xFD ≤ a then some (Char.ofNat (0xF8F1 + (a.toNat - 0xFD)))
  else none

/-- A character for private use in code page 932. -/
def privatePair? (a b : UInt8) : Option Char :=
  if 0xF0 ≤ a ∧ a ≤ 0xF9 then
    (shiftedPlace? a b).map fun p =>
      Char.ofNat (0xE000 + 188 * (a.toNat - 0xF0) + (94 * (p.1 % 2) + p.2))
  else none

/-- Code page 932: the shifted form with characters of its own. -/
def cp932 : List UInt8 → Decoded :=
  decodeWith fun a bs =>
    if a ≤ 0x80 then .char (Char.ofNat a.toNat)
    else match (halfKatakana? a).or (privateByte? a) with
      | some c => .char c
      | none => withSecond bs fun b =>
        let shared := if isShiftedLead 0xEA a then shiftedChar? a b else none
        .some? 1 ((charAt? codePage932 (pairNumber a b)).or (shared.or (privatePair? a b)))

/-! ## JIS X 0213 -/

/-- The editions of JIS X 0213. -/
inductive Edition where
  | first
  | second
  deriving DecidableEq

/-- The numbers of the first plane that the first edition does not have yet. -/
def laterNumbers : List Nat :=
  [0x2E21, 0x2F7E, 0x4F54, 0x4F7E, 0x7427, 0x7E7A, 0x7E7B, 0x7E7C, 0x7E7D, 0x7E7E]

/-- The numbers of the first plane that mean two characters. -/
def jis0213Pairs : List (Nat × List Char) :=
  [(0x2477, ['か', '\u309A']), (0x2478, ['き', '\u309A']), (0x2479, ['く', '\u309A']),
   (0x247A, ['け', '\u309A']), (0x247B, ['こ', '\u309A']), (0x2577, ['カ', '\u309A']),
   (0x2578, ['キ', '\u309A']), (0x2579, ['ク', '\u309A']), (0x257A, ['ケ', '\u309A']),
   (0x257B, ['コ', '\u309A']), (0x257C, ['セ', '\u309A']), (0x257D, ['ツ', '\u309A']),
   (0x257E, ['ト', '\u309A']), (0x2678, ['ㇷ', '\u309A']), (0x2B44, ['æ', '\u0300']),
   (0x2B48, ['ɔ', '\u0300']), (0x2B49, ['ɔ', '\u0301']), (0x2B4A, ['ʌ', '\u0300']),
   (0x2B4B, ['ʌ', '\u0301']), (0x2B4C, ['ə', '\u0300']), (0x2B4D, ['ə', '\u0301']),
   (0x2B4E, ['ɚ', '\u0300']), (0x2B4F, ['ɚ', '\u0301']), (0x2B65, ['˩', '˥']),
   (0x2B66, ['˥', '˩'])]

/-- The characters of a number of the first plane. -/
def firstPlane? (n : Nat) : Option (List Char) :=
  match (charAt? jis0208 n).or (charAt? jis0213First n) with
  | some c => some [c]
  | none => jis0213Pairs.lookup n

/-- The character of a number of the second plane. -/
def secondPlane? (e : Edition) (n : Nat) : Option Char :=
  if e = .first ∧ n = 0x7D3B then some '鬝' else charAt? jis0213Second n

/-- Takes two bytes for some characters. -/
def Taken.several? : Option (List Char) → Taken
  | some cs => ⟨decoded cs, 1⟩
  | none => .fault

/-- Takes two bytes for a number of the first plane.  Both are faulty if the edition does not have
it yet. -/
def Taken.first (e : Edition) (n : Nat) : Taken :=
  if e = .first ∧ laterNumbers.contains n then ⟨[none], 1⟩ else .several? (firstPlane? n)

/-- The extended form with JIS X 0213. -/
def eucJis0213 (e : Edition) : List UInt8 → Decoded :=
  decodeWith fun a bs =>
    if a < 0x80 then .char (Char.ofNat a.toNat)
    else withSecond bs fun b =>
      if a = 0x8E then .some? 1 (halfKatakana? b)
      else if a = 0x8F then
        match bs with
        | _ :: c :: _ =>
          .some? 2 ((lowNumber? b c).bind fun n => (secondPlane? e n).or (charAt? jis0212 n))
        | _ => .unfinished bs
      else match lowNumber? a b with
        | some n => .first e n
        | none => .fault

/-- The row of the second plane that a row behind the first plane means. -/
def secondPlaneRow (row : Nat) : Nat :=
  if 0x67 ≤ row then row + 7 - 0x21
  else if 0x63 ≤ row ∨ row = 0x5F then row - 0x37 - 0x21
  else row - 0x3D - 0x21

/-- Takes a pair in the shifted form with JIS X 0213.  Backslash and tilde have no byte of their own
in it. -/
def Taken.shifted (e : Edition) (a b : UInt8) : Taken :=
  if a = 0x81 ∧ b = 0x5F then ⟨decoded ['\\'], 1⟩
  else if a = 0x81 ∧ b = 0xB0 then ⟨decoded ['~'], 1⟩
  else match shiftedPlace? a b with
    | none => .fault
    | some (row, column) =>
      if row < 94 then .first e (placeNumber row column)
      else .some? 1 (secondPlane? e (placeNumber (secondPlaneRow row) column))

/-- The shifted form with JIS X 0213. -/
def shiftJis0213 (e : Edition) : List UInt8 → Decoded :=
  decodeWith fun a bs =>
    if a = 0x5C then .char '¥'
    else if a = 0x7E then .char '‾'
    else if a < 0x80 then .char (Char.ofNat a.toNat)
    else match halfKatakana? a with
      | some c => .char c
      | none =>
        if isShiftedLead 0xFC a then withSecond bs (Taken.shifted e a) else .fault

end Charset
end ServiceCatalog
