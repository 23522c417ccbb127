import ServiceCatalog.Charset.ChineseTable
import ServiceCatalog.Charset.Japanese

/-!
# Chinese sets

The standard of the mainland, GB 2312, has a number of two bytes for each of its characters.  GBK
adds all other ideographs of the first version of Unicode, in their order there, in the places that
are free when the second byte may be any one from `0x40` on.  GB 18030 adds four bytes for each
character that is left.

Big5 is the set of Taiwan, and the set of Hong Kong extends it.
-/

namespace ServiceCatalog
namespace Charset

/-- GB 2312. -/
def gb2312Chars : List Stretch := stretches gb2312Table

/-- Where GBK departs from GB 2312, without the ideographs in order. -/
def gbkChars : List Stretch := stretches gbkTable

/-- What GB 18030 adds in two bytes. -/
def gb18030Chars : List Stretch := stretches gb18030Table

/-- Big5. -/
def big5Chars : List Stretch := stretches big5Table

/-- Where code page 950 departs from Big5. -/
def codePage950 : List Stretch := stretches codePage950Table

/-- Where the set of Hong Kong departs from Big5. -/
def hkscsChars : List Stretch := stretches hkscsTable

/-- The characters of a table. -/
def allChars (table : List Stretch) : List Char := table.flatMap fun s => s.chars.toList

/-- The characters of an interval, in order, without some of them. -/
def remaining (first last : Nat) (known : List Char) : Array Char :=
  let marks := known.foldl (fun (m : Array Bool) c =>
    if first ≤ c.toNat then m.setIfInBounds (c.toNat - first) true else m)
    (Array.replicate (last + 1 - first) false)
  ((List.range marks.size).filter fun n => marks[n]? = some false).toArray.map fun n =>
    Char.ofNat (first + n)

/-- The ideographs that GB 2312 does not have. -/
def otherIdeographs : Array Char := remaining 0x4E00 0x9FA5 (allChars gb2312Chars)

/-- The place of a second byte among those from `0x40` on without `0x7F`. -/
def trailPlace (b : UInt8) : Nat := if b < 0x7F then b.toNat - 0x40 else b.toNat - 0x41

/-- An ideograph in the order of Unicode: 190 for each of the first bytes up to `0xA0`, and 96 for
each from `0xAA` on. -/
def orderedIdeograph? (a b : UInt8) : Option Char :=
  if b < 0x40 ∨ b = 0x7F ∨ b = 0xFF then none
  else if 0x81 ≤ a ∧ a ≤ 0xA0 then otherIdeographs[190 * (a.toNat - 0x81) + trailPlace b]?
  else if 0xAA ≤ a ∧ a ≤ 0xFE ∧ b ≤ 0xA0 then
    otherIdeographs[6080 + 96 * (a.toNat - 0xAA) + trailPlace b]?
  else none

/-- The character of a pair in GBK. -/
def gbkChar? (a b : UInt8) : Option Char :=
  ((charAt? gbkChars (pairNumber a b)).or ((lowNumber? a b).bind (charAt? gb2312Chars))).or
    (orderedIdeograph? a b)

/-- A set with pairs of bytes behind the seven-bit set. -/
def pairs (char? : UInt8 → UInt8 → Option Char) : List UInt8 → Decoded :=
  decodeWith fun a bs =>
    if a < 0x80 then .char (Char.ofNat a.toNat)
    else withSecond bs fun b => .some? 1 (char? a b)

/-- GB 2312 with eight bits in each byte. -/
def gb2312 : List UInt8 → Decoded := pairs fun a b => (lowNumber? a b).bind (charAt? gb2312Chars)

/-- GBK. -/
def gbk : List UInt8 → Decoded := pairs gbkChar?

/-- A character for private use in GB 18030. -/
def gb18030Private? (n : Nat) : Option Char :=
  gb18030Private.findSome? fun s =>
    if s.1 ≤ n ∧ n ≤ s.2.1 then some (Char.ofNat (s.2.2 + (n - s.1))) else none

/-- The character of a pair in GB 18030. -/
def gb18030Pair? (a b : UInt8) : Option Char :=
  let n := pairNumber a b
  (gbkChar? a b).or ((charAt? gb18030Chars n).or (gb18030Private? n))

/-- The character of four bytes.  They count the characters that have no shorter form, and then
those beyond U+FFFF. -/
def gb18030Four? (a b c d : UInt8) : Option Char :=
  if a < 0x81 ∨ a = 0xFF ∨ c < 0x81 ∨ c = 0xFF ∨ d < 0x30 ∨ 0x39 < d then none
  else
    let place := 1260 * (b.toNat - 0x30) + 10 * (c.toNat - 0x81) + (d.toNat - 0x30)
    if a < 0x85 then
      let n := 12600 * (a.toNat - 0x81) + place
      gb18030Four.findSome? fun s =>
        if s.1 ≤ n ∧ n < s.1 + s.2.1 then some (Char.ofNat (s.2.2 + (n - s.1))) else none
    else if 0x90 ≤ a then charOf? (0x10000 + 12600 * (a.toNat - 0x90) + place)
    else none

/-- GB 18030. -/
def gb18030 : List UInt8 → Decoded :=
  decodeWith fun a bs =>
    if a < 0x80 then .char (Char.ofNat a.toNat)
    else withSecond bs fun b =>
      if 0x30 ≤ b ∧ b ≤ 0x39 then
        match bs with
        | _ :: c :: d :: _ => .some? 3 (gb18030Four? a b c d)
        | _ => .unfinished bs
      else .some? 1 (gb18030Pair? a b)

/-- Big5. -/
def big5 : List UInt8 → Decoded := pairs fun a b => charAt? big5Chars (pairNumber a b)

/-- Code page 950. -/
def cp950 : List UInt8 → Decoded :=
  pairs fun a b =>
    let n := pairNumber a b
    (charAt? codePage950 n).or (charAt? big5Chars n)

/-- The numbers of the set of Hong Kong that mean two characters. -/
def hkscsPairs : List (Nat × List Char) :=
  [(0x8862, ['Ê', '\u0304']), (0x8864, ['Ê', '\u030C']), (0x88A3, ['ê', '\u0304']),
   (0x88A5, ['ê', '\u030C'])]

/-- The numbers from which on, and up to which, the set of Hong Kong has nothing of Big5. -/
def isOwnHkscs (n : Nat) : Bool := 0xC6A1 ≤ n && n ≤ 0xC8FF

/-- The set of Hong Kong. -/
def big5Hkscs : List UInt8 → Decoded :=
  decodeWith fun a bs =>
    if a < 0x80 then .char (Char.ofNat a.toNat)
    else withSecond bs fun b =>
      let n := pairNumber a b
      let shared := if isOwnHkscs n then none else charAt? big5Chars n
      match (charAt? hkscsChars n).or shared with
      | some c => ⟨decoded [c], 1⟩
      | none => .several? (hkscsPairs.lookup n)

end Charset
end ServiceCatalog
