import ServiceCatalog.Charset.Chinese
import ServiceCatalog.Charset.KoreanTable

/-!
# Korean sets

A syllable is written with an initial, a vowel and perhaps a final, and Unicode has all syllables in
the order of these three.  KS X 1001 has the syllables that occur; the others are spelled there, in
eight bytes.  Code page 949 puts them into the free places instead, in their order, and the
combining set (`johab`) has five bits for each of the three parts.
-/

namespace ServiceCatalog
namespace Charset

/-- KS X 1001. -/
def ksx1001 : List Stretch := stretches ksx1001Table

/-- The initials of syllables. -/
def initials : List Char := "ㄱㄲㄴㄷㄸㄹㅁㅂㅃㅅㅆㅇㅈㅉㅊㅋㅌㅍㅎ".toList

/-- The vowels of syllables. -/
def vowels : List Char := "ㅏㅐㅑㅒㅓㅔㅕㅖㅗㅘㅙㅚㅛㅜㅝㅞㅟㅠㅡㅢㅣ".toList

/-- The finals of syllables. -/
def finals : List Char := "ㄱㄲㄳㄴㄵㄶㄷㄹㄺㄻㄼㄽㄾㄿㅀㅁㅂㅄㅅㅆㅇㅈㅊㅋㅌㅍㅎ".toList

/-- The syllable with an initial, a vowel and a final by their places; the place of no final is
zero. -/
def syllable (initial vowel final : Nat) : Char :=
  Char.ofNat (0xAC00 + 588 * initial + 28 * vowel + final)

/-- The letter in the row of letters of KS X 1001. -/
def letter (b : UInt8) : Char := Char.ofNat (0x3131 + (b.toNat - 0xA1))

/-- The first byte of letters, and the second one of a filler. -/
def letterRow : UInt8 := 0xA4

/-- The second byte of a filler. -/
def filler : UInt8 := 0xD4

/-- The syllable that is spelled with three letters, given by their second bytes. -/
def spelled? (a b c : UInt8) : Option Char := do
  let initial ← initials.idxOf? (letter a)
  let vowel ← vowels.idxOf? (letter b)
  let final ← if c = filler then some 0 else (finals.idxOf? (letter c)).map (· + 1)
  return syllable initial vowel final

/-- KS X 1001 with eight bits in each byte. -/
def eucKr : List UInt8 → Decoded :=
  decodeWith fun a bs =>
    if a < 0x80 then .char (Char.ofNat a.toNat)
    else withSecond bs fun b =>
      if a = letterRow ∧ b = filler then
        match bs with
        | _ :: r₁ :: c₁ :: r₂ :: c₂ :: r₃ :: c₃ :: _ =>
          if r₁ = letterRow ∧ r₂ = letterRow ∧ r₃ = letterRow then .some? 7 (spelled? c₁ c₂ c₃)
          else .fault
        | _ => .unfinished bs
      else .some? 1 ((lowNumber? a b).bind (charAt? ksx1001))

/-- The syllables that KS X 1001 does not have. -/
def otherSyllables : Array Char := remaining 0xAC00 0xD7A3 (allChars ksx1001)

/-- The place of a second byte in code page 949: behind the two cases of Latin letters come all
bytes from `0x81` on. -/
def hangulTrail? (b : UInt8) : Option Nat :=
  if 0x41 ≤ b ∧ b ≤ 0x5A then some (b.toNat - 0x41)
  else if 0x61 ≤ b ∧ b ≤ 0x7A then some (b.toNat - 0x61 + 26)
  else if 0x81 ≤ b ∧ b ≤ 0xFE then some (b.toNat - 0x81 + 52)
  else none

/-- A syllable in a free place of code page 949: there are 178 for each first byte up to `0xA0`, and
then 84. -/
def otherSyllable? (a b : UInt8) : Option Char :=
  (hangulTrail? b).bind fun t =>
    if 0x81 ≤ a ∧ a ≤ 0xA0 then otherSyllables[178 * (a.toNat - 0x81) + t]?
    else if 0xA1 ≤ a ∧ a ≤ 0xC6 ∧ t < 84 then otherSyllables[5696 + 84 * (a.toNat - 0xA1) + t]?
    else none

/-- Code page 949. -/
def cp949 : List UInt8 → Decoded :=
  pairs fun a b => ((lowNumber? a b).bind (charAt? ksx1001)).or (otherSyllable? a b)

/-! ## The combining set -/

/-- A part of a syllable in five bits. -/
inductive Part where
  | none
  | place (n : Nat)

/-- The initial in five bits. -/
def initialPart? (n : Nat) : Option Part :=
  if n = 1 then some .none else if 2 ≤ n ∧ n ≤ 20 then some (.place (n - 2)) else none

/-- The vowel in five bits: they stand in groups, with gaps of two or more. -/
def vowelPart? (n : Nat) : Option Part :=
  if n = 2 then some .none
  else if 3 ≤ n ∧ n ≤ 7 then some (.place (n - 3))
  else if 10 ≤ n ∧ n ≤ 15 then some (.place (n - 5))
  else if 18 ≤ n ∧ n ≤ 23 then some (.place (n - 7))
  else if 26 ≤ n ∧ n ≤ 29 then some (.place (n - 9))
  else none

/-- The final in five bits, with one gap. -/
def finalPart? (n : Nat) : Option Part :=
  if n = 1 then some .none
  else if 2 ≤ n ∧ n ≤ 17 then some (.place (n - 2))
  else if 19 ≤ n ∧ n ≤ 29 then some (.place (n - 3))
  else none

/-- The syllable of three parts, or the single letter. -/
def combined? (initial vowel final : Part) : Option Char :=
  match initial, vowel, final with
  | .none, .none, .none => some '\u3000'
  | .none, .none, .place f => finals[f]?
  | .none, .place v, .none => vowels[v]?
  | .place i, .none, .none => initials[i]?
  | .place i, .place v, .none => some (syllable i v 0)
  | .place i, .place v, .place f => some (syllable i v (f + 1))
  | _, _, _ => none

/-- The character of a pair in the combining set that is no syllable: two rows of KS X 1001 share a
first byte. -/
def johabOther? (a b : UInt8) : Option Char :=
  if a < 0xD9 ∨ a = 0xDF ∨ 0xF9 < a ∨ b < 0x31 ∨ (0x80 ≤ b ∧ b < 0x91) ∨ b = 0x7F ∨ b = 0xFF ∨
      (a = 0xDA ∧ 0xA1 ≤ b ∧ b ≤ 0xD3) then none
  else
    let column := if b < 0x91 then b.toNat - 0x31 else b.toNat - 0x43
    let row := if a < 0xE0 then 2 * (a.toNat - 0xD9) else 2 * a.toNat - 0x197
    charAt? ksx1001 (placeNumber (row + column / 94) (column % 94))

/-- The combining set. -/
def johab : List UInt8 → Decoded :=
  pairs fun a b =>
    if a < 0xD8 then do
      let initial ← initialPart? (a.toNat / 4 % 32)
      let vowel ← vowelPart? (pairNumber a b / 32 % 32)
      let final ← finalPart? (b.toNat % 32)
      combined? initial vowel final
    else johabOther? a b

end Charset
end ServiceCatalog
