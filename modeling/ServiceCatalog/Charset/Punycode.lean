import ServiceCatalog.Charset.EightBit

/-!
# Punycode

The characters of the seven-bit set stand in front, up to the last hyphen.  Behind it stand numbers,
in letters and digits, which say where the other characters are inserted, in ascending order: each
number counts the possible insertions that are passed over.  The digits of a number have weights
that adapt to the numbers before, so that a number ends with a digit below a threshold.

Reading stops at the first number that has no end, and the characters so far are the text.
-/

namespace ServiceCatalog
namespace Charset
namespace Punycode

/-- The threshold of a digit by its place. -/
def threshold (place bias : Nat) : Nat := max 1 (min 26 (36 * (place + 1) - bias))

/-- The value of a letter or a digit. -/
def digit? (b : UInt8) : Option Nat :=
  if 0x41 ≤ b ∧ b ≤ 0x5A then some (b.toNat - 0x41)
  else if 0x61 ≤ b ∧ b ≤ 0x7A then some (b.toNat - 0x61)
  else if 0x30 ≤ b ∧ b ≤ 0x39 then some (b.toNat - 22)
  else none

/-- Reads a number: its value, and the bytes behind it. -/
def number? (bias place weight value : Nat) : List UInt8 → Option (Nat × List UInt8)
  | [] => none
  | b :: bs =>
    (digit? b).bind fun d =>
      let t := threshold place bias
      let sum := value + d * weight
      if d < t then some (sum, bs) else number? bias (place + 1) (weight * (36 - t)) sum bs

/-- Divides by 35 as long as the number is above 455, and counts. -/
def divisions : (fuel : Nat) → (n count : Nat) → Nat × Nat
  | 0, n, count => (n, count)
  | fuel + 1, n, count => if 455 < n then divisions fuel (n / 35) (count + 1) else (n, count)

/-- The bias behind a number, for a text that is so long. -/
def adapted (delta length : Nat) (isFirst : Bool) : Nat :=
  let damped := if isFirst then delta / 700 else delta / 2
  let start := damped + damped / length
  let (rest, count) := divisions start start 0
  36 * count + 36 * rest / (rest + 38)

/-- Inserts the characters that numbers say, with a fuel that bounds their number.  The next place
and the code point start where the last insertion ended. -/
def inserted : (fuel : Nat) → (text : Decoded) → (code place bias : Nat) → (isFirst : Bool) →
    List UInt8 → Decoded
  | 0, text, _, _, _, _, _ => text
  | _, text, _, _, _, _, [] => text
  | fuel + 1, text, code, place, bias, isFirst, bs =>
    match number? bias 0 1 0 bs with
    | none => text
    | some (delta, rest) =>
      let target := place + delta
      let slots := text.length + 1
      let next := code + target / slots
      let known := if next ≤ 0x10FFFF then next else 0x3F
      let here := target % slots
      inserted fuel (text.take here ++ some known :: text.drop here) known (here + 1)
        (adapted delta slots isFirst) false rest

/-- The bytes behind the last hyphen. -/
def numbers (bytes : List UInt8) : List UInt8 := (bytes.reverse.takeWhile (· ≠ 0x2D)).reverse

/-- The first byte behind the last hyphen that has its eighth bit set, and its place there. -/
def wrongByte? (bytes : List UInt8) : Option (UInt8 × Nat) :=
  let ns := numbers bytes
  (ns.find? (0x80 ≤ ·)).map fun b => (b, (ns.takeWhile (· < 0x80)).length)

/-- The text that bytes mean. -/
def decode (bytes : List UInt8) : Decoded :=
  let ns := numbers bytes
  inserted ns.length (ascii (bytes.take (bytes.length - ns.length - 1))) 0x80 0 72 true ns

end Punycode
end Charset
end ServiceCatalog
