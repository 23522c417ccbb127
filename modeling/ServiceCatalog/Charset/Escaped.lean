import ServiceCatalog.Charset.Decoder
import ServiceCatalog.Text.Hex

/-!
# Escaped texts

A text can be written in the first eight-bit set with escapes for all other characters: a backslash
and a letter, and behind some letters a fixed number of digits in base sixteen.  The raw form knows
only the escapes by number.  An escape that is broken off is one hole, and a backslash in front of
anything else is an ordinary character.

Characters are not known by their names here: `\\N{…}` is a hole.
-/

namespace ServiceCatalog
namespace Charset

/-- A byte as a character. -/
def byteChar (b : UInt8) : Char := Char.ofNat b.toNat

/-- Reads digits of an escape on top of a number.  The last number counts the bytes that are taken
behind the backslash. -/
def escapedNumber (missing n taken : Nat) : List UInt8 → Taken
  | [] => if missing = 0 then ⟨[point? n], taken⟩ else ⟨[none], taken⟩
  | b :: bs =>
    if missing = 0 then ⟨[point? n], taken⟩
    else match Text.hexDigitValue? (byteChar b) with
      | some d => escapedNumber (missing - 1) (16 * n + d) (taken + 1) bs
      | none => ⟨[none], taken⟩
where
  /-- A number as a code point, which may be half of a pair. -/
  point? (n : Nat) : Option Nat := if n ≤ 0x10FFFF then some n else none

/-- The number of digits in base sixteen behind a letter. -/
def escapeDigits? (b : UInt8) : Option Nat :=
  if b = 0x75 then some 4 else if b = 0x55 then some 8 else none

/-- The text with escapes by number only. -/
def rawEscaped : List UInt8 → Decoded :=
  decodeWith fun a bs =>
    if a ≠ 0x5C then .char (byteChar a)
    else match bs with
      | [] => .char '\\'
      | b :: rest =>
        match escapeDigits? b with
        | some digits => escapedNumber digits 0 1 rest
        | none => ⟨decoded ['\\', byteChar b], 1⟩

/-- The characters that letters behind a backslash stand for. -/
def letterEscapes : List (Char × Char) :=
  [('\\', '\\'), ('\'', '\''), ('"', '"'), ('b', '\x08'), ('f', '\x0c'), ('t', '\t'),
   ('n', '\n'), ('r', '\r'), ('v', '\x0b'), ('a', '\x07')]

/-- A digit in base eight. -/
def octalDigit? (b : UInt8) : Option Nat :=
  if 0x30 ≤ b ∧ b ≤ 0x37 then some (b.toNat - 0x30) else none

/-- Reads at most three digits in base eight. -/
def octalEscape (left n taken : Nat) : List UInt8 → Taken
  | [] => ⟨[some n], taken⟩
  | b :: bs =>
    match left, octalDigit? b with
    | left + 1, some d => octalEscape left (8 * n + d) (taken + 1) bs
    | _, _ => ⟨[some n], taken⟩

/-- The escape of a name, behind its letter. -/
def nameEscape (rest : List UInt8) : Taken :=
  match rest with
  | 0x7B :: inside =>
    let name := inside.takeWhile (· ≠ 0x7D)
    if name.length = inside.length then ⟨[none], 2 + name.length⟩
    else if name.isEmpty then ⟨[none], 2⟩
    else ⟨[none], 3 + name.length⟩
  | _ => ⟨[none], 1⟩

/-- The text with all escapes. -/
def escaped : List UInt8 → Decoded :=
  decodeWith fun a bs =>
    if a ≠ 0x5C then .char (byteChar a)
    else match bs with
      | [] => .fault
      | b :: rest =>
        if b = 0x0A then ⟨[], 1⟩
        else if b = 0x78 then escapedNumber 2 0 1 rest
        else if b = 0x4E then nameEscape rest
        else match escapeDigits? b, octalDigit? b, letterEscapes.lookup (byteChar b) with
          | some digits, _, _ => escapedNumber digits 0 1 rest
          | _, some _, _ => octalEscape 3 0 0 bs
          | _, _, some c => ⟨decoded [c], 1⟩
          | _, _, none => ⟨decoded ['\\', byteChar b], 1⟩

end Charset
end ServiceCatalog
