/-!
# Base sixty-four

Four characters stand for three bytes.  Characters outside of the alphabet say nothing and are
passed over, so that a text may be broken into lines.  Padding ends a group that has two or three
characters; what stands behind it is not read.  A group that is left open at the end is a fault.
-/

namespace ServiceCatalog
namespace Text

/-- The value of a character of the alphabet. -/
def sextet? (c : Char) : Option Nat :=
  if 'A' ≤ c ∧ c ≤ 'Z' then some (c.toNat - 65)
  else if 'a' ≤ c ∧ c ≤ 'z' then some (c.toNat - 71)
  else if '0' ≤ c ∧ c ≤ '9' then some (c.toNat + 4)
  else if c = '+' then some 62
  else if c = '/' then some 63
  else none

/-- The bytes that characters stand for.  `group` has the values of the current group, the last one
first, and `pads` counts the padding since then. -/
def decodeFrom (group : List Nat) (pads : Nat) : List Char → Option (List UInt8)
  | [] => if group.isEmpty then some [] else none
  | '=' :: cs =>
    if 2 ≤ group.length then
      if 4 ≤ group.length + pads + 1 then some [] else decodeFrom group (pads + 1) cs
    else decodeFrom group pads cs
  | c :: cs =>
    match sextet? c with
    | none => decodeFrom group pads cs
    | some d =>
      match group with
      | [] => decodeFrom [d] 0 cs
      | [a] => (decodeFrom [d, a] 0 cs).map ((a * 4 + d / 16).toUInt8 :: ·)
      | [b, a] => (decodeFrom [d, b, a] 0 cs).map ((b % 16 * 16 + d / 4).toUInt8 :: ·)
      | b :: _ => (decodeFrom [] 0 cs).map ((b % 4 * 64 + d).toUInt8 :: ·)

/-- The bytes that a text in base sixty-four stands for. -/
def decodeBase64? (cs : List Char) : Option (List UInt8) := decodeFrom [] 0 cs

end Text
end ServiceCatalog
