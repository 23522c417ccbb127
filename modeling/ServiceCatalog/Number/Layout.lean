import ServiceCatalog.Number.Shortest

/-!
# Laying out the digits of a double

Which digits a double has is a matter of mathematics; how they are laid out is a matter of taste,
and the two formats of this library share all of it but the names of the numbers that are not
finite.  The taste is one record, `Double.Layout`.
-/

namespace ServiceCatalog
namespace Double

/-- The decisions of a written form of doubles. -/
structure Layout where
  /-- The name of what is not a number. -/
  nanName : String
  /-- The name of positive infinity. -/
  infinityName : String
  /-- The least decimal exponent that is written with zeros instead of an exponent. -/
  leastPositional : Int := -4
  /-- The least decimal exponent above the previous one that is written as an exponent. -/
  firstScientific : Int := 16
  /-- The least number of digits of an exponent. -/
  exponentWidth : Nat := 2

/-- The digits of a number without the zeros at its end. -/
def significantDigits (n : Nat) : List Char :=
  ((Nat.toDigits 10 n).reverse.dropWhile (· == '0')).reverse

/-- Digits with the point at a given place, and a digit on both of its sides. -/
def positional (digits : List Char) (point : Int) : List Char :=
  if point ≤ 0 then '0' :: '.' :: List.replicate (-point).toNat '0' ++ digits
  else
    let place := point.toNat
    if digits.length ≤ place then
      digits ++ List.replicate (place - digits.length) '0' ++ ['.', '0']
    else digits.take place ++ '.' :: digits.drop place

/-- Digits with the point behind the first of them, and the exponent that makes up for it. -/
def scientific (width : Nat) (digits : List Char) (exponent : Int) : List Char :=
  let mantissa := match digits with
    | [] => []
    | [d] => [d]
    | d :: ds => d :: '.' :: ds
  let size := Nat.toDigits 10 exponent.natAbs
  let sign := if exponent < 0 then '-' else '+'
  mantissa ++ 'e' :: sign :: List.replicate (width - size.length) '0' ++ size

/-- A decimal laid out in one of the two ways. -/
def Layout.decimal (layout : Layout) (d : Decimal) : List Char :=
  let all := Nat.toDigits 10 d.digits
  let point : Int := all.length + d.exponent
  let digits := significantDigits d.digits
  if layout.leastPositional ≤ point - 1 ∧ point - 1 < layout.firstScientific then
    positional digits point
  else scientific layout.exponentWidth digits (point - 1)

/-- The written form of a double. -/
def Layout.write (layout : Layout) : Double → List Char
  | .nan => layout.nanName.toList
  | .infinite negative => (if negative then ['-'] else []) ++ layout.infinityName.toList
  | .finite negative rank =>
    (if negative then ['-'] else []) ++
      (if rank.val = 0 then ['0', '.', '0'] else layout.decimal (shortest rank))

end Double
end ServiceCatalog
