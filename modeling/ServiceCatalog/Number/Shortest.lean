import ServiceCatalog.Number.Double

/-!
# The shortest decimal that reads back

A double is written with the fewest decimal digits from which it can be read again.  All numbers
that round to it form an interval around it, bounded by the midpoints to its two neighbours; the
ends belong to it exactly when its rank is even, because a tie goes to the even rank.

## Why two candidates suffice

Among the decimals with `n` digits the double lies between two neighbours of the grid they form.  If
any of them falls into the interval, then one of these two does.  So for `n = 1, 2, …` the two are
tested, and the first grid with a hit wins; of two hits the nearer one is taken, and of two equally
near ones the even one.  Seventeen digits always suffice.
-/

namespace ServiceCatalog
namespace Double

/-- The value `digits * 10 ^ exponent`. -/
structure Decimal where
  digits : Nat
  exponent : Int

/-- How often a fraction of one can be multiplied by ten and stay below one, which is at most `fuel`
times. -/
def leadingZeros : (fuel u : Nat) → Nat
  | 0, _ => 0
  | fuel + 1, u => if 10 * u < unitsPerOne then 1 + leadingZeros fuel (10 * u) else 0

/-- The place of the decimal point: the exponent `k` with `10 ^ (k - 1) ≤ value < 10 ^ k`, for a
positive number of units. -/
def pointPlace (u : Nat) : Int :=
  if unitsPerOne ≤ u then (Nat.toDigits 10 (u / unitsPerOne)).length
  else -(leadingZeros 330 u : Int)

/-- The decimal with `n` digits that reads back as a rank, if there is one. -/
def withDigits? (rank n : Nat) : Option Decimal :=
  let u := units rank
  let exponent : Int := pointPlace u - n
  let up := Nat.pow 10 exponent.toNat
  let down := Nat.pow 10 (-exponent).toNat
  let grid := 2 * unitsPerOne * up
  let low := (units (rank - 1) + u) * down
  let high := (u + units (rank + 1)) * down
  let value := 2 * u * down
  let first := value / grid
  let inside (c : Nat) : Bool :=
    if rank % 2 = 0 then low ≤ c * grid && c * grid ≤ high
    else low < c * grid && c * grid < high
  let below := value - first * grid
  let above := (first + 1) * grid - value
  match inside first, inside (first + 1) with
  | true, true =>
    if below < above then some ⟨first, exponent⟩
    else if above < below then some ⟨first + 1, exponent⟩
    else if first % 2 = 0 then some ⟨first, exponent⟩ else some ⟨first + 1, exponent⟩
  | true, false => some ⟨first, exponent⟩
  | false, true => some ⟨first + 1, exponent⟩
  | false, false => none

/-- The shortest decimal that reads back as a positive rank. -/
def shortest (rank : Nat) : Decimal :=
  ((List.range' 1 17).findSome? (withDigits? rank)).getD ⟨units rank, 0⟩

end Double
end ServiceCatalog
