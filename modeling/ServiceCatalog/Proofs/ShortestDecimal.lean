import ServiceCatalog.Proofs.Rounding

/-!
# The shortest decimal reads back

The decimal with which a double is written lies in the interval that rounds to its rank
(`shortest_roundsTo`).  For one that was found on some grid this is what was tested
(`roundsTo_of_withDigits?`); what has to be shown is that one is found.

A grid of seventeen digits is fine enough: the place of the point is chosen such that the value has
a digit other than zero in front (`unitsPerOne_mul_pow_le`), so neighbours on the grid are less than
`10 ^ -16` of the value apart, and the interval is wider than that (`two_mul_units_lt`), because
`2 ^ 53 < 10 ^ 16`.  Of the two neighbours of the value on the grid one is then inside
(`exists_withDigits?`).
-/

namespace ServiceCatalog
namespace Double

variable {rank : Nat} {d : Decimal}

/-! ## The test of a decimal -/

/-- The test of a decimal on a grid. -/
def isInside (rank : Nat) (d : Decimal) : Bool :=
  let grid := 2 * unitsPerOne * 10 ^ d.exponent.toNat
  let low := (units (rank - 1) + units rank) * d.den
  let high := (units rank + units (rank + 1)) * d.den
  if rank % 2 = 0 then low ≤ d.digits * grid && d.digits * grid ≤ high
  else low < d.digits * grid && d.digits * grid < high

theorem mul_grid (d : Decimal) :
    d.digits * (2 * unitsPerOne * 10 ^ d.exponent.toNat) = 2 * d.num := by
  unfold Decimal.num
  ring

/-- The test is that of rounding to the rank. -/
theorem isInside_iff : isInside rank d = true ↔ RoundsTo d.num d.den rank := by
  unfold isInside
  dsimp only
  rw [mul_grid]
  constructor
  · intro h
    split at h
    next heven =>
      rw [Bool.and_eq_true, decide_eq_true_eq, decide_eq_true_eq] at h
      exact ⟨h.1, h.2, fun hodd => by omega⟩
    next =>
      rw [Bool.and_eq_true, decide_eq_true_eq, decide_eq_true_eq] at h
      exact ⟨Nat.le_of_lt h.1, Nat.le_of_lt h.2, fun _ => h⟩
  · rintro ⟨hlow, hhigh, hodd⟩
    split
    next => rw [decide_eq_true hlow, decide_eq_true hhigh, Bool.and_self]
    next h =>
      obtain ⟨hlow', hhigh'⟩ := hodd (by omega)
      rw [decide_eq_true hlow', decide_eq_true hhigh', Bool.and_self]

/-- The exponent of the grid with some digits around a rank. -/
def gridExponent (rank n : Nat) : Int := pointPlace (units rank) - n

/-- The decimal with some digits that is the last one at or below the value of a rank. -/
def below (rank n : Nat) : Decimal :=
  ⟨2 * units rank * 10 ^ (-gridExponent rank n).toNat /
    (2 * unitsPerOne * 10 ^ (gridExponent rank n).toNat), gridExponent rank n⟩

/-- The decimal with some digits that is the first one above the value of a rank. -/
def above (rank n : Nat) : Decimal := { below rank n with digits := (below rank n).digits + 1 }

/-- What is found on a grid, given which of the two neighbours passes the test. -/
def found (rank n : Nat) : Bool → Bool → Option Decimal
  | true, true =>
    let here := 2 * units rank * 10 ^ (-gridExponent rank n).toNat
    let grid := 2 * unitsPerOne * 10 ^ (gridExponent rank n).toNat
    let first := (below rank n).digits
    if here - first * grid < (first + 1) * grid - here then some (below rank n)
    else if (first + 1) * grid - here < here - first * grid then some (above rank n)
    else if first % 2 = 0 then some (below rank n) else some (above rank n)
  | true, false => some (below rank n)
  | false, true => some (above rank n)
  | false, false => none

theorem withDigits?_eq (rank n : Nat) :
    withDigits? rank n =
      found rank n (isInside rank (below rank n)) (isInside rank (above rank n)) := rfl

/-- One of the two neighbours of a value is found if one of them passes the test, and what is found
has passed it. -/
theorem withDigits?_cases (rank n : Nat) :
    (withDigits? rank n = none ∧ isInside rank (below rank n) = false ∧
      isInside rank (above rank n) = false) ∨
    ∃ d, withDigits? rank n = some d ∧ isInside rank d = true := by
  rw [withDigits?_eq]
  cases hbelow : isInside rank (below rank n) <;> cases habove : isInside rank (above rank n)
  · exact .inl ⟨rfl, rfl, rfl⟩
  · exact .inr ⟨_, rfl, habove⟩
  · exact .inr ⟨_, rfl, hbelow⟩
  · right
    dsimp only [found]
    split
    · exact ⟨_, rfl, hbelow⟩
    · split
      · exact ⟨_, rfl, habove⟩
      · split
        · exact ⟨_, rfl, hbelow⟩
        · exact ⟨_, rfl, habove⟩

/-! ## The place of the point -/

theorem unitsPerOne_le_mul_pow {fuel u : Nat} (h : unitsPerOne ≤ u * 10 ^ (fuel + 1)) :
    unitsPerOne ≤ u * 10 ^ (leadingZeros fuel u + 1) := by
  induction fuel generalizing u with
  | zero => exact h
  | succ fuel ih =>
    unfold leadingZeros
    split
    · have hstep : unitsPerOne ≤ 10 * u * 10 ^ (fuel + 1) := by
        rw [Nat.mul_comm 10, Nat.mul_assoc, ← Nat.pow_succ']
        exact h
      calc unitsPerOne ≤ 10 * u * 10 ^ (leadingZeros fuel (10 * u) + 1) := ih hstep
        _ = u * 10 ^ (1 + leadingZeros fuel (10 * u) + 1) := by
          rw [Nat.mul_comm 10, Nat.mul_assoc, ← Nat.pow_succ', Nat.add_comm 1]
    · rw [Nat.zero_add, Nat.pow_one, Nat.mul_comm]
      omega

/-- The value has a digit other than zero in front of its point, once that is moved to its place. -/
theorem unitsPerOne_mul_pow_le {u : Nat} (h : 0 < u) :
    unitsPerOne * 10 ^ (pointPlace u - 1).toNat ≤ u * 10 ^ (1 - pointPlace u).toNat := by
  unfold pointPlace
  split
  next hone =>
    have hne : u / unitsPerOne ≠ 0 := Nat.pos_iff_ne_zero.mp (Nat.div_pos hone unitsPerOne_pos)
    have hlength := Nat.length_toDigits_pos (b := 10) (n := u / unitsPerOne)
    have hfront := pow_length_le hne
    rw [Nat.le_div_iff_mul_le unitsPerOne_pos, Nat.mul_comm] at hfront
    generalize (Nat.toDigits 10 (u / unitsPerOne)).length = length at hlength hfront
    rw [show ((length : Int) - 1).toNat = length - 1 by omega,
      show (1 - (length : Int)).toNat = 0 by omega, Nat.pow_zero, Nat.mul_one]
    exact hfront
  next hone =>
    have hall : unitsPerOne ≤ u * 10 ^ (330 + 1) := by
      have hbig : unitsPerOne ≤ 10 ^ (330 + 1) := by decide +kernel
      exact hbig.trans (Nat.le_mul_of_pos_left _ h)
    have hzeros := unitsPerOne_le_mul_pow hall
    generalize leadingZeros 330 u = zeros at hzeros
    rw [show (-(zeros : Int) - 1).toNat = 0 by omega,
      show (1 - -(zeros : Int)).toNat = zeros + 1 by omega, Nat.pow_zero, Nat.mul_one]
    exact hzeros

/-! ## Seventeen digits suffice -/

/-- Neighbours on a grid of seventeen digits are nearer to each other than those of a rank. -/
theorem grid_lt (h : 0 < rank) :
    2 * unitsPerOne * 10 ^ (gridExponent rank 17).toNat <
      (units (rank + 1) - units (rank - 1)) * 10 ^ (-gridExponent rank 17).toNat := by
  have hfront := unitsPerOne_mul_pow_le (units_pos h)
  have hspan : 2 * units rank < (units (rank + 1) - units (rank - 1)) * 10 ^ 16 :=
    (two_mul_units_lt h).trans_le (Nat.mul_le_mul_left _ (by decide))
  have hexponent : (gridExponent rank 17).toNat + 16 + (1 - pointPlace (units rank)).toNat =
      (pointPlace (units rank) - 1).toNat + (-gridExponent rank 17).toNat := by
    unfold gridExponent
    omega
  generalize (gridExponent rank 17).toNat = up at hexponent ⊢
  generalize (-gridExponent rank 17).toNat = down at hexponent ⊢
  generalize (1 - pointPlace (units rank)).toNat = b at hfront hexponent
  generalize (pointPlace (units rank) - 1).toNat = a at hfront hexponent
  generalize units (rank + 1) - units (rank - 1) = span at hspan ⊢
  refine Nat.lt_of_mul_lt_mul_right (a := 10 ^ (16 + b)) ?_
  calc 2 * unitsPerOne * 10 ^ up * 10 ^ (16 + b)
      = 2 * (unitsPerOne * 10 ^ a) * 10 ^ down := by
        rw [Nat.mul_assoc, ← Nat.pow_add, ← Nat.add_assoc, hexponent, Nat.pow_add, Nat.mul_assoc,
          Nat.mul_assoc, Nat.mul_assoc]
    _ ≤ 2 * (units rank * 10 ^ b) * 10 ^ down :=
      Nat.mul_le_mul_right _ (Nat.mul_le_mul_left 2 hfront)
    _ = 2 * units rank * (10 ^ b * 10 ^ down) := by ring
    _ < span * 10 ^ 16 * (10 ^ b * 10 ^ down) :=
      Nat.mul_lt_mul_of_pos_right hspan (Nat.mul_pos (Nat.pow_pos (by decide))
        (Nat.pow_pos (by decide)))
    _ = span * 10 ^ down * 10 ^ (16 + b) := by
      rw [Nat.pow_add]
      ring

/-- A decimal strictly between the ends of the interval passes the test. -/
theorem isInside_of_lt
    (hlow : (units (rank - 1) + units rank) * d.den <
      d.digits * (2 * unitsPerOne * 10 ^ d.exponent.toNat))
    (hhigh : d.digits * (2 * unitsPerOne * 10 ^ d.exponent.toNat) <
      (units rank + units (rank + 1)) * d.den) : isInside rank d = true := by
  rw [mul_grid] at hlow hhigh
  exact isInside_iff.mpr ⟨Nat.le_of_lt hlow, Nat.le_of_lt hhigh, fun _ => ⟨hlow, hhigh⟩⟩

/-- On a grid that is finer than the interval is wide, one of the neighbours of its middle is inside
of it. -/
theorem neighbour_inside {prev here next first grid : Nat} (hprev : prev < here)
    (hnext : here < next) (hgrid : grid < next - prev) (hfirst : first * grid ≤ 2 * here)
    (hsecond : 2 * here < (first + 1) * grid) :
    (prev + here < first * grid ∧ first * grid < here + next) ∨
      (prev + here < (first + 1) * grid ∧ (first + 1) * grid < here + next) := by
  have hstep : (first + 1) * grid = first * grid + grid := Nat.succ_mul first grid
  rcases Nat.lt_or_ge (prev + here) (first * grid) with hinside | hout
  · exact .inl ⟨hinside, by omega⟩
  · exact .inr ⟨by omega, by omega⟩

/-- With seventeen digits a decimal is found. -/
theorem isInside_seventeen (h : 0 < rank) :
    isInside rank (below rank 17) = true ∨ isInside rank (above rank 17) = true := by
  have hden := (below rank 17).den_pos
  have hprev : units (rank - 1) * (below rank 17).den < units rank * (below rank 17).den :=
    Nat.mul_lt_mul_of_pos_right (units_strictMono (by omega)) hden
  have hnext : units rank * (below rank 17).den < units (rank + 1) * (below rank 17).den :=
    Nat.mul_lt_mul_of_pos_right (units_strictMono (by omega)) hden
  have hgrid := grid_lt h
  rw [Nat.sub_mul] at hgrid
  have hpos : 0 < 2 * unitsPerOne * 10 ^ (gridExponent rank 17).toNat :=
    Nat.mul_pos (Nat.mul_pos (by decide) unitsPerOne_pos) (Nat.pow_pos (by decide))
  have hfirst : (below rank 17).digits * (2 * unitsPerOne * 10 ^ (gridExponent rank 17).toNat) ≤
      2 * units rank * (below rank 17).den := Nat.div_mul_le_self _ _
  have hsecond : 2 * units rank * (below rank 17).den < ((below rank 17).digits + 1) *
      (2 * unitsPerOne * 10 ^ (gridExponent rank 17).toNat) := by
    rw [Nat.mul_comm ((below rank 17).digits + 1)]
    exact Nat.lt_mul_div_succ _ hpos
  rw [Nat.mul_assoc 2 (units rank)] at hfirst hsecond
  refine (neighbour_inside hprev hnext hgrid hfirst hsecond).imp (fun h => ?_) (fun h => ?_) <;>
    rw [← Nat.add_mul, ← Nat.add_mul] at h <;>
    exact isInside_of_lt h.1 h.2

/-- **The shortest decimal of a double lies in the interval of its rank.** -/
theorem shortest_roundsTo (h : 0 < rank) :
    RoundsTo (shortest rank).num (shortest rank).den rank := by
  unfold shortest
  cases hfound : (List.range' 1 17).findSome? (withDigits? rank) with
  | some d =>
    obtain ⟨n, -, hn⟩ := List.exists_of_findSome?_eq_some hfound
    rcases withDigits?_cases rank n with ⟨hnone, -⟩ | ⟨d', hd', hinside⟩
    · rw [hn] at hnone
      cases hnone
    · rw [hn] at hd'
      cases hd'
      exact isInside_iff.mp hinside
  | none =>
    have hlast := List.findSome?_eq_none_iff.mp hfound 17 (by decide)
    rcases withDigits?_cases rank 17 with ⟨-, hbelow, habove⟩ | ⟨d, hd, -⟩
    · rcases isInside_seventeen h with hinside | hinside
      · rw [hbelow] at hinside
        cases hinside
      · rw [habove] at hinside
        cases hinside
    · rw [hlast] at hd
      cases hd

end Double
end ServiceCatalog
