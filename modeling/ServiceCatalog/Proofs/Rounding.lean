import ServiceCatalog.Number.Shortest
import Mathlib.Algebra.Order.Ring.Nat
import Mathlib.Tactic.Ring

/-!
# Rounding to a rank

A rank is a place in the chain of the finite doubles, and rounding finds the place that is nearest.
What rounds to a rank is an interval of fractions around its value, which ends halfway to its
neighbours and includes its ends if the rank is even: `RoundsTo num den rank`.  This file shows that
rounding does find the rank (`nearestRank_eq`), so that a proof about what is read from a text is
one about an interval.

The ranks come in groups of `2 ^ 52` that share their spacing (`units_add`), and everything else
follows from that: the values grow with the ranks, `floorRank` finds the rank below a number of
units, and the spacing around a rank is bounded in terms of its value (`two_mul_units_lt`).
-/

namespace ServiceCatalog
namespace Double

/-! ## The values of the ranks -/

theorem units_of_lt {r : Nat} (h : r < 2 ^ 53) : units r = r := by
  have hperiod : Nat.pow 2 52 = 4503599627370496 := rfl
  unfold units
  rw [hperiod]
  exact if_pos (by omega)

/-- The ranks of one group are equally spaced, up to the first one of the next group. -/
theorem units_add {s q : Nat} (hlow : 2 ^ 52 ≤ q) (hhigh : q ≤ 2 ^ 53) :
    units (s * 2 ^ 52 + q) = q * 2 ^ s := by
  have hperiod : Nat.pow 2 52 = 4503599627370496 := rfl
  unfold units
  rw [hperiod]
  dsimp only
  rcases Nat.lt_or_eq_of_le hhigh with hlt | rfl
  · cases s with
    | zero =>
      rw [if_pos (by omega), Nat.pow_zero, Nat.mul_one]
      omega
    | succ s =>
      have hdiv : ((s + 1) * 2 ^ 52 + q) / 4503599627370496 - 1 = s + 1 := by omega
      have hmod : 4503599627370496 + ((s + 1) * 2 ^ 52 + q) % 4503599627370496 = q := by omega
      rw [if_neg (by omega), hdiv, hmod]
      rfl
  · have hdiv : (s * 2 ^ 52 + 2 ^ 53) / 4503599627370496 - 1 = s + 1 := by omega
    have hmod : 4503599627370496 + (s * 2 ^ 52 + 2 ^ 53) % 4503599627370496 = 2 ^ 52 := by omega
    rw [if_neg (by omega), hdiv, hmod]
    show 2 ^ 52 * 2 ^ (s + 1) = 2 ^ 53 * 2 ^ s
    rw [← Nat.pow_add, ← Nat.pow_add, show 52 + (s + 1) = 53 + s by omega]

/-- Every rank from `2 ^ 52` on lies in a group. -/
theorem exists_group {r : Nat} (h : 2 ^ 52 ≤ r) :
    ∃ s q, 2 ^ 52 ≤ q ∧ q < 2 ^ 53 ∧ r = s * 2 ^ 52 + q := by
  refine ⟨r / 2 ^ 52 - 1, 2 ^ 52 + r % 2 ^ 52, ?_, ?_, ?_⟩ <;> omega

theorem units_lt_units_succ (r : Nat) : units r < units (r + 1) := by
  rcases Nat.lt_or_ge r (2 ^ 52) with h | h
  · rw [units_of_lt (by omega), units_of_lt (by omega)]
    exact Nat.lt_succ_self r
  · obtain ⟨s, q, hlow, hhigh, rfl⟩ := exists_group h
    rw [Nat.add_assoc, units_add hlow (by omega), units_add (by omega) (by omega)]
    exact Nat.mul_lt_mul_of_pos_right (Nat.lt_succ_self q) (Nat.two_pow_pos s)

theorem units_strictMono : StrictMono units := strictMono_nat_of_lt_succ units_lt_units_succ

/-- A value is less than `2 ^ 52` times the distance of the two ranks around it. -/
theorem two_mul_units_lt {r : Nat} (h : 0 < r) :
    2 * units r < (units (r + 1) - units (r - 1)) * 2 ^ 53 := by
  rcases Nat.lt_or_ge r (2 ^ 52) with hr | hr
  · rw [units_of_lt (by omega), units_of_lt (by omega), units_of_lt (by omega)]
    omega
  · obtain ⟨s, q, hlow, hhigh, rfl⟩ := exists_group hr
    have hnext : units (s * 2 ^ 52 + q + 1) = (q + 1) * 2 ^ s := by
      rw [Nat.add_assoc]
      exact units_add (by omega) (by omega)
    have hpos : 0 < 2 ^ s := Nat.two_pow_pos s
    rw [hnext, units_add hlow (by omega)]
    rcases Nat.lt_or_eq_of_le hlow with hlt | heq
    · have hprev : units (s * 2 ^ 52 + q - 1) = (q - 1) * 2 ^ s := by
        rw [show s * 2 ^ 52 + q - 1 = s * 2 ^ 52 + (q - 1) by omega]
        exact units_add (by omega) (by omega)
      rw [hprev, ← Nat.sub_mul, show q + 1 - (q - 1) = 2 by omega]
      have hspan := Nat.mul_lt_mul_of_pos_right hhigh hpos
      omega
    · subst heq
      cases s with
      | zero =>
        rw [Nat.zero_mul, Nat.zero_add, units_of_lt (by omega)]
        omega
      | succ s =>
        -- The rank below is the last one of the group before, whose spacing is half as wide.
        have hprev : units ((s + 1) * 2 ^ 52 + 2 ^ 52 - 1) = (2 ^ 53 - 1) * 2 ^ s := by
          rw [show (s + 1) * 2 ^ 52 + 2 ^ 52 - 1 = s * 2 ^ 52 + (2 ^ 53 - 1) by omega]
          exact units_add (by omega) (by omega)
        rw [hprev, Nat.pow_succ]
        have hpos' : 0 < 2 ^ s := Nat.two_pow_pos s
        omega

/-! ## The rank below a number of units -/

/-- `floorRank` finds the rank whose value is at most a number of units, and the next one above. -/
theorem units_floorRank (u : Nat) :
    units (floorRank u) ≤ u ∧ u < units (floorRank u + 1) := by
  rcases Nat.lt_or_ge u (2 ^ 52) with hu | hu
  · have hlog : u.log2 - 52 = 0 := by
      rcases Nat.eq_zero_or_pos u with rfl | hpos
      · rfl
      · have := (Nat.log2_lt (Nat.pos_iff_ne_zero.mp hpos)).mpr hu
        omega
    have hrank : floorRank u = u := by
      unfold floorRank
      dsimp only
      rw [hlog, Nat.zero_mul, Nat.zero_add]
      exact Nat.div_one u
    rw [hrank, units_of_lt (by omega), units_of_lt (by omega)]
    omega
  · have hne : u ≠ 0 := by omega
    have hlog : 52 ≤ u.log2 := (Nat.le_log2 hne).mpr hu
    have hsplit : 2 ^ u.log2 = 2 ^ 52 * 2 ^ (u.log2 - 52) := by
      rw [← Nat.pow_add, Nat.add_sub_of_le hlog]
    have hpos : 0 < 2 ^ (u.log2 - 52) := Nat.two_pow_pos _
    have hlow : 2 ^ 52 ≤ u / 2 ^ (u.log2 - 52) := by
      rw [Nat.le_div_iff_mul_le hpos, ← hsplit]
      exact Nat.log2_self_le hne
    have hhigh : u / 2 ^ (u.log2 - 52) < 2 ^ 53 := by
      rw [Nat.div_lt_iff_lt_mul hpos, show 2 ^ 53 = 2 * 2 ^ 52 from rfl, Nat.mul_assoc, ← hsplit,
        Nat.mul_comm, ← Nat.pow_succ]
      exact Nat.lt_log2_self
    have hrank : floorRank u = (u.log2 - 52) * 2 ^ 52 + u / 2 ^ (u.log2 - 52) := rfl
    rw [hrank, Nat.add_assoc, units_add hlow (by omega), units_add (by omega) (by omega)]
    refine ⟨Nat.div_mul_le_self _ _, ?_⟩
    rw [Nat.mul_comm]
    exact Nat.lt_mul_div_succ u hpos

/-! ## What rounds to a rank -/

/-- The fraction of two numbers, in units, is at least as near to a rank as to any other; halfway
between two ranks it belongs to the even one. -/
def RoundsTo (num den rank : Nat) : Prop :=
  (units (rank - 1) + units rank) * den ≤ 2 * num ∧
    2 * num ≤ (units rank + units (rank + 1)) * den ∧
    (rank % 2 = 1 → (units (rank - 1) + units rank) * den < 2 * num ∧
      2 * num < (units rank + units (rank + 1)) * den)

section RoundsTo

variable {num den rank : Nat}

/-- Two fractions of one value are on the same side of every number. -/
theorem compare_iff {num' den' : Nat} (hden : 0 < den) (hden' : 0 < den')
    (heq : num * den' = num' * den) (a : Nat) :
    (a * den ≤ 2 * num ↔ a * den' ≤ 2 * num') ∧ (2 * num ≤ a * den ↔ 2 * num' ≤ a * den') := by
  have hscale : 2 * num * den' = 2 * num' * den := by
    rw [Nat.mul_assoc, heq, Nat.mul_assoc]
  constructor <;> rw [← Nat.mul_le_mul_right_iff hden', hscale, Nat.mul_right_comm a,
    Nat.mul_le_mul_right_iff hden]

/-- Rounding is a matter of the fraction alone. -/
theorem RoundsTo.of_eq {num' den' : Nat} (h : RoundsTo num den rank) (hden : 0 < den)
    (hden' : 0 < den') (heq : num * den' = num' * den) : RoundsTo num' den' rank := by
  have hsame := compare_iff hden hden' heq
  obtain ⟨hlow, hhigh, hodd⟩ := h
  refine ⟨(hsame _).1.mp hlow, (hsame _).2.mp hhigh, fun h => ?_⟩
  obtain ⟨hlow', hhigh'⟩ := hodd h
  rw [← Nat.not_le] at hlow' hhigh'
  rw [← Nat.not_le, ← Nat.not_le]
  exact ⟨mt (hsame _).2.mpr hlow', mt (hsame _).1.mpr hhigh'⟩

/-- **Rounding finds the rank.** -/
theorem nearestRank_eq (hden : 0 < den) (hrank : 0 < rank) (h : RoundsTo num den rank) :
    nearestRank num den = rank := by
  obtain ⟨hlow, hhigh, hodd⟩ := h
  rw [Nat.add_mul] at hlow hhigh
  rw [Nat.add_mul, Nat.add_mul] at hodd
  have hprev : units (rank - 1) * den < units rank * den :=
    Nat.mul_lt_mul_of_pos_right (units_strictMono (by omega)) hden
  have hnext : units rank * den < units (rank + 1) * den :=
    Nat.mul_lt_mul_of_pos_right (units_strictMono (by omega)) hden
  obtain ⟨hfloor, hceil⟩ := units_floorRank (num / den)
  rw [Nat.le_div_iff_mul_le hden] at hfloor
  rw [Nat.div_lt_iff_lt_mul hden] at hceil
  -- The rank below the fraction is the sought one or the one before it.
  have hle : floorRank (num / den) < rank + 1 :=
    units_strictMono.lt_iff_lt.mp (Nat.lt_of_mul_lt_mul_right (a := den) (by omega))
  have hge : rank - 1 < floorRank (num / den) + 1 :=
    units_strictMono.lt_iff_lt.mp (Nat.lt_of_mul_lt_mul_right (a := den) (by omega))
  unfold nearestRank
  dsimp only
  rcases (by omega : floorRank (num / den) = rank ∨ floorRank (num / den) = rank - 1) with
    heq | heq
  · rw [heq, Nat.sub_mul]
    split
    · rfl
    · rw [if_neg (by omega), if_pos (by omega)]
  · rw [heq, Nat.sub_add_cancel hrank, Nat.sub_mul]
    rw [if_neg (by omega)]
    split
    · rfl
    · rw [if_neg (by omega)]

/-- A fraction of units with a sign is read as the double of its rank. -/
theorem ofUnits_eq {negative : Bool} (hden : 0 < den) (hrank : 0 < rank)
    (hfinite : rank < finiteRanks) (h : RoundsTo num den rank) :
    ofUnits negative num den = .finite negative ⟨rank, hfinite⟩ := by
  have hnearest := nearestRank_eq hden hrank h
  unfold ofUnits
  rw [dif_pos (hnearest ▸ hfinite)]
  simp only [hnearest]

end RoundsTo

theorem ofUnits_zero (negative : Bool) :
    ofUnits negative 0 1 = .finite negative ⟨0, by decide⟩ := by
  have hnearest : nearestRank 0 1 = 0 := by decide +kernel
  unfold ofUnits
  rw [dif_pos (by rw [hnearest]; decide)]
  simp only [hnearest]

/-! ## Decimals -/

namespace Decimal

/-- The value of a decimal in units, above the line. -/
def num (d : Decimal) : Nat := d.digits * 10 ^ d.exponent.toNat * unitsPerOne

/-- The value of a decimal in units, below the line. -/
def den (d : Decimal) : Nat := 10 ^ (-d.exponent).toNat

theorem den_pos (d : Decimal) : 0 < d.den := Nat.pow_pos (by decide)

/-- Two decimals have the same value. -/
def SameValue (d e : Decimal) : Prop := d.num * e.den = e.num * d.den

/-- The point of a decimal may be moved over zeros at its end. -/
theorem SameValue.of_shift (n k : Nat) (x : Int) : SameValue ⟨n * 10 ^ k, x⟩ ⟨n, x + k⟩ := by
  have hexponent : k + x.toNat + (-(x + k)).toNat = (x + k).toNat + (-x).toNat := by omega
  unfold SameValue num den
  dsimp only
  calc n * 10 ^ k * 10 ^ x.toNat * unitsPerOne * 10 ^ (-(x + k)).toNat
      = n * unitsPerOne * 10 ^ (k + x.toNat + (-(x + k)).toNat) := by
        rw [Nat.pow_add, Nat.pow_add]
        ring
    _ = n * 10 ^ (x + k).toNat * unitsPerOne * 10 ^ (-x).toNat := by
        rw [hexponent, Nat.pow_add]
        ring

theorem SameValue.symm {d e : Decimal} (h : SameValue d e) : SameValue e d := Eq.symm h

theorem SameValue.roundsTo {d e : Decimal} {rank : Nat} (h : SameValue d e)
    (hd : RoundsTo d.num d.den rank) : RoundsTo e.num e.den rank :=
  hd.of_eq d.den_pos e.den_pos h

/-- The place of the decimal point of a decimal. -/
def point (d : Decimal) : Int := (Nat.toDigits 10 d.digits).length + d.exponent

end Decimal

theorem unitsPerOne_pos : 0 < unitsPerOne := by decide +kernel

section ofDecimal

variable {d : Decimal} {rank : Nat}

theorem lt_pow_length (n : Nat) : n < 10 ^ (Nat.toDigits 10 n).length :=
  (Nat.length_toDigits_le_iff (by decide) Nat.length_toDigits_pos).mp (Nat.le_refl _)

theorem pow_length_le {n : Nat} (h : n ≠ 0) : 10 ^ ((Nat.toDigits 10 n).length - 1) ≤ n := by
  rcases Nat.eq_zero_or_pos ((Nat.toDigits 10 n).length - 1) with hzero | hpos
  · rw [hzero, Nat.pow_zero]
    exact Nat.pos_of_ne_zero h
  · refine Nat.le_of_not_lt fun hlt => ?_
    have hlength := (Nat.length_toDigits_le_iff (by decide) hpos).mpr hlt
    omega

theorem units_pos (h : 0 < rank) : 0 < units rank :=
  Nat.lt_of_le_of_lt (Nat.zero_le _) (units_strictMono h)

theorem digits_ne_zero (hrank : 0 < rank) (h : RoundsTo d.num d.den rank) : d.digits ≠ 0 := by
  intro hzero
  have hnum : d.num = 0 := by
    unfold Decimal.num
    rw [hzero, Nat.zero_mul, Nat.zero_mul]
  have hlow := h.1
  have hpos : 0 < (units (rank - 1) + units rank) * d.den :=
    Nat.mul_pos (Nat.add_pos_right _ (units_pos hrank)) d.den_pos
  omega

/-- The place of the point bounds the value from below. -/
theorem pow_mul_den_le {k : Nat} (hdigits : d.digits ≠ 0) (h : (k : Int) < d.point) :
    10 ^ k * d.den ≤ d.digits * 10 ^ d.exponent.toNat := by
  unfold Decimal.point at h
  have hexponent : k + (-d.exponent).toNat ≤
      (Nat.toDigits 10 d.digits).length - 1 + d.exponent.toNat := by omega
  calc 10 ^ k * d.den = 10 ^ (k + (-d.exponent).toNat) := (Nat.pow_add _ _ _).symm
    _ ≤ 10 ^ ((Nat.toDigits 10 d.digits).length - 1 + d.exponent.toNat) :=
      Nat.pow_le_pow_right (by decide) hexponent
    _ = 10 ^ ((Nat.toDigits 10 d.digits).length - 1) * 10 ^ d.exponent.toNat := Nat.pow_add _ _ _
    _ ≤ d.digits * 10 ^ d.exponent.toNat := Nat.mul_le_mul_right _ (pow_length_le hdigits)

/-- The place of the point bounds the value from above. -/
theorem mul_pow_le_den {k : Nat} (h : d.point + k ≤ 0) :
    d.digits * 10 ^ d.exponent.toNat * 10 ^ k ≤ d.den := by
  unfold Decimal.point at h
  have hexponent : (Nat.toDigits 10 d.digits).length + d.exponent.toNat + k ≤
      (-d.exponent).toNat := by omega
  calc d.digits * 10 ^ d.exponent.toNat * 10 ^ k
      ≤ 10 ^ (Nat.toDigits 10 d.digits).length * 10 ^ d.exponent.toNat * 10 ^ k :=
        Nat.mul_le_mul_right _ (Nat.mul_le_mul_right _ (Nat.le_of_lt (lt_pow_length d.digits)))
    _ = 10 ^ ((Nat.toDigits 10 d.digits).length + d.exponent.toNat + k) := by
      rw [← Nat.pow_add, ← Nat.pow_add]
    _ ≤ d.den := Nat.pow_le_pow_right (by decide) hexponent

/-- What rounds to a finite rank has at most 310 digits before its point. -/
theorem point_le (hrank : 0 < rank) (hfinite : rank < finiteRanks)
    (h : RoundsTo d.num d.den rank) : d.point ≤ 310 := by
  refine Int.not_lt.mp fun hlarge => ?_
  have hlow := Nat.mul_le_mul_right unitsPerOne
    (pow_mul_den_le (digits_ne_zero hrank h) (k := 310) hlarge)
  have hend : units rank + units (rank + 1) ≤ 2 * units finiteRanks := by
    have hle := units_strictMono.monotone (Nat.le_of_lt hfinite)
    have hle' : units (rank + 1) ≤ units finiteRanks := units_strictMono.monotone hfinite
    omega
  have hhigh : 2 * d.num ≤ 2 * units finiteRanks * d.den :=
    h.2.1.trans (Nat.mul_le_mul_right d.den hend)
  have hbig : units finiteRanks < 10 ^ 310 * unitsPerOne := by decide +kernel
  refine absurd hlow (Nat.not_le.mpr ?_)
  calc d.num ≤ units finiteRanks * d.den := by
        rw [Nat.mul_assoc] at hhigh
        exact Nat.le_of_mul_le_mul_left hhigh (by decide)
    _ < 10 ^ 310 * unitsPerOne * d.den := Nat.mul_lt_mul_of_pos_right hbig d.den_pos
    _ = 10 ^ 310 * d.den * unitsPerOne := Nat.mul_right_comm _ _ _

/-- What rounds to a positive rank starts at most 330 places behind its point. -/
theorem le_point (hrank : 0 < rank) (h : RoundsTo d.num d.den rank) : -330 ≤ d.point := by
  refine Int.not_lt.mp fun hsmall => ?_
  have hhigh := Nat.mul_le_mul_right unitsPerOne (mul_pow_le_den (d := d) (k := 331) (by omega))
  have hlow : d.den ≤ 2 * d.num := by
    refine (Nat.le_mul_of_pos_left d.den ?_).trans h.1
    exact Nat.add_pos_right _ (units_pos hrank)
  have hbig : 2 * unitsPerOne < 10 ^ 331 := by decide +kernel
  refine absurd (Nat.mul_le_mul_right (10 ^ 331) hlow) (Nat.not_le.mpr ?_)
  calc 2 * d.num * 10 ^ 331 = 2 * (d.digits * 10 ^ d.exponent.toNat * 10 ^ 331 * unitsPerOne) := by
        rw [Decimal.num, Nat.mul_assoc, Nat.mul_right_comm]
    _ ≤ 2 * (d.den * unitsPerOne) := Nat.mul_le_mul_left 2 hhigh
    _ = d.den * (2 * unitsPerOne) := by ring
    _ < d.den * 10 ^ 331 := (Nat.mul_lt_mul_left d.den_pos).mpr hbig

/-- **A decimal in the interval of a rank is read as its double.** -/
theorem ofDecimal_eq {negative : Bool} (hrank : 0 < rank) (hfinite : rank < finiteRanks)
    (h : RoundsTo d.num d.den rank) :
    ofDecimal negative d.digits d.exponent = .finite negative ⟨rank, hfinite⟩ := by
  have hdigits := digits_ne_zero hrank h
  have hhigh := point_le hrank hfinite h
  have hlow := le_point hrank h
  have hunits : ofUnits negative d.num d.den = .finite negative ⟨rank, hfinite⟩ :=
    ofUnits_eq d.den_pos hrank hfinite h
  unfold ofDecimal
  unfold Decimal.point at hhigh hlow
  dsimp only
  rw [if_neg hdigits, if_neg (by omega), if_neg (by omega), ← hunits]
  unfold Decimal.num Decimal.den
  cases d.exponent with
  | ofNat e =>
    have hpositive : (Int.ofNat e).toNat = e := rfl
    have hnegative : (-Int.ofNat e).toNat = 0 := Int.toNat_neg_natCast e
    rw [hpositive, hnegative, Nat.pow_zero]
    rfl
  | negSucc e =>
    have hpositive : (Int.negSucc e).toNat = 0 := rfl
    have hnegative : (-Int.negSucc e).toNat = e + 1 := rfl
    rw [hpositive, hnegative, Nat.pow_zero, Nat.mul_one]
    rfl

end ofDecimal

end Double
end ServiceCatalog
