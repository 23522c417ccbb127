import ServiceCatalog.Document.Literal
import ServiceCatalog.Proofs.CamelCase
import ServiceCatalog.Proofs.WrittenNumbers

/-!
# The characters of a written number

A written number consists of digits, a sign, a point and an exponent, or it is the name of what is
not finite.  All of its characters but one occur whatever its size.  The plus sign belongs to an
exponent, and an exponent with a plus sign is written from `10 ^ 16` on: `isNumberText_write`.

How the digits are laid out depends on the place of the point of the shortest decimal, and not on
the number itself.  So the statement needs that the shortest decimal is on the same side of
`10 ^ 16` as the number.  Away from `10 ^ 16` this is so because the number itself is a double, and
nothing beyond it rounds to a double on this side.  The double `10 ^ 16` is its own shortest
decimal.
-/

namespace ServiceCatalog
namespace Double

variable {num den rank : Nat} {d : Decimal} {c : Char}

/-! ## The place of the point and the size -/

/-- The place of the point says between which powers of ten a decimal is. -/
theorem lt_point_iff (hdigits : d.digits ≠ 0) (k : Nat) :
    (k : Int) < d.point ↔ 10 ^ k * unitsPerOne * d.den ≤ d.num := by
  constructor
  · intro h
    rw [Nat.mul_right_comm]
    exact Nat.mul_le_mul_right _ (pow_mul_den_le hdigits h)
  · intro h
    by_contra hpoint
    unfold Decimal.point at hpoint
    have hexponent : (Nat.toDigits 10 d.digits).length + d.exponent.toNat ≤
        k + (-d.exponent).toNat := by omega
    have hlt : d.digits * 10 ^ d.exponent.toNat < 10 ^ k * d.den := by
      calc d.digits * 10 ^ d.exponent.toNat
          < 10 ^ (Nat.toDigits 10 d.digits).length * 10 ^ d.exponent.toNat :=
            Nat.mul_lt_mul_of_pos_right (lt_pow_length d.digits) (Nat.pow_pos (by decide))
        _ = 10 ^ ((Nat.toDigits 10 d.digits).length + d.exponent.toNat) :=
            (Nat.pow_add _ _ _).symm
        _ ≤ 10 ^ (k + (-d.exponent).toNat) := Nat.pow_le_pow_right (by decide) hexponent
        _ = 10 ^ k * d.den := Nat.pow_add _ _ _
    rw [Nat.mul_right_comm] at h
    exact absurd h (Nat.not_le.mpr (Nat.mul_lt_mul_of_pos_right hlt unitsPerOne_pos))

/-- What rounds to a smaller rank is smaller than the value of a rank. -/
theorem RoundsTo.lt_of_lt {r : Nat} (h : RoundsTo num den rank) (hden : 0 < den) (hr : rank < r) :
    num < units r * den := by
  have hle : units (rank + 1) ≤ units r := units_strictMono.monotone hr
  have hlt : units rank < units (rank + 1) := units_lt_units_succ rank
  have hsum : (units rank + units (rank + 1)) * den < 2 * units r * den :=
    Nat.mul_lt_mul_of_pos_right (by omega) hden
  rw [Nat.mul_assoc] at hsum
  exact Nat.lt_of_mul_lt_mul_left (h.2.1.trans_lt hsum)

/-- What rounds to a larger rank is larger than the value of a rank. -/
theorem RoundsTo.lt_of_gt {r : Nat} (h : RoundsTo num den rank) (hden : 0 < den) (hr : r < rank) :
    units r * den < num := by
  have hle : units r ≤ units (rank - 1) := units_strictMono.monotone (by omega)
  have hlt : units r < units rank := units_strictMono hr
  have hsum : 2 * units r * den < (units (rank - 1) + units rank) * den :=
    Nat.mul_lt_mul_of_pos_right (by omega) hden
  rw [Nat.mul_assoc] at hsum
  exact Nat.lt_of_mul_lt_mul_left (hsum.trans_le h.1)

/-- The rank of `10 ^ 16`. -/
def tenToSixteen : Nat := 0x4341C37937E08000

theorem units_tenToSixteen : units tenToSixteen = 10 ^ 16 * unitsPerOne := by decide +kernel

theorem point_shortest_tenToSixteen : (shortest tenToSixteen).point = 17 := by decide +kernel

/-- The shortest decimal of a double reaches `10 ^ 16` exactly if the double does. -/
theorem lt_point_shortest_iff (hrank : 0 < rank) :
    16 < (shortest rank).point ↔ 10 ^ 16 * unitsPerOne ≤ units rank := by
  have hrounds := shortest_roundsTo hrank
  have hpoint := lt_point_iff (digits_ne_zero hrank hrounds) 16
  have hden := (shortest rank).den_pos
  rw [← units_tenToSixteen] at hpoint ⊢
  rcases Nat.lt_trichotomy rank tenToSixteen with hlt | rfl | hgt
  · refine iff_of_false (fun h => ?_) (Nat.not_le.mpr (units_strictMono hlt))
    exact absurd (hpoint.mp h) (Nat.not_le.mpr (hrounds.lt_of_lt hden hlt))
  · rw [point_shortest_tenToSixteen]
    exact iff_of_true (by decide) (Nat.le_refl _)
  · exact iff_of_true (hpoint.mpr (Nat.le_of_lt (hrounds.lt_of_gt hden hgt)))
      (Nat.le_of_lt (units_strictMono hgt))

/-! ## The characters -/

/-- A letter, a digit, a sign or a point. -/
def IsNumberChar (c : Char) : Prop := c.isAlphanum = true ∨ c = '-' ∨ c = '.' ∨ c = '+'

/-- A text of such characters, with a plus sign in it exactly under a condition. -/
structure IsNumberText (cs : List Char) (hasPlus : Prop) : Prop where
  chars : ∀ c ∈ cs, IsNumberChar c
  plus : '+' ∈ cs ↔ hasPlus

namespace IsNumberText

variable {cs ds : List Char} {p q : Prop}

theorem of_plain (h : ∀ c ∈ cs, c.isAlphanum = true ∨ c = '.') : IsNumberText cs False where
  chars c hc := (h c hc).imp_right fun hpoint => .inr (.inl hpoint)
  plus := iff_of_false (fun hmem => absurd (h _ hmem) (by decide)) id

theorem of_all (h : cs.all (fun c => c.isAlphanum || c = '.') = true) : IsNumberText cs False :=
  .of_plain fun c hc => by simpa using List.all_eq_true.mp h c hc

theorem of_allDigits (h : Json.AllDigits cs) : IsNumberText cs False :=
  .of_plain fun c hc => .inl (by rw [Char.isAlphanum, h c hc, Bool.or_true])

theorem singleton (h : IsNumberChar c) : IsNumberText [c] (c = '+') where
  chars e he := by rwa [List.mem_singleton.mp he]
  plus := List.mem_singleton.trans eq_comm

theorem append (hcs : IsNumberText cs p) (hds : IsNumberText ds q) :
    IsNumberText (cs ++ ds) (p ∨ q) where
  chars c hc := (List.mem_append.mp hc).elim (hcs.chars c) (hds.chars c)
  plus := by rw [List.mem_append, hcs.plus, hds.plus]

theorem congr (h : IsNumberText cs p) (hpq : p ↔ q) : IsNumberText cs q :=
  ⟨h.chars, h.plus.trans hpq⟩

end IsNumberText

theorem isNumberText_sign (negative : Bool) :
    IsNumberText (if negative then ['-'] else []) False := by
  cases negative with
  | false => exact .of_plain nofun
  | true => exact (IsNumberText.singleton (.inr (.inl rfl))).congr (iff_of_false (by decide) id)

section layouts

variable {ds : List Char} (hc : c ≠ '0') (hall : Json.AllDigits (c :: ds))
include hc hall

theorem isNumberText_positional (point : Int) :
    IsNumberText (positional (c :: ds) point) False := by
  obtain ⟨whole, places, htext, hwhole, -, hplaces, -⟩ := Json.exists_positional hc hall point
  have hdigits : Json.AllDigits whole := by
    cases hwhole with
    | zero => exact Json.allDigits_zeros 1
    | digits _ h => exact h
  have hpoint : IsNumberText ['.'] False := .of_plain (by simp)
  have happend := (IsNumberText.of_allDigits hdigits).append
    (hpoint.append (.of_allDigits hplaces))
  rw [htext]
  exact happend.congr (by simp)

/-- The exponent has a sign, whichever it is. -/
theorem isNumberText_scientific (width : Nat) (exponent : Int) :
    IsNumberText (scientific width (c :: ds) exponent) (0 ≤ exponent) := by
  obtain ⟨size, htext, -, hplaces, -, hsize, -⟩ :=
    Json.exists_scientific hc hall width exponent
  have hfirst : IsNumberText [c] False :=
    .of_allDigits fun e he => hall e (List.mem_singleton.mp he ▸ List.mem_cons_self)
  have hpointed : IsNumberText (Json.pointed ds) False := by
    cases ds with
    | nil => exact .of_plain nofun
    | cons d ds =>
      have hpoint : IsNumberText ['.'] False := .of_plain (by simp)
      exact (hpoint.append (.of_allDigits hplaces)).congr or_self_iff
  have hletter : IsNumberText ['e'] False := .of_plain (by simp)
  have hsign : IsNumberText [if decide (exponent < 0) then '-' else '+'] (0 ≤ exponent) := by
    by_cases h : exponent < 0
    · rw [decide_eq_true h]
      exact (IsNumberText.singleton (.inr (.inl rfl))).congr (iff_of_false (by decide) (by omega))
    · rw [decide_eq_false h]
      exact (IsNumberText.singleton (.inr (.inr (.inr rfl)))).congr (iff_of_true rfl (by omega))
  have happend := hfirst.append
    (hpointed.append (hletter.append (hsign.append (.of_allDigits hsize))))
  rw [htext]
  exact happend.congr (by simp)

end layouts

/-- A decimal is written with a plus sign from `10 ^ 16` on. -/
theorem isNumberText_decimal (h : d.digits ≠ 0) :
    IsNumberText (writtenDouble.decimal d) (16 < d.point) := by
  obtain ⟨c, ds, hds, hc, hall⟩ := Json.exists_significantDigits h
  have hpoint : ((Nat.toDigits 10 d.digits).length : Int) + d.exponent = d.point := rfl
  have hleast : writtenDouble.leastPositional = -4 := rfl
  have hfirst : writtenDouble.firstScientific = 16 := rfl
  unfold Layout.decimal
  dsimp only
  rw [hds, hpoint, hleast, hfirst]
  split
  · exact (isNumberText_positional hc hall d.point).congr (iff_of_false id (by omega))
  · exact (isNumberText_scientific hc hall _ _).congr (by omega)

/-- A finite double of at least `10 ^ 16`, whatever its sign. -/
def IsVast : Double → Prop
  | .finite _ rank => 10 ^ 16 * unitsPerOne ≤ units rank
  | _ => False

/-- **A double is written with a plus sign exactly if it is vast.** -/
theorem isNumberText_write (x : Double) : IsNumberText (writtenDouble.write x) x.IsVast := by
  cases x with
  | nan => exact .of_all (by decide)
  | infinite negative =>
    exact ((isNumberText_sign negative).append (.of_all (by decide))).congr or_self_iff
  | finite negative rank =>
    refine ((isNumberText_sign negative).append (q := IsVast (finite negative rank)) ?_).congr ?_
    · by_cases hzero : rank.val = 0
      · rw [if_pos hzero]
        have hvast : ¬ IsVast (finite negative rank) := by
          rw [IsVast, hzero]
          decide +kernel
        exact (IsNumberText.of_all (by decide)).congr (iff_of_false id hvast)
      · rw [if_neg hzero]
        have hrank := Nat.pos_of_ne_zero hzero
        have hdigits := digits_ne_zero hrank (shortest_roundsTo hrank)
        exact (isNumberText_decimal hdigits).congr (lt_point_shortest_iff hrank)
    · rw [false_or]

/-- Integers are written without a plus sign. -/
theorem isNumberText_writtenInt (n : Int) : IsNumberText (writtenInt n) False := by
  rw [Json.writtenInt_eq_sign]
  exact ((isNumberText_sign _).append (.of_allDigits (Json.allDigits_toDigits _))).congr or_self_iff

end Double
end ServiceCatalog
