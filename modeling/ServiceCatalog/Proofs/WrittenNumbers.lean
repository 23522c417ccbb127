import ServiceCatalog.Json.Reader
import ServiceCatalog.Json.Writer
import ServiceCatalog.Proofs.ShortestDecimal
import Mathlib.Data.List.TakeWhile

/-!
# Numbers that are read back

The two kinds of numbers in JSON text are told apart by their form: an integer is a run of digits,
and a double has a point or an exponent, whatever its value.  So each of them is read as what it
was (`value_writtenInt`, `value_write`), provided that nothing behind it could go on with it
(`EndsNumber`).

A double is laid out in one of several ways.  All of them leave away the zeros at the end of the
digits and move the point, and a reader makes of each the same digits with another exponent.  That
changes the decimal but not its value (`Decimal.SameValue`), and only the value counts, since that
lies in the interval of the double.
-/

namespace ServiceCatalog
namespace Json

open Double

variable {ds rest : List Char}

/-! ## Runs of digits -/

theorem foldl_digits (n : Nat) (ds : List Char) :
    ds.foldl (fun n d => 10 * n + (d.toNat - 48)) n = n * 10 ^ ds.length + digitsValue ds := by
  unfold digitsValue
  induction ds generalizing n with
  | nil => simp
  | cons d ds ih =>
    rw [List.foldl_cons, List.foldl_cons, ih, ih (10 * 0 + (d.toNat - 48)), List.length_cons,
      Nat.pow_succ]
    ring

theorem digitsValue_append (ds es : List Char) :
    digitsValue (ds ++ es) = digitsValue ds * 10 ^ es.length + digitsValue es := by
  rw [digitsValue, List.foldl_append]
  exact foldl_digits (digitsValue ds) es

theorem digitsValue_zeros (n : Nat) : digitsValue (List.replicate n '0') = 0 := by
  induction n with
  | zero => rfl
  | succ n ih =>
    rw [List.replicate_succ, ← List.singleton_append, digitsValue_append, ih]
    exact Nat.zero_mul _

/-- Zeros in front of digits change nothing. -/
theorem digitsValue_zeros_append (n : Nat) (ds : List Char) :
    digitsValue (List.replicate n '0' ++ ds) = digitsValue ds := by
  rw [digitsValue_append, digitsValue_zeros, Nat.zero_mul, Nat.zero_add]

theorem digitsValue_digitChar {d : Nat} (h : d < 10) : digitsValue [d.digitChar] = d := by
  have all : ∀ e < 10, digitsValue [Nat.digitChar e] = e := by decide
  exact all d h

/-- The digits of a number write it. -/
theorem digitsValue_toDigits (n : Nat) : digitsValue (Nat.toDigits 10 n) = n := by
  induction n using Nat.strongRecOn with
  | _ n ih =>
    rcases Nat.lt_or_ge n 10 with h | h
    · rw [Nat.toDigits_of_lt_base h, digitsValue_digitChar h]
    · rw [Nat.toDigits_of_base_le (by decide) h, digitsValue_append, ih (n / 10) (by omega),
        digitsValue_digitChar (Nat.mod_lt n (by decide)), List.length_singleton]
      omega

/-- The digits of a positive number do not start with a zero. -/
theorem exists_toDigits {n : Nat} (h : n ≠ 0) :
    ∃ c ds, Nat.toDigits 10 n = c :: ds ∧ c ≠ '0' := by
  induction n using Nat.strongRecOn with
  | _ n ih =>
    rcases Nat.lt_or_ge n 10 with hlt | hge
    · have all : ∀ e < 10, e ≠ 0 → Nat.digitChar e ≠ '0' := by decide
      exact ⟨n.digitChar, [], Nat.toDigits_of_lt_base hlt, all n hlt h⟩
    · obtain ⟨c, ds, hds, hc⟩ := ih (n / 10) (by omega) (by omega)
      refine ⟨c, ds ++ [(n % 10).digitChar], ?_, hc⟩
      rw [Nat.toDigits_of_base_le (by decide) hge, hds, List.cons_append]

/-- Characters that are all digits. -/
def AllDigits (ds : List Char) : Prop := ∀ c ∈ ds, c.isDigit = true

theorem allDigits_toDigits (n : Nat) : AllDigits (Nat.toDigits 10 n) :=
  fun _ h => Nat.isDigit_of_mem_toDigits (by decide) (by decide) h

theorem allDigits_zeros (n : Nat) : AllDigits (List.replicate n '0') := by
  intro c hc
  rw [List.eq_of_mem_replicate hc]
  rfl

theorem AllDigits.append {es : List Char} (hds : AllDigits ds) (hes : AllDigits es) :
    AllDigits (ds ++ es) := by
  intro c hc
  rcases List.mem_append.mp hc with h | h
  · exact hds c h
  · exact hes c h

/-- Characters that no number can go on with. -/
def EndsNumber (rest : List Char) : Prop :=
  ∀ c ∈ rest.head?, c.isDigit = false ∧ c ≠ '.' ∧ c ≠ 'e' ∧ c ≠ 'E'

/-- A run of digits is taken whole, and no more. -/
theorem span_digits (hds : AllDigits ds) (hrest : ∀ c ∈ rest.head?, c.isDigit = false) :
    (ds ++ rest).takeWhile Char.isDigit = ds ∧ (ds ++ rest).dropWhile Char.isDigit = rest := by
  rw [List.takeWhile_append_of_pos hds, List.dropWhile_append_of_pos hds]
  cases rest with
  | nil => exact ⟨List.append_nil ds, rfl⟩
  | cons c rest =>
    have hc : ¬ c.isDigit = true := by
      rw [hrest c rfl]
      exact Bool.false_ne_true
    rw [List.takeWhile_cons_of_neg hc, List.dropWhile_cons_of_neg hc]
    exact ⟨List.append_nil ds, rfl⟩

/-! ## The parts of a number -/

/-- The digits in front of the point: a single zero, or digits that do not start with one. -/
inductive IsWhole : List Char → Prop
  | zero : IsWhole ['0']
  | digits {c : Char} {ds : List Char} (hne : c ≠ '0') (hall : AllDigits (c :: ds)) :
      IsWhole (c :: ds)

theorem wholePart?_append {whole : List Char} (h : IsWhole whole)
    (hrest : ∀ c ∈ rest.head?, c.isDigit = false) :
    wholePart? (whole ++ rest) = some (whole, rest) := by
  cases h with
  | zero => rfl
  | digits hne hall =>
    obtain ⟨htake, hdrop⟩ := span_digits hall hrest
    rw [List.cons_append] at htake hdrop ⊢
    rw [wholePart?.eq_2 _ _ hne, if_pos (hall _ List.mem_cons_self), htake, hdrop]

theorem fraction?_append {places : List Char} (hne : places ≠ []) (hall : AllDigits places)
    (hrest : ∀ c ∈ rest.head?, c.isDigit = false) :
    fraction? ('.' :: (places ++ rest)) = some (places, rest) := by
  cases places with
  | nil => exact absurd rfl hne
  | cons c places =>
    obtain ⟨htake, hdrop⟩ := span_digits hall hrest
    rw [List.cons_append] at htake hdrop ⊢
    rw [fraction?, if_pos (hall _ List.mem_cons_self), htake, hdrop]

theorem fraction?_eq_none (h : ∀ c ∈ rest.head?, c ≠ '.') : fraction? rest = none := by
  unfold fraction?
  split
  next c cs => exact absurd rfl (h '.' rfl)
  next => rfl

theorem exponent?_eq_none (h : ∀ c ∈ rest.head?, c ≠ 'e' ∧ c ≠ 'E') : exponent? rest = none := by
  unfold exponent?
  split
  next cs => exact absurd rfl (h 'e' rfl).1
  next cs => exact absurd rfl (h 'E' rfl).2
  next => rfl

theorem exponent?_append {size : List Char} (hne : size ≠ []) (hall : AllDigits size)
    (hrest : ∀ c ∈ rest.head?, c.isDigit = false) (negative : Bool) :
    exponent? ('e' :: (if negative then '-' else '+') :: (size ++ rest)) =
      some (if negative then -(digitsValue size : Int) else digitsValue size, rest) := by
  cases size with
  | nil => exact absurd rfl hne
  | cons c size =>
    obtain ⟨htake, hdrop⟩ := span_digits hall hrest
    rw [List.cons_append] at htake hdrop ⊢
    cases negative with
    | false =>
      show signedDigits? ('+' :: c :: (size ++ rest)) = _
      rw [signedDigits?, if_pos (hall _ List.mem_cons_self), htake, hdrop]
      rfl
    | true =>
      show signedDigits? ('-' :: c :: (size ++ rest)) = _
      rw [signedDigits?, if_pos (hall _ List.mem_cons_self), htake, hdrop]
      rfl

/-! ## Numbers without a sign -/

variable {whole places size : List Char} {negative : Bool}

theorem magnitude?_eq {cs : List Char} (hwhole : IsWhole whole)
    (hrest : ∀ c ∈ rest.head?, c.isDigit = false)
    (hfraction : (fraction? rest).getD ([], rest) = (places, cs)) :
    magnitude? negative (whole ++ rest) =
      some (match exponent? cs with
        | some (e, cs') => (.float (.ofDecimal negative (digitsValue (whole ++ places))
            (e - places.length)), cs')
        | none =>
          if places.isEmpty then
            (.int (if negative then -(digitsValue whole : Int) else digitsValue whole), rest)
          else (.float (.ofDecimal negative (digitsValue (whole ++ places)) (-places.length)),
            cs)) := by
  unfold magnitude?
  rw [wholePart?_append hwhole hrest, Option.map_some]
  dsimp only
  generalize (fraction? rest).getD ([], rest) = found at hfraction ⊢
  subst hfraction
  rfl

/-- A run of digits is an integer. -/
theorem magnitude?_int (hwhole : IsWhole whole) (hrest : EndsNumber rest) :
    magnitude? negative (whole ++ rest) =
      some (.int (if negative then -(digitsValue whole : Int) else digitsValue whole), rest) := by
  have hfraction : (fraction? rest).getD ([], rest) = ([], rest) := by
    rw [fraction?_eq_none fun c hc => (hrest c hc).2.1, Option.getD_none]
  rw [magnitude?_eq hwhole (fun c hc => (hrest c hc).1) hfraction,
    exponent?_eq_none fun c hc => (hrest c hc).2.2]
  rfl

/-- Digits with a point among them are a double. -/
theorem magnitude?_point (hwhole : IsWhole whole) (hne : places ≠ []) (hplaces : AllDigits places)
    (hrest : EndsNumber rest) :
    magnitude? negative (whole ++ '.' :: (places ++ rest)) =
      some (.float (.ofDecimal negative (digitsValue (whole ++ places)) (-places.length)),
        rest) := by
  have hpoint : ∀ c ∈ ('.' :: (places ++ rest)).head?, c.isDigit = false := by
    rintro c ⟨⟩
    rfl
  have hfraction : (fraction? ('.' :: (places ++ rest))).getD ([], '.' :: (places ++ rest)) =
      (places, rest) := by
    rw [fraction?_append hne hplaces fun c hc => (hrest c hc).1, Option.getD_some]
  rw [magnitude?_eq hwhole hpoint hfraction, exponent?_eq_none fun c hc => (hrest c hc).2.2]
  dsimp only
  rw [if_neg (by simpa using hne)]

/-- A point and the digits behind it, where there are any. -/
def pointed : List Char → List Char
  | [] => []
  | c :: cs => '.' :: c :: cs

theorem fraction?_pointed (hplaces : AllDigits places)
    (hrest : ∀ c ∈ rest.head?, c.isDigit = false ∧ c ≠ '.') :
    (fraction? (pointed places ++ rest)).getD ([], pointed places ++ rest) = (places, rest) := by
  cases places with
  | nil =>
    show (fraction? rest).getD ([], rest) = ([], rest)
    rw [fraction?_eq_none fun c hc => (hrest c hc).2, Option.getD_none]
  | cons c places =>
    show (fraction? ('.' :: ((c :: places) ++ rest))).getD _ = _
    rw [fraction?_append (List.cons_ne_nil c places) hplaces fun d hd => (hrest d hd).1,
      Option.getD_some]

/-- Digits with an exponent are a double. -/
theorem magnitude?_exponent (hwhole : IsWhole whole) (hplaces : AllDigits places) (hne : size ≠ [])
    (hsize : AllDigits size) (hrest : EndsNumber rest) (below : Bool) :
    magnitude? negative
        (whole ++ (pointed places ++ 'e' :: (if below then '-' else '+') :: (size ++ rest))) =
      some (.float (.ofDecimal negative (digitsValue (whole ++ places))
        ((if below then -(digitsValue size : Int) else digitsValue size) - places.length)),
        rest) := by
  have hletter : ∀ c ∈ ('e' :: (if below then '-' else '+') :: (size ++ rest)).head?,
      c.isDigit = false ∧ c ≠ '.' := by
    rintro c ⟨⟩
    decide
  have hbehind : ∀ c ∈ (pointed places ++ 'e' :: (if below then '-' else '+') ::
      (size ++ rest)).head?, c.isDigit = false := by
    cases places with
    | nil => exact fun c hc => (hletter c hc).1
    | cons d places =>
      rintro c ⟨⟩
      rfl
  rw [magnitude?_eq hwhole hbehind (fraction?_pointed hplaces hletter),
    exponent?_append hne hsize (fun c hc => (hrest c hc).1) below]

/-! ## The digits of a double -/

/-- Only zeros are left away at the end of the digits. -/
theorem exists_zeros (n : Nat) :
    ∃ z, Nat.toDigits 10 n = significantDigits n ++ List.replicate z '0' := by
  have hzeros : ∀ c ∈ (Nat.toDigits 10 n).reverse.takeWhile (· == '0'), c = '0' := by
    intro c hc
    have hzero := List.mem_takeWhile_imp hc
    exact eq_of_beq hzero
  refine ⟨((Nat.toDigits 10 n).reverse.takeWhile (· == '0')).length, ?_⟩
  rw [significantDigits, ← List.reverse_replicate, ← List.eq_replicate_of_mem hzeros,
    ← List.reverse_append, List.takeWhile_append_dropWhile, List.reverse_reverse]

theorem exists_significantDigits {n : Nat} (h : n ≠ 0) :
    ∃ c ds, significantDigits n = c :: ds ∧ c ≠ '0' ∧ AllDigits (c :: ds) := by
  obtain ⟨z, hz⟩ := exists_zeros n
  obtain ⟨c, es, hes, hc⟩ := exists_toDigits h
  have hall : AllDigits (significantDigits n) := fun d hd =>
    allDigits_toDigits n d (hz ▸ List.mem_append_left _ hd)
  cases hds : significantDigits n with
  | nil =>
    have hmem : c ∈ List.replicate z '0' := by
      rw [hds, List.nil_append, hes] at hz
      rw [← hz]
      exact List.mem_cons_self
    exact absurd (List.eq_of_mem_replicate hmem) hc
  | cons d ds =>
    rw [hds, hes, List.cons_append] at hz
    exact ⟨d, ds, rfl, (List.cons.inj hz).1 ▸ hc, hds ▸ hall⟩

/-- A decimal has the value of its significant digits, with the point at the same place. -/
theorem sameValue_significantDigits (d : Decimal) :
    d.SameValue ⟨digitsValue (significantDigits d.digits),
      d.point - (significantDigits d.digits).length⟩ := by
  obtain ⟨z, hz⟩ := exists_zeros d.digits
  have hdigits : d.digits = digitsValue (significantDigits d.digits) * 10 ^ z := by
    conv_lhs => rw [← digitsValue_toDigits d.digits, hz]
    rw [digitsValue_append, digitsValue_zeros, List.length_replicate, Nat.add_zero]
  have hpoint : d.point - (significantDigits d.digits).length = d.exponent + z := by
    rw [Decimal.point, hz, List.length_append, List.length_replicate]
    omega
  have hshift := Decimal.SameValue.of_shift (digitsValue (significantDigits d.digits)) z d.exponent
  rwa [← hdigits, ← hpoint] at hshift

section layouts

variable {c : Char} (hc : c ≠ '0') (hall : AllDigits (c :: ds))
include hc hall

/-- Wherever the point is, there are digits on both of its sides, and they have the value of the
digits that were laid out. -/
theorem exists_positional (point : Int) :
    ∃ whole places, positional (c :: ds) point = whole ++ '.' :: places ∧ IsWhole whole ∧
      places ≠ [] ∧ AllDigits places ∧
      Decimal.SameValue ⟨digitsValue (whole ++ places), -places.length⟩
        ⟨digitsValue (c :: ds), point - (c :: ds).length⟩ := by
  unfold positional
  dsimp only
  by_cases hsmall : point ≤ 0
  · rw [if_pos hsmall]
    refine ⟨['0'], List.replicate (-point).toNat '0' ++ c :: ds, rfl, .zero,
      List.append_ne_nil_of_right_ne_nil _ (List.cons_ne_nil c ds),
      (allDigits_zeros _).append hall, ?_⟩
    have hvalue : digitsValue (['0'] ++ (List.replicate (-point).toNat '0' ++ c :: ds)) =
        digitsValue (c :: ds) := by
      rw [← List.append_assoc]
      exact digitsValue_zeros_append ((-point).toNat + 1) (c :: ds)
    have hplaces : -((List.replicate (-point).toNat '0' ++ c :: ds).length : Int) =
        point - (c :: ds).length := by
      rw [List.length_append, List.length_replicate]
      omega
    rw [hvalue, hplaces]
    rfl
  · rw [if_neg hsmall]
    by_cases hlong : (c :: ds).length ≤ point.toNat
    · rw [if_pos hlong]
      refine ⟨c :: ds ++ List.replicate (point.toNat - (c :: ds).length) '0', ['0'], rfl,
        .digits hc (hall.append (allDigits_zeros _)), List.cons_ne_nil _ _, allDigits_zeros 1, ?_⟩
      have hvalue : digitsValue (c :: ds ++ List.replicate (point.toNat - (c :: ds).length) '0' ++
          ['0']) = digitsValue (c :: ds) * 10 ^ (point.toNat - (c :: ds).length + 1) := by
        rw [List.append_assoc, ← List.replicate_succ', digitsValue_append, digitsValue_zeros,
          List.length_replicate, Nat.add_zero]
      have hexponent : point - (c :: ds).length =
          -1 + ((point.toNat - (c :: ds).length + 1 : Nat) : Int) := by omega
      rw [hvalue, hexponent]
      exact Decimal.SameValue.of_shift _ _ _
    · rw [if_neg hlong]
      obtain ⟨place, hplace⟩ : ∃ place, point.toNat = place + 1 := ⟨point.toNat - 1, by omega⟩
      have hplaces : -(((c :: ds).drop point.toNat).length : Int) = point - (c :: ds).length := by
        rw [List.length_drop]
        omega
      refine ⟨(c :: ds).take point.toNat, (c :: ds).drop point.toNat, rfl, ?_, ?_,
        fun d hd => hall d (List.mem_of_mem_drop hd), ?_⟩
      · rw [hplace, List.take_succ_cons]
        exact .digits hc fun d hd => hall d (List.mem_of_mem_take (i := place + 1) hd)
      · intro hnil
        rw [List.drop_eq_nil_iff] at hnil
        exact hlong hnil
      · rw [List.take_append_drop, hplaces]
        rfl

/-- With an exponent there is one digit in front of the point. -/
theorem exists_scientific (width : Nat) (exponent : Int) :
    ∃ size, scientific width (c :: ds) exponent =
        [c] ++ (pointed ds ++ 'e' :: (if decide (exponent < 0) then '-' else '+') :: size) ∧
      IsWhole [c] ∧ AllDigits ds ∧ size ≠ [] ∧ AllDigits size ∧
      digitsValue size = exponent.natAbs := by
  refine ⟨List.replicate (width - (Nat.toDigits 10 exponent.natAbs).length) '0' ++
    Nat.toDigits 10 exponent.natAbs, ?_, ?_, fun d hd => hall d (List.mem_cons_of_mem c hd),
    List.append_ne_nil_of_right_ne_nil _ Nat.toDigits_ne_nil,
    (allDigits_zeros _).append (allDigits_toDigits _), ?_⟩
  · unfold scientific
    cases ds <;> simp [pointed]
  · refine .digits hc fun d hd => hall d ?_
    rw [List.mem_singleton.mp hd]
    exact List.mem_cons_self
  · rw [digitsValue_zeros_append, digitsValue_toDigits]

variable (hrest : EndsNumber rest)
include hrest

/-- Digits with an exponent behind them are read as these digits. -/
theorem magnitude?_scientific (width : Nat) (exponent : Int) :
    magnitude? negative (scientific width (c :: ds) exponent ++ rest) =
      some (.float (.ofDecimal negative (digitsValue (c :: ds))
        (exponent + 1 - (c :: ds).length)), rest) := by
  obtain ⟨size, htext, hwhole, hplaces, hne, hsize, hvalue⟩ :=
    exists_scientific hc hall width exponent
  have hexponent : (if decide (exponent < 0) then -(digitsValue size : Int) else
      digitsValue size) - ds.length = exponent + 1 - (c :: ds).length := by
    rw [hvalue, List.length_cons]
    simp only [decide_eq_true_eq]
    split <;> omega
  have hbehind : scientific width (c :: ds) exponent ++ rest = [c] ++ (pointed ds ++ 'e' ::
      (if decide (exponent < 0) then '-' else '+') :: (size ++ rest)) := by
    simp only [htext, List.append_assoc, List.cons_append]
  rw [hbehind, magnitude?_exponent hwhole hplaces hne hsize hrest, hexponent,
    List.singleton_append]

end layouts

variable {rank : Nat} {cs : List Char} {p : Json × List Char}

/-- A decimal in the interval of a rank is read as the double of that rank, however it is laid
out. -/
theorem magnitude?_decimal {d : Decimal} (hrank : 0 < rank) (hfinite : rank < finiteRanks)
    (h : RoundsTo d.num d.den rank) (layout : Layout) (hrest : EndsNumber rest) :
    magnitude? negative (layout.decimal d ++ rest) =
      some (.float (.finite negative ⟨rank, hfinite⟩), rest) := by
  have hvalue := (sameValue_significantDigits d).roundsTo h
  obtain ⟨c, ds, hds, hc, hall⟩ := exists_significantDigits (digits_ne_zero hrank h)
  rw [hds] at hvalue
  have hpoint : ((Nat.toDigits 10 d.digits).length : Int) + d.exponent = d.point := rfl
  unfold Layout.decimal
  dsimp only
  rw [hds, hpoint]
  split
  · obtain ⟨whole, places, htext, hwhole, hne, hplaces, hsame⟩ :=
      exists_positional hc hall d.point
    rw [htext, List.append_assoc, List.cons_append, magnitude?_point hwhole hne hplaces hrest,
      ofDecimal_eq (d := ⟨_, _⟩) hrank hfinite (hsame.symm.roundsTo hvalue)]
  · rw [magnitude?_scientific hc hall hrest, Int.sub_add_cancel,
      ofDecimal_eq (d := ⟨_, _⟩) hrank hfinite hvalue]

/-! ## Numbers as values -/

/-- A sign, where there is one. -/
def sign (negative : Bool) : List Char := if negative then ['-'] else []

theorem exists_digit_of_magnitude? (h : magnitude? negative cs = some p) :
    ∃ c ds, cs = c :: ds ∧ c.isDigit = true := by
  unfold magnitude? at h
  obtain ⟨q, hwhole, -⟩ := Option.map_eq_some_iff.mp h
  unfold wholePart? at hwhole
  split at hwhole
  next ds => exact ⟨'0', ds, rfl, rfl⟩
  next _ c ds _ =>
    split at hwhole
    next hc => exact ⟨c, ds, rfl, hc⟩
    next => cases hwhole
  next => cases hwhole

/-- No name starts with a digit, nor with one behind a minus. -/
theorem name?_sign {c : Char} (hc : c.isDigit = true) (negative : Bool) :
    name? (sign negative ++ c :: ds) = none := by
  cases negative <;> unfold name? <;> dsimp only [sign] <;> split
  all_goals first | rfl | (rename_i heq; cases heq <;> cases hc)

/-- What starts with no bracket and no quote is a name or a number. -/
theorem value_of_ne (h : ∀ c ∈ cs.head?, c ≠ '"' ∧ c ≠ '[' ∧ c ≠ '\x7b')
    (hread : (name? cs).or (number? cs) = some p) (fuel : Nat) :
    value (fuel + 1) cs = withinLimit p := by
  rw [value.eq_def]
  dsimp only
  split
  · exact absurd rfl (h _ rfl).1
  · exact absurd rfl (h _ rfl).2.1
  · exact absurd rfl (h _ rfl).2.2
  · rw [hread]

/-- What is read as a number without its sign is read with it as a value. -/
theorem value_sign (h : magnitude? negative cs = some p) (fuel : Nat) :
    value (fuel + 1) (sign negative ++ cs) = withinLimit p := by
  obtain ⟨c, ds, rfl, hc⟩ := exists_digit_of_magnitude? h
  have hnumber : number? (sign negative ++ c :: ds) = some p := by
    cases negative with
    | false =>
      refine (number?.eq_2 (c :: ds) ?_).trans h
      rintro es ⟨⟩
      cases hc
    | true => exact h
  refine value_of_ne ?_ (by rw [name?_sign hc, hnumber, Option.none_or]) fuel
  cases negative <;> rintro d ⟨⟩
  · refine ⟨?_, ?_, ?_⟩ <;> rintro rfl <;> cases hc
  · decide

/-- The digits of a number are those in front of a point. -/
theorem isWhole_toDigits (n : Nat) : IsWhole (Nat.toDigits 10 n) := by
  rcases Nat.eq_zero_or_pos n with rfl | hpos
  · exact .zero
  · obtain ⟨c, ds, hds, hc⟩ := exists_toDigits (Nat.pos_iff_ne_zero.mp hpos)
    rw [hds]
    exact .digits hc (hds ▸ allDigits_toDigits n)

/-- An integer is a sign and the digits of a natural number. -/
theorem writtenInt_eq_sign (n : Int) :
    writtenInt n = sign (decide (n < 0)) ++ Nat.toDigits 10 n.natAbs := by
  simp only [writtenInt, sign, decide_eq_true_eq]

/-- **An integer that is short enough is read as what it was.** -/
theorem value_writtenInt {n : Int} (hn : isShortInt n = true) (hrest : EndsNumber rest)
    (fuel : Nat) :
    value (fuel + 1) (writtenInt n ++ rest) = .ok (.int n, rest) := by
  have hread : magnitude? (decide (n < 0)) (Nat.toDigits 10 n.natAbs ++ rest) =
      some (.int n, rest) := by
    have hvalue : (if decide (n < 0) then -(n.natAbs : Int) else n.natAbs) = n := by
      simp only [decide_eq_true_eq]
      split <;> omega
    rw [magnitude?_int (isWhole_toDigits n.natAbs) hrest, digitsValue_toDigits, hvalue]
  rw [writtenInt_eq_sign, List.append_assoc]
  exact (value_sign hread fuel).trans (if_pos hn)

/-- **A double is read as what it was.** -/
theorem value_write (x : Double) (hrest : EndsNumber rest) (fuel : Nat) :
    value (fuel + 1) (doubleLayout.write x ++ rest) = .ok (.float x, rest) := by
  cases x with
  | nan => rfl
  | infinite negative => cases negative <;> rfl
  | finite negative rank =>
    rw [Layout.write, List.append_assoc]
    refine value_sign (p := (.float (.finite negative rank), rest)) ?_ fuel
    by_cases hzero : rank.val = 0
    · have hdouble : ofDecimal negative (digitsValue (['0'] ++ ['0'])) (-1) =
          .finite negative rank := (ofUnits_zero negative).trans
        (congrArg (finite negative) (Fin.ext hzero.symm))
      rw [if_pos hzero, ← hdouble]
      exact magnitude?_point .zero (List.cons_ne_nil '0' []) (allDigits_zeros 1) hrest
    · rw [if_neg hzero]
      have hrank := Nat.pos_of_ne_zero hzero
      exact magnitude?_decimal hrank rank.isLt (shortest_roundsTo hrank) doubleLayout hrest

end Json
end ServiceCatalog
