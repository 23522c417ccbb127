import ServiceCatalog.Proofs.Attempt
import ServiceCatalog.Proofs.JsonRoundTrip

/-!
# What the reader of JSON accepts

The reader counts its steps, and it carries the text along for its messages.  Neither matters to
what it accepts.  `ReadsValue cs j rest` says, without either, that the text `cs` starts with a
value `j` and goes on with `rest`: one constructor for every way that the reader takes.

* `readsValue_of_value`: what the reader returns it has read in one of these ways; by recursion on
  its steps.
* `ReadsValue.value`: what can be read in one of these ways the reader returns, in at most two steps
  for every character; by induction on the way.
* `read_eq_ok_iff`: a whole text is read exactly if it is a value with blanks around it.

A property of everything that can be read is shown by induction over `ReadsValue`, `ReadsItems` and
`ReadsMembers` together, with no steps to count.
-/

namespace ServiceCatalog
namespace Json

/-! ## The ways of the reader -/

/-- A string up to its closing quote, as code units, and the text behind the quote. -/
inductive ReadsUnits : List Char → List Nat → List Char → Prop
  | close (rest : List Char) : ReadsUnits ('"' :: rest) [] rest
  | digits {a b c d : Char} {n : Nat} {cs rest : List Char} {us : List Nat}
      (hn : Text.hexValue? [a, b, c, d] = some n) (h : ReadsUnits cs us rest) :
      ReadsUnits ('\\' :: 'u' :: a :: b :: c :: d :: cs) (n :: us) rest
  | letter {e c : Char} {cs rest : List Char} {us : List Nat} (he : simpleEscape? e = some c)
      (h : ReadsUnits cs us rest) : ReadsUnits ('\\' :: e :: cs) (c.toNat :: us) rest
  | plain {c : Char} {cs rest : List Char} {us : List Nat} (hquote : c ≠ '"')
      (hbackslash : c ≠ '\\') (hprinted : 0x20 ≤ c.toNat) (h : ReadsUnits cs us rest) :
      ReadsUnits (c :: cs) (c.toNat :: us) rest

mutual

/-- A value at the start of a text, and the text behind it. -/
inductive ReadsValue : List Char → Json → List Char → Prop
  | text {cs rest : List Char} {s : String} (h : string ('"' :: cs) cs = .ok (s, rest)) :
      ReadsValue ('"' :: cs) (.text s) rest
  | scalar {cs rest : List Char} {j : Json} (h : (name? cs).or (number? cs) = some (j, rest))
      (hlimit : ∀ n, j = .int n → isShortInt n = true) : ReadsValue cs j rest
  | emptyArray {cs rest : List Char} (h : skipBlanks cs = ']' :: rest) :
      ReadsValue ('[' :: cs) (.array []) rest
  | array {cs rest : List Char} {js : List Json} (h : ReadsItems (skipBlanks cs) js rest) :
      ReadsValue ('[' :: cs) (.array js) rest
  | emptyObject {cs rest : List Char} (h : skipBlanks cs = '\x7d' :: rest) :
      ReadsValue ('\x7b' :: cs) (.object []) rest
  | object {cs rest : List Char} {ms : List (String × Json)}
      (h : ReadsMembers (skipBlanks cs) ms rest) :
      ReadsValue ('\x7b' :: cs) (.object (distinct ms)) rest

/-- The items of an array up to its end, and the text behind it. -/
inductive ReadsItems : List Char → List Json → List Char → Prop
  | last {cs ds rest : List Char} {j : Json} (h : ReadsValue cs j ds)
      (hend : skipBlanks ds = ']' :: rest) : ReadsItems cs [j] rest
  | more {cs ds es rest : List Char} {j : Json} {js : List Json} (h : ReadsValue cs j ds)
      (hcomma : skipBlanks ds = ',' :: es) (hmore : ReadsItems (skipBlanks es) js rest) :
      ReadsItems cs (j :: js) rest

/-- The members of an object up to its end, and the text behind it. -/
inductive ReadsMembers : List Char → List (String × Json) → List Char → Prop
  | last {cs ds es fs rest : List Char} {k : String} {j : Json}
      (hkey : string ('"' :: cs) cs = .ok (k, ds)) (hcolon : skipBlanks ds = ':' :: es)
      (h : ReadsValue (skipBlanks es) j fs) (hend : skipBlanks fs = '\x7d' :: rest) :
      ReadsMembers ('"' :: cs) [(k, j)] rest
  | more {cs ds es fs gs rest : List Char} {k : String} {j : Json} {ms : List (String × Json)}
      (hkey : string ('"' :: cs) cs = .ok (k, ds)) (hcolon : skipBlanks ds = ':' :: es)
      (h : ReadsValue (skipBlanks es) j fs) (hcomma : skipBlanks fs = ',' :: gs)
      (hmore : ReadsMembers (skipBlanks gs) ms rest) : ReadsMembers ('"' :: cs) ((k, j) :: ms) rest

end

variable {c : Char} {cs ds es fs opened rest : List Char} {j : Json} {js : List Json}
  {ms : List (String × Json)} {us : List Nat} {fuel : Nat}

/-! ## Digits

All parts of a number are runs of digits, with something in front of them. -/

/-- The digits at the start, if there is one, and the text behind them. -/
def digits? : List Char → Option (List Char × List Char)
  | [] => none
  | c :: cs =>
    if c.isDigit then some ((c :: cs).takeWhile Char.isDigit, (c :: cs).dropWhile Char.isDigit)
    else none

theorem wholePart?_of_ne (h : c ≠ '0') (cs : List Char) :
    wholePart? (c :: cs) = digits? (c :: cs) :=
  wholePart?.eq_2 c cs h

theorem fraction?_point (cs : List Char) : fraction? ('.' :: cs) = digits? cs := by
  cases cs <;> rfl

theorem fraction?_of_ne (h : c ≠ '.') (cs : List Char) : fraction? (c :: cs) = none :=
  fraction?.eq_2 _ fun _ _ heq => h (List.cons.inj heq).1

theorem signedDigits?_minus (cs : List Char) :
    signedDigits? ('-' :: cs) =
      (digits? cs).map (Prod.map (fun ds => -(digitsValue ds : Int)) id) := by
  cases cs with
  | nil => rfl
  | cons c cs =>
    rw [digits?, Option.map_if]
    rfl

theorem signedDigits?_plus (cs : List Char) :
    signedDigits? ('+' :: cs) =
      (digits? cs).map (Prod.map (fun ds => (digitsValue ds : Int)) id) := by
  cases cs with
  | nil => rfl
  | cons c cs =>
    rw [digits?, Option.map_if]
    rfl

theorem signedDigits?_of_ne (hminus : c ≠ '-') (hplus : c ≠ '+') (cs : List Char) :
    signedDigits? (c :: cs) =
      (digits? (c :: cs)).map (Prod.map (fun ds => (digitsValue ds : Int)) id) := by
  rw [signedDigits?.eq_3 c cs (fun _ _ h _ => hminus h) (fun _ _ h _ => hplus h), digits?,
    Option.map_if]
  rfl

/-! ## What is read of a number or a name -/

theorem length_of_digits? (h : digits? cs = some (ds, rest)) : rest.length < cs.length := by
  cases cs with
  | nil => cases h
  | cons c cs =>
    rw [digits?] at h
    split at h
    next hc =>
      cases h
      rw [List.dropWhile_cons_of_pos hc]
      exact Nat.lt_succ_of_le (List.length_dropWhile_le _ cs)
    next => cases h

theorem length_of_wholePart? (h : wholePart? cs = some (ds, rest)) : rest.length < cs.length := by
  cases cs with
  | nil => cases h
  | cons c cs =>
    by_cases hzero : c = '0'
    · subst hzero
      cases h
      exact Nat.lt_succ_self _
    · rw [wholePart?_of_ne hzero] at h
      exact length_of_digits? h

theorem length_of_fraction? (h : fraction? cs = some (ds, rest)) : rest.length ≤ cs.length := by
  cases cs with
  | nil => cases h
  | cons c cs =>
    by_cases hpoint : c = '.'
    · rw [hpoint, fraction?_point] at h
      exact (length_of_digits? h).le.trans (Nat.le_succ _)
    · rw [fraction?_of_ne hpoint] at h
      cases h

theorem length_of_signedDigits? {n : Int} (h : signedDigits? cs = some (n, rest)) :
    rest.length ≤ cs.length := by
  have hmap : ∀ {f : List Char → Int} {ds : List Char},
      (digits? ds).map (Prod.map f id) = some (n, rest) → rest.length ≤ ds.length := by
    intro f ds hds
    obtain ⟨q, hq, heq⟩ := Option.map_eq_some_iff.mp hds
    cases heq
    exact (length_of_digits? hq).le
  cases cs with
  | nil => cases h
  | cons c cs =>
    by_cases hminus : c = '-'
    · rw [hminus, signedDigits?_minus] at h
      exact (hmap h).trans (Nat.le_succ _)
    by_cases hplus : c = '+'
    · rw [hplus, signedDigits?_plus] at h
      exact (hmap h).trans (Nat.le_succ _)
    · rw [signedDigits?_of_ne hminus hplus] at h
      exact hmap h

theorem length_of_exponent? {n : Int} (h : exponent? cs = some (n, rest)) :
    rest.length ≤ cs.length := by
  unfold exponent? at h
  split at h
  · exact (length_of_signedDigits? h).trans (Nat.le_succ _)
  · exact (length_of_signedDigits? h).trans (Nat.le_succ _)
  · cases h

theorem length_of_magnitude? {negative : Bool} (h : magnitude? negative cs = some (j, rest)) :
    rest.length < cs.length := by
  obtain ⟨⟨whole, ds⟩, hwhole, hrest⟩ := Option.map_eq_some_iff.mp h
  refine Nat.lt_of_le_of_lt ?_ (length_of_wholePart? hwhole)
  have hfraction : ((fraction? ds).getD ([], ds)).2.length ≤ ds.length := by
    cases hfound : fraction? ds with
    | none => exact Nat.le_refl _
    | some q => exact length_of_fraction? hfound
  dsimp only at hrest
  split at hrest
  next e fs hexponent =>
    cases hrest
    exact (length_of_exponent? hexponent).trans hfraction
  next =>
    split at hrest
    · cases hrest
      exact Nat.le_refl _
    · cases hrest
      exact hfraction

theorem length_of_number? (h : number? cs = some (j, rest)) : rest.length < cs.length := by
  unfold number? at h
  split at h
  · exact (length_of_magnitude? h).trans (Nat.lt_succ_self _)
  · exact length_of_magnitude? h

theorem length_of_name? (h : name? cs = some (j, rest)) : rest.length < cs.length := by
  unfold name? at h
  split at h <;> cases h
  all_goals
    simp only [List.length_cons]
    omega

/-! ## Strings -/

theorem pushUnit_eq_ok {n : Nat} {r : Reading (List Nat)} (h : pushUnit n r = .ok (us, rest)) :
    ∃ vs, r = .ok (vs, rest) ∧ us = n :: vs := by
  cases r with
  | error f => cases h
  | ok q =>
    cases h
    exact ⟨q.1, rfl, rfl⟩

theorem readsUnits_of_units (h : units opened cs = .ok (us, rest)) : ReadsUnits cs us rest := by
  fun_induction units opened cs generalizing us with
  | case2 cs =>
    cases h
    exact .close rest
  | case4 a b c d n e cs hn ih =>
    obtain ⟨vs, hvs, rfl⟩ := pushUnit_eq_ok h
    exact .digits hn (ih hvs)
  | case7 e cs _ _ c hc ih =>
    obtain ⟨vs, hvs, rfl⟩ := pushUnit_eq_ok h
    exact .letter hc (ih hvs)
  | case10 c cs hquote hend _ _ hescape hprinted ih =>
    obtain ⟨vs, hvs, rfl⟩ := pushUnit_eq_ok h
    have hbackslash : c ≠ '\\' := by
      rintro rfl
      cases cs with
      | nil => exact hend rfl rfl
      | cons d cs => exact hescape d cs rfl rfl
    exact .plain hquote hbackslash (Nat.not_lt.mp hprinted) (ih hvs)
  | _ => cases h

theorem ReadsUnits.ne_nil (h : ReadsUnits cs us rest) : cs ≠ [] := by
  cases h <;> exact List.cons_ne_nil _ _

theorem ReadsUnits.units (h : ReadsUnits cs us rest) (opened : List Char) :
    units opened cs = .ok (us, rest) := by
  induction h with
  | close => rfl
  | digits hn h ih =>
    obtain ⟨d, ds, rfl⟩ := List.exists_cons_of_ne_nil h.ne_nil
    rw [units.eq_4 opened _ _ _ _ _ d ds hn, ih]
    rfl
  | letter he h ih =>
    rw [units_letter he, ih]
    rfl
  | plain hquote hbackslash hprinted h ih =>
    rw [units_plain hquote hbackslash hprinted, ih]
    rfl

theorem ReadsUnits.length_lt (h : ReadsUnits cs us rest) : rest.length < cs.length := by
  induction h with
  | close => exact Nat.lt_succ_self _
  | digits _ _ ih | letter _ _ ih | plain _ _ _ _ ih =>
    simp only [List.length_cons]
    omega

/-- A number in base sixteen is written by digits. -/
theorem ne_none_of_hexValue? {n : Nat} (h : Text.hexValue? cs = some n) :
    ∀ c ∈ cs, Text.hexDigitValue? c ≠ none := by
  intro c hc hnone
  obtain ⟨ds, es, rfl⟩ := List.append_of_mem hc
  rw [Text.hexValue?, Text.hexValueFrom?_append] at h
  cases hds : Text.hexValueFrom? 0 ds with
  | none =>
    rw [hds] at h
    cases h
  | some m =>
    rw [hds, Option.bind_some, Text.hexValueFrom?, hnone] at h
    cases h

theorem string_eq_ok_iff {s : String} : string opened cs = .ok (s, rest) ↔
    ∃ us, ReadsUnits cs us rest ∧ s = String.ofList (Text.charsOfUnits us) := by
  constructor
  · intro h
    cases hunits : units opened cs with
    | error f =>
      rw [string, hunits] at h
      cases h
    | ok q =>
      rw [string, hunits] at h
      cases h
      exact ⟨q.1, readsUnits_of_units hunits, rfl⟩
  · rintro ⟨us, h, rfl⟩
    rw [string, h.units opened]
    rfl

theorem length_of_string {s : String} (h : string opened cs = .ok (s, rest)) :
    rest.length < cs.length := by
  obtain ⟨us, hus, -⟩ := string_eq_ok_iff.mp h
  exact hus.length_lt

/-! ## From the reader to its ways -/

theorem isBlank_of_isDigit (h : c.isDigit = true) : Text.isBlank c = false := by
  have hrange : 48 ≤ c.toNat ∧ c.toNat ≤ 57 := Char.isDigit_iff_toNat.mp h
  refine List.any_eq_false.mpr fun r hr => ?_
  simp only [Bool.and_eq_true, decide_eq_true_eq]
  simp only [Text.blankRanges, List.mem_cons, List.not_mem_nil, or_false] at hr
  rcases hr with rfl | rfl | rfl | rfl | rfl | rfl | rfl | rfl | rfl | rfl <;> omega

/-- A name or a number starts with no blank, no quote and no opening bracket. -/
theorem head_of_scalar (h : (name? cs).or (number? cs) = some (j, rest)) :
    ∃ c ds, cs = c :: ds ∧ Text.isBlank c = false ∧ c ≠ '"' ∧ c ≠ '[' ∧ c ≠ '\x7b' := by
  rcases Option.or_eq_some_iff.mp h with h | ⟨-, h⟩
  · unfold name? at h
    split at h
    case h_7 => cases h
    all_goals exact ⟨_, _, rfl, by decide⟩
  · unfold number? at h
    split at h
    · exact ⟨_, _, rfl, by decide⟩
    · obtain ⟨c, ds, rfl, hc⟩ := exists_digit_of_magnitude? h
      refine ⟨c, ds, rfl, isBlank_of_isDigit hc, ?_, ?_, ?_⟩ <;> rintro rfl <;> cases hc

theorem length_of_scalar (h : (name? cs).or (number? cs) = some (j, rest)) :
    rest.length < cs.length := by
  rcases Option.or_eq_some_iff.mp h with h | ⟨-, h⟩
  · exact length_of_name? h
  · exact length_of_number? h

/-- A value that has been read is kept, unless it is an integer beyond the limit. -/
theorem withinLimit_eq_ok {p q : Json × List Char} :
    withinLimit p = .ok q ↔ p = q ∧ ∀ n, p.1 = .int n → isShortInt n = true := by
  unfold withinLimit
  split
  next n hn =>
    rw [hn]
    simp only [Json.int.injEq, forall_eq']
    split
    next h => simp [h]
    next h => simp [h]
  next hne =>
    rw [Except.ok.injEq]
    exact (and_iff_left fun n hn => absurd hn (hne n)).symm

mutual

theorem readsValue_of_value : ∀ {fuel : Nat} {cs : List Char} {j : Json} {rest : List Char},
    value fuel cs = .ok (j, rest) → ReadsValue cs j rest
  | 0, _, _, _, h => by cases h
  | fuel + 1, cs, j, rest, h => by
    rw [value.eq_def] at h
    dsimp only at h
    split at h
    next ds =>
      obtain ⟨⟨s, es⟩, hs, heq⟩ := Attempt.map_eq_ok.mp h
      cases heq
      exact .text hs
    next ds =>
      split at h
      next es hes =>
        cases h
        exact .emptyArray hes
      next =>
        obtain ⟨⟨js, es⟩, hjs, heq⟩ := Attempt.map_eq_ok.mp h
        cases heq
        exact .array (readsItems_of_items hjs)
    next ds =>
      split at h
      next es hes =>
        cases h
        exact .emptyObject hes
      next =>
        obtain ⟨⟨ms, es⟩, hms, heq⟩ := Attempt.map_eq_ok.mp h
        cases heq
        exact .object (readsMembers_of_members hms)
    next ds _ _ _ =>
      split at h
      next p hp =>
        obtain ⟨rfl, hlimit⟩ := withinLimit_eq_ok.mp h
        exact .scalar hp hlimit
      next => cases h

theorem readsItems_of_items : ∀ {fuel : Nat} {cs : List Char} {js : List Json} {rest : List Char},
    items fuel cs = .ok (js, rest) → ReadsItems cs js rest
  | 0, _, _, _, h => by cases h
  | fuel + 1, cs, js, rest, h => by
    rw [items] at h
    obtain ⟨⟨j, ds⟩, hj, h⟩ := Attempt.bind_eq_ok.mp h
    dsimp only at h
    split at h
    next es hes =>
      cases h
      exact .last (readsValue_of_value hj) hes
    next es hes =>
      obtain ⟨⟨ks, fs⟩, hks, heq⟩ := Attempt.map_eq_ok.mp h
      cases heq
      exact .more (readsValue_of_value hj) hes (readsItems_of_items hks)
    next => cases h

theorem readsMembers_of_members :
    ∀ {fuel : Nat} {cs : List Char} {ms : List (String × Json)} {rest : List Char},
    members fuel cs = .ok (ms, rest) → ReadsMembers cs ms rest
  | 0, _, _, _, h => by cases h
  | fuel + 1, cs, ms, rest, h => by
    rw [members.eq_def] at h
    dsimp only at h
    split at h
    next ds =>
      obtain ⟨⟨k, es⟩, hk, h⟩ := Attempt.bind_eq_ok.mp h
      dsimp only at h
      split at h
      next fs hfs =>
        obtain ⟨⟨j, gs⟩, hj, h⟩ := Attempt.bind_eq_ok.mp h
        dsimp only at h
        split at h
        next hs hhs =>
          cases h
          exact .last hk hfs (readsValue_of_value hj) hhs
        next hs hhs =>
          obtain ⟨⟨ks, is⟩, hks, heq⟩ := Attempt.map_eq_ok.mp h
          cases heq
          exact .more hk hfs (readsValue_of_value hj) hhs (readsMembers_of_members hks)
        next => cases h
      next => cases h
    next => cases h

end

/-! ## From the ways to the reader -/

theorem length_skipBlanks (cs : List Char) : (skipBlanks cs).length ≤ cs.length :=
  List.length_dropWhile_le _ cs

theorem length_of_skipBlanks (h : skipBlanks cs = c :: ds) : ds.length < cs.length := by
  have hlength := length_skipBlanks cs
  rwa [h] at hlength

theorem exists_succ_of_length {fuel : Nat} (h : 2 * (c :: cs).length ≤ fuel) :
    ∃ n, fuel = n + 1 ∧ 2 * cs.length < n :=
  ⟨fuel - 1, by rw [List.length_cons] at h; omega, by rw [List.length_cons] at h; omega⟩

mutual

/-- A value takes at least a character, so two steps for every character are enough for it. -/
theorem ReadsValue.value : ∀ {cs : List Char} {j : Json} {rest : List Char},
    ReadsValue cs j rest → rest.length < cs.length ∧
      ∀ fuel, 2 * cs.length ≤ fuel → value fuel cs = .ok (j, rest)
  | _, _, _, @ReadsValue.text cs rest s h => by
    refine ⟨(length_of_string h).trans (Nat.lt_succ_self _), fun fuel hfuel => ?_⟩
    obtain ⟨fuel, rfl, -⟩ := exists_succ_of_length hfuel
    simp only [Json.value, h, Except.map]
  | cs, j, rest, .scalar h hlimit => by
    refine ⟨length_of_scalar h, fun fuel hfuel => ?_⟩
    obtain ⟨c, ds, rfl, -, hhead⟩ := head_of_scalar h
    obtain ⟨fuel, rfl, -⟩ := exists_succ_of_length hfuel
    exact (value_of_ne (by rintro d ⟨⟩; exact hhead) h fuel).trans
      (withinLimit_eq_ok.mpr ⟨rfl, hlimit⟩)
  | _, _, _, @ReadsValue.emptyArray cs rest h => by
    refine ⟨(length_of_skipBlanks h).trans (Nat.lt_succ_self _), fun fuel hfuel => ?_⟩
    obtain ⟨fuel, rfl, -⟩ := exists_succ_of_length hfuel
    simp only [Json.value, h]
  | _, _, _, @ReadsValue.array cs rest js h => by
    have hskip := length_skipBlanks cs
    obtain ⟨hlength, hitems⟩ := h.items
    refine ⟨hlength.trans (Nat.lt_succ_of_le hskip), fun fuel hfuel => ?_⟩
    obtain ⟨fuel, rfl, hfuel⟩ := exists_succ_of_length hfuel
    exact value_array (hitems fuel (by omega))
  | _, _, _, @ReadsValue.emptyObject cs rest h => by
    refine ⟨(length_of_skipBlanks h).trans (Nat.lt_succ_self _), fun fuel hfuel => ?_⟩
    obtain ⟨fuel, rfl, -⟩ := exists_succ_of_length hfuel
    simp only [Json.value, h]
  | _, _, _, @ReadsValue.object cs rest ms h => by
    have hskip := length_skipBlanks cs
    obtain ⟨hlength, hmembers⟩ := h.members
    refine ⟨hlength.trans (Nat.lt_succ_of_le hskip), fun fuel hfuel => ?_⟩
    obtain ⟨fuel, rfl, hfuel⟩ := exists_succ_of_length hfuel
    exact value_object (hmembers fuel (by omega))

theorem ReadsItems.items : ∀ {cs : List Char} {js : List Json} {rest : List Char},
    ReadsItems cs js rest → rest.length < cs.length ∧
      ∀ fuel, 2 * cs.length < fuel → items fuel cs = .ok (js, rest)
  | cs, _, rest, @ReadsItems.last _ ds _ j h hend => by
    obtain ⟨hlength, hvalue⟩ := h.value
    have hbracket := length_of_skipBlanks hend
    refine ⟨by omega, fun fuel hfuel => ?_⟩
    obtain ⟨fuel, rfl⟩ := Nat.exists_eq_succ_of_ne_zero (Nat.ne_zero_of_lt hfuel)
    exact items_last (hvalue fuel (Nat.lt_succ_iff.mp hfuel)) hend
  | cs, _, rest, @ReadsItems.more _ ds es _ j js h hcomma hmore => by
    obtain ⟨hlength, hvalue⟩ := h.value
    obtain ⟨hrest, hitems⟩ := hmore.items
    have hmark := length_of_skipBlanks hcomma
    have hskip := length_skipBlanks es
    refine ⟨by omega, fun fuel hfuel => ?_⟩
    obtain ⟨fuel, rfl⟩ := Nat.exists_eq_succ_of_ne_zero (Nat.ne_zero_of_lt hfuel)
    simp only [Json.items, hvalue fuel (Nat.lt_succ_iff.mp hfuel), Except.bind, hcomma,
      hitems fuel (by omega), Except.map]

theorem ReadsMembers.members : ∀ {cs : List Char} {ms : List (String × Json)} {rest : List Char},
    ReadsMembers cs ms rest → rest.length < cs.length ∧
      ∀ fuel, 2 * cs.length < fuel → members fuel cs = .ok (ms, rest)
  | _, _, rest, @ReadsMembers.last cs ds es fs _ k j hkey hcolon h hend => by
    have hlengthKey := length_of_string hkey
    have hmark := length_of_skipBlanks hcolon
    have hskip := length_skipBlanks es
    obtain ⟨hlength, hvalue⟩ := h.value
    have hbracket := length_of_skipBlanks hend
    rw [List.length_cons]
    refine ⟨by omega, fun fuel hfuel => ?_⟩
    obtain ⟨fuel, rfl⟩ := Nat.exists_eq_succ_of_ne_zero (Nat.ne_zero_of_lt hfuel)
    simp only [Json.members, hkey, Except.bind, hcolon, hvalue fuel (by omega), hend]
  | _, _, rest, @ReadsMembers.more cs ds es fs gs _ k j ms hkey hcolon h hcomma hmore => by
    have hlengthKey := length_of_string hkey
    have hmark := length_of_skipBlanks hcolon
    have hskip := length_skipBlanks es
    obtain ⟨hlength, hvalue⟩ := h.value
    have hmark' := length_of_skipBlanks hcomma
    have hskip' := length_skipBlanks gs
    obtain ⟨hrest, hmembers⟩ := hmore.members
    rw [List.length_cons]
    refine ⟨by omega, fun fuel hfuel => ?_⟩
    obtain ⟨fuel, rfl⟩ := Nat.exists_eq_succ_of_ne_zero (Nat.ne_zero_of_lt hfuel)
    simp only [Json.members, hkey, Except.bind, hcolon, hvalue fuel (by omega), hcomma,
      hmembers fuel (by omega), Except.map]

end

/-! ## Whole texts -/

/-- A value starts with no blank. -/
theorem ReadsValue.head (h : ReadsValue cs j rest) :
    ∃ c ds, cs = c :: ds ∧ Text.isBlank c = false := by
  cases h with
  | scalar h =>
    obtain ⟨c, ds, hcs, hblank, -⟩ := head_of_scalar h
    exact ⟨c, ds, hcs, hblank⟩
  | _ => exact ⟨_, _, rfl, by decide⟩

/-- A whole text is read exactly if it is a value with blanks around it. -/
theorem read_eq_ok_iff : read cs = .ok j ↔
    ∃ ds, ReadsValue (skipBlanks cs) j ds ∧ skipBlanks ds = [] := by
  constructor
  · intro h
    unfold read at h
    split at h
    next => cases h
    next =>
      obtain ⟨⟨k, ds⟩, hvalue, hend⟩ := Attempt.bind_eq_ok.mp h
      refine ⟨ds, ?_⟩
      dsimp only at hend
      split at hend
      next hds =>
        cases hend
        exact ⟨readsValue_of_value hvalue, hds⟩
      next => cases hend
  · rintro ⟨ds, hread, hds⟩
    have hvalue := hread.value.2 (2 * cs.length + 2) (by have := length_skipBlanks cs; omega)
    unfold read
    split
    next es =>
      obtain ⟨c, fs, hcs, -, -, hmark⟩ := exists_head_of_value hvalue
      have hkept : skipBlanks ('\uFEFF' :: es) = '\uFEFF' :: es := rfl
      rw [hkept] at hcs
      cases hcs
      exact absurd rfl hmark
    next =>
      rw [hvalue]
      simp only [Except.bind, hds]

theorem parse_eq_ok_iff {text : String} {j : Json} :
    parse text = .ok j ↔ read text.toList = .ok j := by
  unfold parse
  split <;> simp_all

end Json
end ServiceCatalog
