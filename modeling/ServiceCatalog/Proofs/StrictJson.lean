import ServiceCatalog.Proofs.JsonReading

/-!
# Strict JSON

JSON has no numbers beyond the finite ones.  The reader and the writer of this library know three
names for such numbers, and this file says what that amounts to for the writer: its text is JSON in
the strict sense exactly if all numbers that it writes are finite (`isStrict_render_iff`).

The strict sense is a grammar (`IsStrict`).  As in `ReadsValue` a part of a text is given by the
text from its start on and the text behind it, but where the reader skips all blanks the grammar
admits any number of them.  Strings are the same for both.

* `StrictValue.of_finite`: a value with finite numbers is written by the rules of the grammar; by
  recursion on the value.
* `StrictValue.bareName_eq`: by the rules of the grammar no `N` and no `I` is written outside of a
  string; by induction on the rules.
* `bareName_writeAt`: of a value with a number that is not finite, such a letter is written.
-/

namespace ServiceCatalog
namespace Json

/-! ## The grammar -/

/-- A point with digits behind it, or nothing. -/
inductive IsFraction : List Char → Prop
  | none : IsFraction []
  | digits {ds : List Char} (hne : ds ≠ []) (hall : AllDigits ds) : IsFraction ('.' :: ds)

/-- An exponent with or without a sign, or nothing. -/
inductive IsExponent : List Char → Prop
  | none : IsExponent []
  | digits {e : Char} {signs ds : List Char} (he : e = 'e' ∨ e = 'E')
      (hsigns : signs = [] ∨ signs = ['+'] ∨ signs = ['-']) (hne : ds ≠ []) (hall : AllDigits ds) :
      IsExponent (e :: (signs ++ ds))

/-- A number: a sign, where there is one, digits, a fraction and an exponent. -/
inductive IsNumber : List Char → Prop
  | parts {whole fraction exponent : List Char} (negative : Bool) (hwhole : IsWhole whole)
      (hfraction : IsFraction fraction) (hexponent : IsExponent exponent) :
      IsNumber (sign negative ++ (whole ++ (fraction ++ exponent)))

/-- Blanks at the start of a text, and the text behind them. -/
inductive Blanks : List Char → List Char → Prop
  | nil (rest : List Char) : Blanks rest rest
  | cons {c : Char} {cs rest : List Char} (hc : isBlank c = true) (h : Blanks cs rest) :
      Blanks (c :: cs) rest

mutual

/-- A value at the start of a text by the rules of JSON, and the text behind it. -/
inductive StrictValue : List Char → List Char → Prop
  | nullName (rest : List Char) : StrictValue ("null".toList ++ rest) rest
  | trueName (rest : List Char) : StrictValue ("true".toList ++ rest) rest
  | falseName (rest : List Char) : StrictValue ("false".toList ++ rest) rest
  | number {ds : List Char} (h : IsNumber ds) (rest : List Char) : StrictValue (ds ++ rest) rest
  | text {cs rest : List Char} {us : List Nat} (h : ReadsUnits cs us rest) :
      StrictValue ('"' :: cs) rest
  | emptyArray {cs rest : List Char} (h : Blanks cs (']' :: rest)) : StrictValue ('[' :: cs) rest
  | array {cs ds rest : List Char} (hblanks : Blanks cs ds) (h : StrictItems ds rest) :
      StrictValue ('[' :: cs) rest
  | emptyObject {cs rest : List Char} (h : Blanks cs ('\x7d' :: rest)) :
      StrictValue ('\x7b' :: cs) rest
  | object {cs ds rest : List Char} (hblanks : Blanks cs ds) (h : StrictMembers ds rest) :
      StrictValue ('\x7b' :: cs) rest

/-- The items of an array up to its end by the rules of JSON, and the text behind it. -/
inductive StrictItems : List Char → List Char → Prop
  | last {cs ds rest : List Char} (h : StrictValue cs ds) (hend : Blanks ds (']' :: rest)) :
      StrictItems cs rest
  | more {cs ds es fs rest : List Char} (h : StrictValue cs ds) (hcomma : Blanks ds (',' :: es))
      (hblanks : Blanks es fs) (hmore : StrictItems fs rest) : StrictItems cs rest

/-- The members of an object up to its end by the rules of JSON, and the text behind it. -/
inductive StrictMembers : List Char → List Char → Prop
  | last {cs ds es fs gs rest : List Char} {us : List Nat} (hkey : ReadsUnits cs us ds)
      (hcolon : Blanks ds (':' :: es)) (hblanks : Blanks es fs) (h : StrictValue fs gs)
      (hend : Blanks gs ('\x7d' :: rest)) : StrictMembers ('"' :: cs) rest
  | more {cs ds es fs gs hs is rest : List Char} {us : List Nat} (hkey : ReadsUnits cs us ds)
      (hcolon : Blanks ds (':' :: es)) (hblanks : Blanks es fs) (h : StrictValue fs gs)
      (hcomma : Blanks gs (',' :: hs)) (hblanks' : Blanks hs is) (hmore : StrictMembers is rest) :
      StrictMembers ('"' :: cs) rest

end

/-- A text is JSON in the strict sense: a value with blanks around it. -/
def IsStrict (cs : List Char) : Prop :=
  ∃ ds es, Blanks cs ds ∧ StrictValue ds es ∧ Blanks es []

variable {c : Char} {cs ds rest : List Char} {j : Json} {us : List Nat}

/-! ## Finite numbers -/

mutual

/-- All numbers in a value are finite. -/
def hasFiniteNumbers : Json → Bool
  | .float x => x.isFinite
  | .array js => itemsAreFinite js
  | .object ms => membersAreFinite ms
  | _ => true

/-- All numbers in some items are finite. -/
def itemsAreFinite : List Json → Bool
  | [] => true
  | j :: js => hasFiniteNumbers j && itemsAreFinite js

/-- All numbers in the values of some members are finite. -/
def membersAreFinite : List (String × Json) → Bool
  | [] => true
  | (_, j) :: ms => hasFiniteNumbers j && membersAreFinite ms

end

/-! ## What is written for finite numbers -/

theorem blanks_newLine (level : Nat) (cs : List Char) : Blanks (newLine level ++ cs) cs := by
  refine .cons rfl ?_
  induction 2 * level with
  | zero => exact .nil cs
  | succ n ih => exact .cons rfl ih

theorem isNumber_writtenInt (n : Int) : IsNumber (writtenInt n) := by
  have hparts := IsNumber.parts (decide (n < 0)) (isWhole_toDigits n.natAbs) .none .none
  rwa [List.append_nil, List.append_nil, ← writtenInt_eq_sign] at hparts

theorem isFraction_pointed (h : AllDigits ds) : IsFraction (pointed ds) := by
  cases ds with
  | nil => exact .none
  | cons d ds => exact .digits (List.cons_ne_nil d ds) h

/-- A decimal is a number however it is laid out, and with a sign as well. -/
theorem isNumber_decimal {d : Double.Decimal} (h : d.digits ≠ 0) (layout : Double.Layout)
    (negative : Bool) : IsNumber (sign negative ++ layout.decimal d) := by
  obtain ⟨c, ds, hds, hc, hall⟩ := exists_significantDigits h
  unfold Double.Layout.decimal
  dsimp only
  rw [hds]
  split
  · obtain ⟨whole, places, htext, hwhole, hne, hplaces, -⟩ := exists_positional hc hall _
    rw [htext, ← List.append_nil ('.' :: places)]
    exact .parts negative hwhole (.digits hne hplaces) .none
  · obtain ⟨size, htext, hwhole, hplaces, hne, hsize, -⟩ := exists_scientific hc hall _ _
    rw [htext]
    refine .parts negative hwhole (isFraction_pointed hplaces) ?_
    split
    · exact @IsExponent.digits 'e' ['-'] size (.inl rfl) (.inr (.inr rfl)) hne hsize
    · exact @IsExponent.digits 'e' ['+'] size (.inl rfl) (.inr (.inl rfl)) hne hsize

theorem isNumber_write (negative : Bool) (rank : Fin Double.finiteRanks) :
    IsNumber (doubleLayout.write (.finite negative rank)) := by
  show IsNumber (sign negative ++ if rank.val = 0 then ['0', '.', '0'] else _)
  by_cases hzero : rank.val = 0
  · rw [if_pos hzero]
    exact .parts negative .zero (.digits (List.cons_ne_nil '0' []) (allDigits_zeros 1)) .none
  · rw [if_neg hzero]
    have hrank := Nat.pos_of_ne_zero hzero
    exact isNumber_decimal (Double.digits_ne_zero hrank (Double.shortest_roundsTo hrank)) _ _

theorem readsUnits_writeText (s : String) (rest : List Char) :
    ∃ us, ReadsUnits (s.toList.flatMap escapeChar ++ '"' :: rest) us rest := by
  obtain ⟨us, hus, -⟩ := string_eq_ok_iff.mp (@string_writeText [] rest s)
  exact ⟨us, hus⟩

mutual

/-- **A value with finite numbers is written by the rules of JSON.** -/
theorem StrictValue.of_finite : ∀ (j : Json) (level : Nat) (rest : List Char),
    j.hasFiniteNumbers = true → StrictValue (writeAt level j ++ rest) rest
  | .null, _, rest, _ => .nullName rest
  | .bool b, _, rest, _ => by
    cases b with
    | true => exact .trueName rest
    | false => exact .falseName rest
  | .int n, _, rest, _ => .number (isNumber_writtenInt n) rest
  | .float x, _, rest, h => by
    cases x with
    | finite negative rank => exact .number (isNumber_write negative rank) rest
    | _ => cases h
  | .text s, _, rest, _ => by
    obtain ⟨us, hus⟩ := readsUnits_writeText s rest
    rw [writeAt, writeText_append]
    exact .text hus
  | .array [], _, rest, _ => .emptyArray (.nil _)
  | .array (j :: js), level, rest, h => by
    obtain ⟨ds, hblanks, hitems⟩ :=
      StrictItems.of_finite (j :: js) (level + 1) level rest (List.cons_ne_nil j js) h
    rw [writeAt, List.append_assoc, List.append_assoc]
    exact .array hblanks hitems
  | .object [], _, rest, _ => .emptyObject (.nil _)
  | .object (m :: ms), level, rest, h => by
    obtain ⟨ds, hblanks, hmembers⟩ :=
      StrictMembers.of_finite (m :: ms) (level + 1) level rest (List.cons_ne_nil m ms) h
    rw [writeAt, List.append_assoc, List.append_assoc]
    exact .object hblanks hmembers

theorem StrictItems.of_finite : ∀ (js : List Json) (level outer : Nat) (rest : List Char),
    js ≠ [] → itemsAreFinite js = true →
      ∃ ds, Blanks (writeItems level js ++ (newLine outer ++ ']' :: rest)) ds ∧ StrictItems ds rest
  | [], _, _, _, hne, _ => absurd rfl hne
  | [j], level, outer, rest, _, h => by
    have hvalue := StrictValue.of_finite j level (newLine outer ++ ']' :: rest)
      (Bool.and_eq_true_iff.mp h).1
    rw [writeItems, List.append_assoc]
    exact ⟨_, blanks_newLine level _, .last hvalue (blanks_newLine outer _)⟩
  | j :: k :: js, level, outer, rest, _, h => by
    obtain ⟨hj, hjs⟩ := Bool.and_eq_true_iff.mp h
    obtain ⟨ds, hblanks, hitems⟩ :=
      StrictItems.of_finite (k :: js) level outer rest (List.cons_ne_nil k js) hjs
    have hvalue := StrictValue.of_finite j level
      (',' :: (writeItems level (k :: js) ++ (newLine outer ++ ']' :: rest))) hj
    rw [writeItems.eq_3 level j (k :: js) (List.cons_ne_nil k js), List.append_assoc,
      List.append_assoc]
    exact ⟨_, blanks_newLine level _, .more hvalue (.nil _) hblanks hitems⟩

theorem StrictMembers.of_finite :
    ∀ (ms : List (String × Json)) (level outer : Nat) (rest : List Char),
    ms ≠ [] → membersAreFinite ms = true →
      ∃ ds, Blanks (writeMembers level ms ++ (newLine outer ++ '\x7d' :: rest)) ds ∧
        StrictMembers ds rest
  | [], _, _, _, hne, _ => absurd rfl hne
  | [(k, j)], level, outer, rest, _, h => by
    have hvalue := StrictValue.of_finite j level (newLine outer ++ '\x7d' :: rest)
      (Bool.and_eq_true_iff.mp h).1
    obtain ⟨us, hus⟩ := readsUnits_writeText k
      (':' :: ' ' :: (writeAt level j ++ (newLine outer ++ '\x7d' :: rest)))
    rw [writeMembers, List.append_assoc, List.append_assoc, writeText_append]
    exact ⟨_, blanks_newLine level _, .last hus (.nil _) (.cons rfl (.nil _)) hvalue
      (blanks_newLine outer _)⟩
  | (k, j) :: m :: ms, level, outer, rest, _, h => by
    obtain ⟨hj, hms⟩ := Bool.and_eq_true_iff.mp h
    obtain ⟨ds, hblanks, hmembers⟩ :=
      StrictMembers.of_finite (m :: ms) level outer rest (List.cons_ne_nil m ms) hms
    have hvalue := StrictValue.of_finite j level
      (',' :: (writeMembers level (m :: ms) ++ (newLine outer ++ '\x7d' :: rest))) hj
    obtain ⟨us, hus⟩ := readsUnits_writeText k (':' :: ' ' :: (writeAt level j ++
      ',' :: (writeMembers level (m :: ms) ++ (newLine outer ++ '\x7d' :: rest))))
    rw [writeMembers.eq_3 level k j (m :: ms) (List.cons_ne_nil m ms), List.append_assoc,
      List.append_assoc, List.append_assoc, writeText_append]
    exact ⟨_, blanks_newLine level _, .more hus (.nil _) (.cons rfl (.nil _)) hvalue (.nil _)
      hblanks hmembers⟩

end

/-! ## What is written for other numbers -/

/-- An `N` or an `I` stands outside of strings.  The first argument says whether the text starts
inside of one. -/
def bareName : (inside : Bool) → List Char → Bool
  | _, [] => false
  | true, '\\' :: _ :: cs => bareName true cs
  | true, c :: cs => bareName (c ≠ '"') cs
  | false, c :: cs => c = 'N' || c = 'I' || bareName (c = '"') cs

theorem bareName_inside (hbackslash : c ≠ '\\') (hquote : c ≠ '"') (cs : List Char) :
    bareName true (c :: cs) = bareName true cs := by
  rw [bareName.eq_3 c cs fun _ _ h _ => hbackslash h, decide_eq_true hquote]

/-- Characters without a quote and without the two letters. -/
def IsPlain (ds : List Char) : Prop := ∀ c ∈ ds, c ≠ '"' ∧ c ≠ 'N' ∧ c ≠ 'I'

theorem bareName_append (hds : IsPlain ds) (rest : List Char) :
    bareName false (ds ++ rest) = bareName false rest := by
  induction ds with
  | nil => rfl
  | cons c ds ih =>
    obtain ⟨hquote, hN, hI⟩ := hds c List.mem_cons_self
    rw [List.cons_append, bareName, decide_eq_false hquote, decide_eq_false hN,
      decide_eq_false hI, ih fun d hd => hds d (List.mem_cons_of_mem c hd)]
    rfl

/-- No letter in a string counts. -/
theorem ReadsUnits.bareName_eq (h : ReadsUnits cs us rest) :
    bareName true cs = bareName false rest := by
  induction h with
  | close rest => rfl
  | @digits a b c d n cs rest us hn h ih =>
    have hplain : ∀ e ∈ [a, b, c, d], e ≠ '\\' ∧ e ≠ '"' := by
      intro e he
      refine ⟨?_, ?_⟩ <;> rintro rfl <;> exact ne_none_of_hexValue? hn _ he rfl
    simp only [List.forall_mem_cons] at hplain
    obtain ⟨ha, hb, hc, hd, -⟩ := hplain
    rw [bareName, bareName_inside ha.1 ha.2, bareName_inside hb.1 hb.2, bareName_inside hc.1 hc.2,
      bareName_inside hd.1 hd.2, ih]
  | letter he h ih => rw [bareName, ih]
  | plain hquote hbackslash hprinted h ih => rw [bareName_inside hbackslash hquote, ih]

theorem Blanks.bareName_eq (h : Blanks cs rest) : bareName false cs = bareName false rest := by
  induction h with
  | nil => rfl
  | @cons c cs rest hc h ih =>
    have hplain : IsPlain [c] := by
      intro d hd
      rw [List.mem_singleton.mp hd]
      refine ⟨?_, ?_, ?_⟩ <;> rintro rfl <;> cases hc
    exact (bareName_append hplain cs).trans ih

/-- A character that a number may hold: a digit, a sign, a point, or the letter of an exponent. -/
def isNumberChar (c : Char) : Bool := c.isDigit || c ∈ ['-', '+', '.', 'e', 'E']

/-- Characters of numbers. -/
def AreNumberChars (ds : List Char) : Prop := ∀ c ∈ ds, isNumberChar c = true

namespace AreNumberChars

theorem nil : AreNumberChars [] := fun _ h => absurd h List.not_mem_nil

theorem cons (hc : isNumberChar c = true) (hds : AreNumberChars ds) : AreNumberChars (c :: ds) :=
  List.forall_mem_cons.mpr ⟨hc, hds⟩

theorem append (hcs : AreNumberChars cs) (hds : AreNumberChars ds) : AreNumberChars (cs ++ ds) :=
  List.forall_mem_append.mpr ⟨hcs, hds⟩

theorem of_allDigits (h : AllDigits ds) : AreNumberChars ds := by
  intro c hc
  rw [isNumberChar, h c hc, Bool.true_or]

theorem of_isFraction (h : IsFraction ds) : AreNumberChars ds := by
  cases h with
  | none => exact .nil
  | digits _ hall => exact .cons rfl (.of_allDigits hall)

theorem of_isExponent (h : IsExponent ds) : AreNumberChars ds := by
  cases h with
  | none => exact .nil
  | @digits e signs ds he hsigns _ hall =>
    have hletter : isNumberChar e = true := by rcases he with rfl | rfl <;> rfl
    refine .cons hletter (.append ?_ (.of_allDigits hall))
    rcases hsigns with rfl | rfl | rfl
    · exact .nil
    · exact .cons rfl .nil
    · exact .cons rfl .nil

/-- A number is made of digits, signs, points and letters of exponents. -/
theorem of_isNumber (h : IsNumber ds) : AreNumberChars ds := by
  obtain ⟨negative, hwhole, hfraction, hexponent⟩ := h
  refine .append ?_ (.append ?_ (.append (.of_isFraction hfraction) (.of_isExponent hexponent)))
  · cases negative with
    | false => exact .nil
    | true => exact .cons rfl .nil
  · cases hwhole with
    | zero => exact .cons rfl .nil
    | digits _ hall => exact .of_allDigits hall

end AreNumberChars

theorem IsNumber.isPlain (h : IsNumber ds) : IsPlain ds := by
  intro c hc
  have hchar := AreNumberChars.of_isNumber h c hc
  refine ⟨?_, ?_, ?_⟩ <;> rintro rfl <;> cases hchar

mutual

/-- **By the rules of JSON no `N` and no `I` is written outside of a string.** -/
theorem StrictValue.bareName_eq : ∀ {cs rest : List Char},
    StrictValue cs rest → bareName false cs = bareName false rest
  | _, _, .nullName rest => rfl
  | _, _, .trueName rest => rfl
  | _, _, .falseName rest => rfl
  | _, _, .number h rest => bareName_append h.isPlain rest
  | _, _, .text h => h.bareName_eq
  | _, _, .emptyArray h => h.bareName_eq
  | _, _, .array hblanks h => hblanks.bareName_eq.trans h.bareName_eq
  | _, _, .emptyObject h => h.bareName_eq
  | _, _, .object hblanks h => hblanks.bareName_eq.trans h.bareName_eq

theorem StrictItems.bareName_eq : ∀ {cs rest : List Char},
    StrictItems cs rest → bareName false cs = bareName false rest
  | _, _, .last h hend => h.bareName_eq.trans hend.bareName_eq
  | _, _, .more h hcomma hblanks hmore =>
    h.bareName_eq.trans (hcomma.bareName_eq.trans (hblanks.bareName_eq.trans hmore.bareName_eq))

theorem StrictMembers.bareName_eq : ∀ {cs rest : List Char},
    StrictMembers cs rest → bareName false cs = bareName false rest
  | _, _, .last hkey hcolon hblanks h hend =>
    hkey.bareName_eq.trans (hcolon.bareName_eq.trans
      (hblanks.bareName_eq.trans (h.bareName_eq.trans hend.bareName_eq)))
  | _, _, .more hkey hcolon hblanks h hcomma hblanks' hmore =>
    hkey.bareName_eq.trans (hcolon.bareName_eq.trans (hblanks.bareName_eq.trans
      (h.bareName_eq.trans (hcomma.bareName_eq.trans
        (hblanks'.bareName_eq.trans hmore.bareName_eq)))))

end

theorem IsStrict.bareName_eq (h : IsStrict cs) : bareName false cs = false := by
  obtain ⟨ds, es, hfront, hvalue, hback⟩ := h
  rw [hfront.bareName_eq, hvalue.bareName_eq, hback.bareName_eq]
  rfl

theorem bareName_writeText (s : String) (rest : List Char) :
    bareName false (writeText s ++ rest) = bareName false rest := by
  obtain ⟨us, hus⟩ := readsUnits_writeText s rest
  rw [writeText_append]
  exact hus.bareName_eq

mutual

/-- **Of a number that is not finite a letter is written.** -/
theorem bareName_writeAt : ∀ (j : Json) (level : Nat) (rest : List Char),
    bareName false (writeAt level j ++ rest) = (!j.hasFiniteNumbers || bareName false rest)
  | .null, _, rest => rfl
  | .bool b, _, rest => by cases b <;> rfl
  | .int n, _, rest => bareName_append (isNumber_writtenInt n).isPlain rest
  | .float x, _, rest => by
    cases x with
    | nan => rfl
    | infinite negative => cases negative <;> rfl
    | finite negative rank => exact bareName_append (isNumber_write negative rank).isPlain rest
  | .text s, _, rest => bareName_writeText s rest
  | .array [], _, rest => rfl
  | .array (j :: js), level, rest => by
    rw [writeAt, List.append_assoc, List.append_assoc]
    have hitems := bareName_writeItems (j :: js) (level + 1) (newLine level ++ ']' :: rest)
    rw [(blanks_newLine level _).bareName_eq] at hitems
    exact hitems
  | .object [], _, rest => rfl
  | .object (m :: ms), level, rest => by
    rw [writeAt, List.append_assoc, List.append_assoc]
    have hmembers := bareName_writeMembers (m :: ms) (level + 1) (newLine level ++ '\x7d' :: rest)
    rw [(blanks_newLine level _).bareName_eq] at hmembers
    exact hmembers

theorem bareName_writeItems : ∀ (js : List Json) (level : Nat) (rest : List Char),
    bareName false (writeItems level js ++ rest) = (!itemsAreFinite js || bareName false rest)
  | [], _, rest => rfl
  | [j], level, rest => by
    rw [writeItems, List.append_assoc, (blanks_newLine level _).bareName_eq, bareName_writeAt,
      itemsAreFinite, itemsAreFinite, Bool.and_true]
  | j :: k :: js, level, rest => by
    rw [writeItems.eq_3 level j (k :: js) (List.cons_ne_nil k js), List.append_assoc,
      List.append_assoc, (blanks_newLine level _).bareName_eq, bareName_writeAt, itemsAreFinite,
      Bool.not_and, Bool.or_assoc]
    exact congrArg _ (bareName_writeItems (k :: js) level rest)

theorem bareName_writeMembers : ∀ (ms : List (String × Json)) (level : Nat) (rest : List Char),
    bareName false (writeMembers level ms ++ rest) = (!membersAreFinite ms || bareName false rest)
  | [], _, rest => rfl
  | [(k, j)], level, rest => by
    rw [writeMembers, List.append_assoc, List.append_assoc, (blanks_newLine level _).bareName_eq,
      bareName_writeText, membersAreFinite, membersAreFinite, Bool.and_true]
    exact bareName_writeAt j level rest
  | (k, j) :: m :: ms, level, rest => by
    rw [writeMembers.eq_3 level k j (m :: ms) (List.cons_ne_nil m ms), List.append_assoc,
      List.append_assoc, List.append_assoc, (blanks_newLine level _).bareName_eq,
      bareName_writeText, membersAreFinite, Bool.not_and, Bool.or_assoc]
    exact (bareName_writeAt j level _).trans
      (congrArg _ (bareName_writeMembers (m :: ms) level rest))

end

/-! ## Whole texts -/

/-- **What is printed is JSON in the strict sense exactly if all its numbers are finite.** -/
theorem isStrict_render_iff :
    IsStrict (j.render ++ "\n").toList ↔ j.hasFiniteNumbers = true := by
  rw [toList_render]
  refine ⟨fun h => ?_, fun h => ?_⟩
  · have hbare := h.bareName_eq
    rw [bareName_writeAt, Bool.or_eq_false_iff, Bool.not_eq_false'] at hbare
    exact hbare.1
  · exact ⟨_, _, .nil _, .of_finite j 0 ['\n'] h, .cons rfl (.nil [])⟩

end Json
end ServiceCatalog
