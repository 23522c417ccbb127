import Mathlib.Data.List.Chain
import Mathlib.Data.List.DropRight
import ServiceCatalog.Naming.Reserved
import ServiceCatalog.Proofs.LetterCase

/-!
# Names that are made again

A name that is reserved gets a second word, and the two are made into an identifier once more.  It
is tempting to take for granted that the first of them, being an identifier already, survives this
unchanged.  It need not: three words of one letter each make `aBC`, whose capitals look like an
acronym, and made again it is `aBc`.

What is left alone is known from the law of `ServiceCatalog.Proofs.LetterCase`, letter by letter
(`cased_eq_self_iff`): a letter changes only if it is small and stands behind a digit, or if it is a
capital between a capital and what is no small letter.  The second condition speaks of three
neighbours at a time (`PairsEndRuns`).  Said of whole runs it is `HasShortRuns`, and the two agree
because a longest run around two neighbouring capitals has no room for a third one.

The main statement is `identifier_eq_self_iff`.
-/

namespace ServiceCatalog
namespace Naming

/-! ## Runs of capitals -/

/-- Every longest run of capitals is one capital, or two in front of a small letter. -/
def HasShortRuns (cs : List Char) : Prop :=
  ∀ before run after, cs = before ++ run ++ after → run ≠ [] → (∀ c ∈ run, c.isUpper = true) →
    (∀ c ∈ before.getLast?, c.isUpper = false) → (∀ c ∈ after.head?, c.isUpper = false) →
    run.length = 1 ∨ run.length = 2 ∧ ∃ c ∈ after.head?, c.isLower = true

/-- Behind any two neighbouring capitals stands a small letter. -/
def PairsEndRuns (cs : List Char) : Prop :=
  ∀ before a b after, cs = before ++ a :: b :: after → a.isUpper = true → b.isUpper = true →
    ∃ c ∈ after.head?, c.isLower = true

variable {a b : Char} {cs : List Char} {next : Option Char}

/-- In front of a longest run of capitals stands none. -/
theorem isUpper_of_getLast?_rdropWhile (cs : List Char) :
    ∀ c ∈ (cs.rdropWhile Char.isUpper).getLast?, c.isUpper = false := by
  intro c hc
  have hne : cs.rdropWhile Char.isUpper ≠ [] := by
    intro hnil
    rw [hnil] at hc
    cases hc
  rw [List.getLast?_eq_some_getLast hne] at hc
  rw [← Option.some.inj hc]
  exact Bool.eq_false_iff.mpr (List.rdropWhile_last_not _ _ hne)

/-- Behind a longest run of capitals stands none. -/
theorem isUpper_of_head?_dropWhile (cs : List Char) :
    ∀ c ∈ (cs.dropWhile Char.isUpper).head?, c.isUpper = false := by
  intro c hc
  have hhead := List.head?_dropWhile_not Char.isUpper cs
  rwa [Option.mem_def.mp hc] at hhead

theorem PairsEndRuns.hasShortRuns (h : PairsEndRuns cs) : HasShortRuns cs := by
  intro before run after hcs hne hrun _ _
  match run, hne, hrun with
  | [a], _, _ => exact .inl rfl
  | [a, b], _, hrun =>
    have hsplit : cs = before ++ a :: b :: after := by rw [hcs, List.append_assoc]; rfl
    exact .inr ⟨rfl, h _ _ _ _ hsplit (hrun a (by simp)) (hrun b (by simp))⟩
  | a :: b :: c :: run, _, hrun =>
    have hsplit : cs = before ++ a :: b :: (c :: run ++ after) := by
      rw [hcs, List.append_assoc]
      rfl
    obtain ⟨d, hd, hlower⟩ := h _ _ _ _ hsplit (hrun a (by simp)) (hrun b (by simp))
    cases hd
    have hupper := hrun c (by simp)
    rw [isUpper_of_isLower hlower] at hupper
    cases hupper

theorem HasShortRuns.pairsEndRuns (h : HasShortRuns cs) : PairsEndRuns cs := by
  intro before a b after hcs ha hb
  -- the longest run around the two capitals has no room for a third one
  have hrun : cs = before.rdropWhile Char.isUpper ++
      (before.rtakeWhile Char.isUpper ++ a :: b :: after.takeWhile Char.isUpper) ++
        after.dropWhile Char.isUpper := by
    rw [hcs]
    conv_lhs => rw [← List.rdropWhile_append_rtakeWhile (p := Char.isUpper) (l := before),
      ← List.takeWhile_append_dropWhile (p := Char.isUpper) (l := after)]
    simp only [List.append_assoc, List.cons_append]
  have hupper : ∀ c ∈ before.rtakeWhile Char.isUpper ++ a :: b :: after.takeWhile Char.isUpper,
      c.isUpper = true := by
    intro c hc
    simp only [List.mem_append, List.mem_cons] at hc
    rcases hc with hc | rfl | rfl | hc
    · exact List.mem_rtakeWhile_imp hc
    · exact ha
    · exact hb
    · exact List.mem_takeWhile_imp hc
  have hshort := h _ _ _ hrun (List.append_ne_nil_of_right_ne_nil _ (List.cons_ne_nil _ _)) hupper
    (isUpper_of_getLast?_rdropWhile before) (isUpper_of_head?_dropWhile after)
  rw [List.length_append, List.length_cons, List.length_cons] at hshort
  rcases hshort with hone | ⟨htwo, hlower⟩
  · omega
  · have hnil : after.takeWhile Char.isUpper = [] := List.length_eq_zero_iff.mp (by omega)
    rwa [← List.takeWhile_append_dropWhile (p := Char.isUpper) (l := after), hnil]

theorem pairsEndRuns_cons_cons : PairsEndRuns (a :: b :: cs) ↔
    (a.isUpper = true → b.isUpper = true → ∃ c ∈ cs.head?, c.isLower = true) ∧
      PairsEndRuns (b :: cs) := by
  constructor
  · intro h
    refine ⟨h [] a b cs rfl, fun before c d after hcs => ?_⟩
    exact h (a :: before) c d after (by rw [hcs]; rfl)
  · rintro ⟨hfirst, hlater⟩ before c d after hcs
    cases before with
    | nil =>
      cases hcs
      exact hfirst
    | cons e before =>
      exact hlater before c d after (List.cons.inj hcs).2

/-! ## What is cased already -/

theorem isUpper_or_isLower_or_isDigit (h : a.isAlphanum = true) :
    a.isUpper = true ∨ a.isLower = true ∨ a.isDigit = true := by
  rwa [Char.isAlphanum, isAlpha_eq, Bool.or_eq_true, Bool.or_eq_true, or_assoc] at h

theorem toNat_lt_of_isAlphanum (h : a.isAlphanum = true) : a.toNat < 0x80 := by
  rw [isAlphanum_iff] at h
  omega

theorem toUpper_eq_self_iff (h : b.isAlphanum = true) : b.toUpper = b ↔ b.isLower = false :=
  forall_ascii (P := fun b => b.toUpper = b ↔ b.isLower = false) (by decide)
    (toNat_lt_of_isAlphanum h)

theorem toLower_eq_self_iff (h : b.isAlphanum = true) : b.toLower = b ↔ b.isUpper = false :=
  forall_ascii (P := fun b => b.toLower = b ↔ b.isUpper = false) (by decide)
    (toNat_lt_of_isAlphanum h)

/-- A letter or digit stays as it is unless it is small behind a digit, or a capital between a
capital and what is no small letter. -/
theorem cased_eq_self_iff (ha : a.isAlphanum = true) (hb : b.isAlphanum = true) :
    cased a b cs.head? = b ↔ (a.isDigit = true → b.isLower = false) ∧
      (a.isUpper = true → b.isUpper = true → ∃ c ∈ cs.head?, c.isLower = true) := by
  have hraises : raises a b cs.head? = true ↔ IsRaised a [] b cs :=
    @raises_iff a b [] cs ha nofun
  have hcased : cased a b cs.head? = b ↔
      (IsRaised a [] b cs → b.isLower = false) ∧ (¬ IsRaised a [] b cs → b.isUpper = false) := by
    rw [cased, ← hraises]
    cases raises a b cs.head? with
    | true => simp [toUpper_eq_self_iff hb]
    | false => simp [toLower_eq_self_iff hb]
  rw [hcased]
  constructor
  · rintro ⟨hraised, hnot⟩
    refine ⟨fun hdigit => hraised (.inl hdigit), fun hupper hb => ?_⟩
    by_contra hnone
    refine Bool.false_ne_true ((hnot ?_).symm.trans hb)
    rintro (hdigit | hgap | ⟨hlower, -⟩ | ⟨-, -, hnext⟩)
    · rw [isUpper_iff] at hupper
      rw [isDigit_iff] at hdigit
      omega
    · exact hgap rfl
    · rw [isUpper_of_isLower hlower] at hupper
      cases hupper
    · exact hnone hnext
  · rintro ⟨hdigits, hpairs⟩
    have hsmall : b.isUpper = true → b.isLower = false := fun hupper =>
      Bool.eq_false_iff.mpr fun hlower => by
        rw [isUpper_of_isLower hlower] at hupper
        cases hupper
    refine ⟨?_, fun hnot => Bool.eq_false_iff.mpr fun hupper => hnot ?_⟩
    · rintro (hdigit | hgap | ⟨-, hupper⟩ | ⟨-, hupper, -⟩)
      · exact hdigits hdigit
      · exact absurd rfl hgap
      · exact hsmall hupper
      · exact hsmall hupper
    · rcases isUpper_or_isLower_or_isDigit ha with hcapital | hlower | hdigit
      · exact .inr (.inr (.inr ⟨hcapital, hupper, hpairs hcapital hupper⟩))
      · exact .inr (.inr (.inl ⟨hlower, hupper⟩))
      · exact .inl hdigit

/-- No small letter stands right behind a digit. -/
def DigitsRaise (cs : List Char) : Prop :=
  cs.IsChain fun a b => a.isDigit = true → b.isLower = false

theorem digitsRaise_cons_cons : DigitsRaise (a :: b :: cs) ↔
    (a.isDigit = true → b.isLower = false) ∧ DigitsRaise (b :: cs) :=
  List.isChain_cons_cons

theorem casedBehind_eq_self_iff (ha : a.isAlphanum = true) (hcs : ∀ c ∈ cs, c.isAlphanum = true) :
    casedBehind a cs = cs ↔ DigitsRaise (a :: cs) ∧ PairsEndRuns (a :: cs) := by
  induction cs generalizing a with
  | nil =>
    refine iff_of_true rfl ⟨List.isChain_singleton a, fun before b c after h => ?_⟩
    have hlength := congrArg List.length h
    simp only [List.length_append, List.length_cons, List.length_nil] at hlength
    omega
  | cons b cs ih =>
    obtain ⟨hb, hcs⟩ := List.forall_mem_cons.mp hcs
    rw [casedBehind_keep hb, List.cons.injEq, cased_eq_self_iff ha hb, ih hb hcs,
      pairsEndRuns_cons_cons, digitsRaise_cons_cons, and_and_and_comm]

/-- An identifier that is left alone when it is made into one again. -/
structure IsSettled (cs : List Char) : Prop where
  alphanum : ∀ c ∈ cs, c.isAlphanum = true
  startsSmall : ∃ c ∈ cs.head?, c.isLower = true
  digitsRaise : DigitsRaise cs
  shortRuns : HasShortRuns cs

theorem fromLetter_of_isLower (h : a.isLower = true) (cs : List Char) :
    fromLetter (a :: cs) = a :: cs :=
  List.dropWhile_cons_of_neg (by simp [isAlpha_of_isLower h])

theorem identify_cons_eq_self_iff (ha : a.isLower = true) (hcs : ∀ c ∈ cs, c.isAlphanum = true) :
    identify (a :: cs) = a :: cs ↔ DigitsRaise (a :: cs) ∧ HasShortRuns (a :: cs) := by
  rw [identify_of_fromLetter (fromLetter_of_isLower ha cs), toLower_of_isLower ha,
    List.cons_inj_right, casedBehind_eq_self_iff (isAlphanum_of_isLower ha) hcs]
  exact and_congr_right' ⟨PairsEndRuns.hasShortRuns, HasShortRuns.pairsEndRuns⟩

theorem identify_eq_self_iff : identify cs = cs ↔ cs = [] ∨ IsSettled cs := by
  constructor
  · intro h
    cases cs with
    | nil => exact .inl rfl
    | cons a cs =>
      have halphanum : ∀ c ∈ a :: cs, c.isAlphanum = true := fun c hc =>
        isAlphanum_of_mem_identify (h.symm ▸ hc)
      have hsmall : a.isLower = true :=
        @isLower_of_head?_identify (a :: cs) a (by rw [h]; rfl)
      obtain ⟨hdigits, hruns⟩ := (identify_cons_eq_self_iff hsmall
        (List.forall_mem_cons.mp halphanum).2).mp h
      exact .inr ⟨halphanum, ⟨a, rfl, hsmall⟩, hdigits, hruns⟩
  · rintro (rfl | h)
    · rfl
    · obtain ⟨a, ha, hsmall⟩ := h.startsSmall
      cases cs with
      | nil => cases ha
      | cons b cs =>
        cases ha
        exact (identify_cons_eq_self_iff hsmall (List.forall_mem_cons.mp h.alphanum).2).mpr
          ⟨h.digitsRaise, h.shortRuns⟩

/-! ## Identifiers made again -/

/-- Behind a character that is no letter an identifier goes on with no small letter. -/
theorem isLower_of_head?_casedBehind (ha : a.isAlpha = false) :
    ∀ c ∈ (casedBehind a cs).head?, c.isLower = false := by
  induction cs generalizing a with
  | nil => exact nofun
  | cons b cs ih =>
    cases hb : b.isAlphanum with
    | true =>
      rw [casedBehind_keep hb, cased, raises_of_not_isAlpha ha]
      rintro c ⟨⟩
      exact isLower_toUpper (toNat_lt_of_isAlphanum hb)
    | false =>
      rw [casedBehind_skip hb]
      refine ih (Bool.eq_false_iff.mpr fun hletter => ?_)
      rw [isAlphanum_of_isAlpha hletter] at hb
      cases hb

theorem isAlpha_of_isDigit (h : a.isDigit = true) : a.isAlpha = false := by
  have hnot := not_isAlpha_eq a
  rw [h, Bool.or_true, Bool.not_eq_true'] at hnot
  exact hnot

/-- Only digits become digits. -/
theorem SameLetter.isAlpha (h : SameLetter a b) (hb : b.isDigit = true) : a.isAlpha = false := by
  refine Bool.eq_false_iff.mpr fun hletter => ?_
  have hbletter : b.isAlpha = true := by
    rcases h with rfl | rfl
    · exact isAlpha_of_isLower (isLower_toLower hletter)
    · exact isAlpha_of_isUpper (isUpper_toUpper hletter)
  rw [isAlpha_of_isDigit hb] at hbletter
  cases hbletter

theorem digitsRaise_casedBehind (a : Char) (cs : List Char) : DigitsRaise (casedBehind a cs) := by
  induction cs generalizing a with
  | nil => exact .nil
  | cons b cs ih =>
    cases hb : b.isAlphanum with
    | true =>
      rw [casedBehind_keep hb]
      refine List.isChain_cons.mpr ⟨fun c hc hdigit => ?_, ih b⟩
      exact isLower_of_head?_casedBehind ((sameLetter_cased a b _).isAlpha hdigit) c hc
    | false =>
      rw [casedBehind_skip hb]
      exact ih b

variable {raw : List Char}

theorem digitsRaise_identify (raw : List Char) : DigitsRaise (identify raw) := by
  cases h : fromLetter raw with
  | nil =>
    rw [identify_eq_nil_iff.mpr h]
    exact .nil
  | cons a cs =>
    have hletter := isAlpha_of_fromLetter h
    rw [identify_of_fromLetter h]
    refine List.isChain_cons.mpr ⟨fun c _ hdigit => ?_, digitsRaise_casedBehind a cs⟩
    rw [SameLetter.isAlpha (.inl rfl) hdigit] at hletter
    cases hletter

/-- An identifier is made again as it is if its runs of capitals are short. -/
theorem identify_identify_iff :
    identify (identify raw) = identify raw ↔ HasShortRuns (identify raw) := by
  rw [identify_eq_self_iff]
  constructor
  · rintro (hnil | h)
    · rw [hnil]
      intro before run after hcs hne
      rw [eq_comm, List.append_assoc, List.append_eq_nil_iff, List.append_eq_nil_iff] at hcs
      exact absurd hcs.2.1 hne
    · exact h.shortRuns
  · intro h
    cases hraw : identify raw with
    | nil => exact .inl rfl
    | cons a cs =>
      rw [← hraw]
      exact .inr ⟨fun c => isAlphanum_of_mem_identify,
        ⟨a, by rw [hraw]; rfl, isLower_of_head?_identify a (by rw [hraw]; rfl)⟩,
        digitsRaise_identify raw, h⟩

/-! ## A second word behind an identifier -/

theorem casedBehind_append_hyphen (a : Char) (cs ds : List Char) :
    casedBehind a (cs ++ '-' :: ds) = casedBehind a cs ++ casedBehind '-' ds := by
  induction cs generalizing a with
  | nil => rfl
  | cons b cs ih =>
    -- the hyphen is as little a small letter as the end of the text is
    have hnext : startsWord a b (cs ++ '-' :: ds).head? = startsWord a b cs.head? := by
      cases cs with
      | nil => rfl
      | cons c cs => rfl
    cases hb : b.isAlphanum with
    | true =>
      rw [List.cons_append, casedBehind_keep hb, casedBehind_keep hb, ih, cased, cased, raises,
        raises, hnext, List.cons_append]
    | false => rw [List.cons_append, casedBehind_skip hb, casedBehind_skip hb, ih]

/-- An identifier with a word behind it begins as the identifier does that is made of it. -/
theorem exists_identify_append_hyphen (raw ds : List Char) :
    ∃ es, identify (identify raw ++ '-' :: ds) = identify (identify raw) ++ es := by
  cases hraw : identify raw with
  | nil => exact ⟨_, rfl⟩
  | cons a cs =>
    have ha := @isLower_of_head?_identify raw a (by rw [hraw]; rfl)
    rw [List.cons_append, identify_of_fromLetter (fromLetter_of_isLower ha _),
      identify_of_fromLetter (fromLetter_of_isLower ha _), casedBehind_append_hyphen]
    exact ⟨_, rfl⟩

/-- An identifier has no character that another one could not hold. -/
theorem keptChars_identify (raw : List Char) : keptChars (identify raw) = identify raw := by
  have hall : (identify raw).filter Char.isAlphanum = identify raw :=
    List.filter_eq_self.mpr fun c => isAlphanum_of_mem_identify
  cases hraw : identify raw with
  | nil => rfl
  | cons a cs =>
    have ha := @isLower_of_head?_identify raw a (by rw [hraw]; rfl)
    rw [keptChars, fromLetter_of_isLower ha, ← hraw, hall]

theorem length_identify_identify (raw : List Char) :
    (identify (identify raw)).length = (identify raw).length := by
  rw [← (forall₂_identify (identify raw)).length_eq, keptChars_identify]

theorem prefix_identify_append_hyphen_iff (ds : List Char) :
    identify raw <+: identify (identify raw ++ '-' :: ds) ↔ HasShortRuns (identify raw) := by
  obtain ⟨es, hes⟩ := exists_identify_append_hyphen raw ds
  rw [hes, ← identify_identify_iff]
  constructor
  · intro h
    have hfront := List.prefix_of_prefix_length_le h (List.prefix_append _ es)
      (length_identify_identify raw).ge
    exact (hfront.eq_of_length (length_identify_identify raw).symm).symm
  · intro h
    rw [h]
    exact List.prefix_append _ es

/-! ## Words in small letters -/

/-- A word in small letters is an identifier. -/
theorem isSettled_of_isLower (hne : cs ≠ []) (h : ∀ c ∈ cs, c.isLower = true) : IsSettled cs where
  alphanum c hc := isAlphanum_of_isLower (h c hc)
  startsSmall := by
    obtain ⟨a, ds, rfl⟩ := List.exists_cons_of_ne_nil hne
    exact ⟨a, rfl, h a List.mem_cons_self⟩
  digitsRaise := by
    refine (List.pairwise_of_forall_mem_list fun a ha b _ hdigit => ?_).isChain
    have hletter := isAlpha_of_isDigit hdigit
    rw [isAlpha_of_isLower (h a ha)] at hletter
    cases hletter
  shortRuns := by
    intro before run after hcs hrun hupper
    obtain ⟨a, ds, rfl⟩ := List.exists_cons_of_ne_nil hrun
    have hlower := h a (by rw [hcs]; simp)
    have hcapital := hupper a List.mem_cons_self
    rw [isUpper_of_isLower hlower] at hcapital
    cases hcapital

theorem isLower_of_mem_reservedNames {w : String}
    (hw : w ∈ reservedOperationNames ++ reservedParameterNames) :
    w.toList ≠ [] ∧ ∀ c ∈ w.toList, c.isLower = true := by
  have hall : (reservedOperationNames ++ reservedParameterNames).all (fun w =>
      !w.toList.isEmpty && w.toList.all Char.isLower) = true := by decide
  have hword := List.all_eq_true.mp hall w hw
  simpa using hword

/-! ## The main statement -/

theorem toList_identifier (s : String) : (identifier s).toList = identify s.toList :=
  String.toList_ofList

/-- **Which names are made again as they are.**  A text is its own identifier exactly if it is empty
or settled: letters and digits that begin with a small letter, with no small letter behind a digit
and with short runs of capitals.  So an identifier is left alone when it is made into one again
exactly if its runs of capitals are short, and exactly then it also stands in front when a second
word tells it apart.  Reserved words are left alone. -/
theorem identifier_eq_self_iff :
    (∀ y : String, identifier y = y ↔ y = "" ∨ IsSettled y.toList) ∧
    (∀ raw : String, identifier (identifier raw) = identifier raw ↔
      HasShortRuns (identifier raw).toList) ∧
    (∀ raw group : String, (identifier raw).toList <+:
        (identifier (identifier raw ++ "-" ++ group)).toList ↔
      HasShortRuns (identifier raw).toList) ∧
    ∀ w ∈ reservedOperationNames ++ reservedParameterNames, identifier w = w := by
  have hself : ∀ y : String, identifier y = y ↔ identify y.toList = y.toList := fun y => by
    rw [← String.toList_inj, toList_identifier]
  refine ⟨fun y => ?_, fun raw => ?_, fun raw group => ?_, fun w hw => ?_⟩
  · rw [hself, identify_eq_self_iff, String.toList_eq_nil_iff]
  · rw [hself, toList_identifier, identify_identify_iff]
  · have htext : (identifier raw ++ "-" ++ group).toList =
        identify raw.toList ++ '-' :: group.toList := by
      rw [String.toList_append, String.toList_append, toList_identifier, List.append_assoc]
      rfl
    rw [toList_identifier raw, toList_identifier (identifier raw ++ "-" ++ group), htext,
      prefix_identify_append_hyphen_iff]
  · obtain ⟨hne, hlower⟩ := isLower_of_mem_reservedNames hw
    exact (hself w).mpr (identify_eq_self_iff.mpr (.inr (isSettled_of_isLower hne hlower)))

/-- A reserved word is left alone, and three words of one letter each are not. -/
theorem identifier_eq_self_of_delete :
    "delete" ∈ reservedOperationNames ++ reservedParameterNames ∧
      identifier "delete" = "delete" ∧
      identifier "a b c" = "aBC" ∧ identifier (identifier "a b c") ≠ identifier "a b c" := by
  have hmem : "delete" ∈ reservedOperationNames ++ reservedParameterNames := by decide
  have habc : identifier "a b c" = "aBC" := by decide +kernel
  refine ⟨hmem, identifier_eq_self_iff.2.2.2 "delete" hmem, habc, fun h => ?_⟩
  have hruns := (identifier_eq_self_iff.2.1 "a b c").mp h
  rw [habc] at hruns
  have hcapitals : ∀ c ∈ ['B', 'C'], c.isUpper = true := List.all_eq_true.mp rfl
  rcases hruns ['a'] ['B', 'C'] [] rfl (by decide) hcapitals (by rintro c ⟨⟩; rfl) nofun with
    hone | ⟨-, c, hc, -⟩
  · cases hone
  · cases hc

end Naming
end ServiceCatalog
