import Mathlib.Data.List.Forall2
import Mathlib.Data.List.TakeWhile
import ServiceCatalog.Proofs.CamelCase

/-!
# The case of every letter

An identifier is made in passes over a text, each of which changes what the next one sees: a run of
foreign characters becomes a hyphen, marks are put where words start, the text is lowered, cut and
joined, and digits raise what follows them.  All the same every letter is decided by its two
neighbours in the text, so the passes come to one.

* `raiseAfterDigits_markWordsAfter`: marking, joining and raising are one walk, `casedBehind`.
* `casedBehind_collapseFrom`: the walk does not notice that foreign characters became hyphens.
* `identify_of_fromLetter`: an identifier in one pass.
* `getElem?_identify`: where a letter or a digit of the text stands in the identifier, and in which
  case.
* `identifier_cased`: the law.

A letter behind a gap is raised whatever the gap is made of.  This is why the walk may look at the
character right before a letter, although the passes join the letter to the one before the gap.
-/

namespace ServiceCatalog
namespace Naming

open Text

/-! ## Characters -/

section characters

variable {a b : Char}

theorem isAlpha_of_isUpper (h : b.isUpper = true) : b.isAlpha = true := by
  rw [isAlpha_eq, h, Bool.true_or]

section ascii

variable (hb : b.toNat < 0x80)
include hb

theorem toUpper_toLower : b.toLower.toUpper = b.toUpper :=
  forall_ascii (P := fun b => b.toLower.toUpper = b.toUpper) (by decide) hb

theorem toNat_toLower_lt : b.toLower.toNat < 0x80 :=
  forall_ascii (P := fun b => b.toLower.toNat < 0x80) (by decide) hb

theorem isDigit_toUpper : isDigit b.toUpper = b.isDigit :=
  forall_ascii (P := fun b => isDigit b.toUpper = b.isDigit) (by decide) hb

theorem isDigit_toLower : isDigit b.toLower = b.isDigit :=
  forall_ascii (P := fun b => isDigit b.toLower = b.isDigit) (by decide) hb

/-- Only a small letter has another upper case. -/
theorem toLower_of_not_isLower_toLower (h : b.toLower.isLower = false) : b.toLower = b.toUpper :=
  forall_ascii (P := fun b => b.toLower.isLower = false → b.toLower = b.toUpper) (by decide) hb h

end ascii

section letter

variable (hb : b.isAlpha = true)
include hb

theorem isAlphanum_of_isAlpha : b.isAlphanum = true := by
  rw [Char.isAlphanum, hb, Bool.true_or]

theorem toNat_lt_of_isAlpha : b.toNat < 0x80 := by
  rw [isAlpha_eq, Bool.or_eq_true, isUpper_iff, isLower_iff] at hb
  omega

theorem isUpper_toUpper : b.toUpper.isUpper = true :=
  forall_ascii (P := fun b => b.isAlpha = true → b.toUpper.isUpper = true) (by decide)
    (toNat_lt_of_isAlpha hb) hb

theorem isLower_toLower : b.toLower.isLower = true :=
  forall_ascii (P := fun b => b.isAlpha = true → b.toLower.isLower = true) (by decide)
    (toNat_lt_of_isAlpha hb) hb

end letter

/-- What is no letter is a digit or no part of an identifier. -/
theorem not_isAlpha_eq (a : Char) : (!a.isAlpha) = (!a.isAlphanum || a.isDigit) := by
  rw [Char.isAlphanum]
  cases hdigit : a.isDigit with
  | false => rw [Bool.or_false, Bool.or_false]
  | true =>
    have hletter : a.isAlpha = false := Bool.eq_false_iff.mpr fun hletter => by
      rw [isAlpha_eq, Bool.or_eq_true, isUpper_iff, isLower_iff] at hletter
      rw [isDigit_iff] at hdigit
      omega
    rw [hletter]
    rfl

end characters

/-! ## Words as one pass -/

/-- A text without its cuts, in which the first character behind a cut is raised; the flag says that
the text begins behind one. -/
def capitalizedBehind (isCut : Char → Bool) : (behindCut : Bool) → List Char → List Char
  | _, [] => []
  | behindCut, c :: cs =>
    if isCut c then capitalizedBehind isCut true cs
    else (if behindCut then titleChar c else [c]) ++ capitalizedBehind isCut false cs

section words

variable {isCut : Char → Bool} {c : Char}

/-- Empty pieces have nothing to capitalize. -/
theorem flatMap_capitalize_filter (ws : List (List Char)) :
    (ws.filter fun w => !w.isEmpty).flatMap capitalize = ws.flatMap capitalize := by
  induction ws with
  | nil => rfl
  | cons w ws ih =>
    cases w with
    | nil => exact ih
    | cons c w => rw [List.filter_cons_of_pos rfl, List.flatMap_cons, List.flatMap_cons, ih]

theorem capitalizedBehind_eq (cs : List Char) :
    capitalizedBehind isCut false cs =
        (pieces isCut cs).1 ++ (pieces isCut cs).2.flatMap capitalize ∧
      capitalizedBehind isCut true cs =
        capitalize (pieces isCut cs).1 ++ (pieces isCut cs).2.flatMap capitalize := by
  induction cs with
  | nil => exact ⟨rfl, rfl⟩
  | cons c cs ih =>
    obtain ⟨ihFalse, ihTrue⟩ := ih
    by_cases hc : isCut c = true
    · rw [pieces_cons_cut hc, capitalizedBehind, capitalizedBehind, if_pos hc, if_pos hc, ihTrue]
      exact ⟨rfl, rfl⟩
    · rw [capitalizedBehind, capitalizedBehind, if_neg hc, if_neg hc, ihFalse,
        pieces_cons_keep (Bool.not_eq_true _ ▸ hc)]
      exact ⟨rfl, (List.append_assoc _ _ _).symm⟩

/-- The words of a text are joined in one pass. -/
theorem joinWords_words (hc : isCut c = false) (cs : List Char) :
    joinWords (words isCut (c :: cs)) = c :: capitalizedBehind isCut false cs := by
  rw [capitalizedBehind_eq cs |>.1, words, pieces_cons_keep hc]
  dsimp only
  rw [List.filter_cons_of_pos rfl, joinWords, flatMap_capitalize_filter, List.cons_append]

end words

/-! ## Identifiers as one pass -/

/-- The letter `b` is a capital in an identifier, given its neighbours in the text. -/
def raises (a b : Char) (next : Option Char) : Bool := !a.isAlpha || startsWord a b next

/-- The letter or digit `b` in an identifier, given its neighbours in the text. -/
def cased (a b : Char) (next : Option Char) : Char :=
  if raises a b next then b.toUpper else b.toLower

/-- What the text behind a character adds to an identifier. -/
def casedBehind (a : Char) : List Char → List Char
  | [] => []
  | b :: cs =>
    if b.isAlphanum then cased a b cs.head? :: casedBehind b cs else casedBehind b cs

variable {a b : Char} {cs raw : List Char} {next : Option Char}

theorem casedBehind_keep (h : b.isAlphanum = true) (a : Char) (cs : List Char) :
    casedBehind a (b :: cs) = cased a b cs.head? :: casedBehind b cs := by
  rw [casedBehind, if_pos h]

theorem casedBehind_skip (h : b.isAlphanum = false) (a : Char) (cs : List Char) :
    casedBehind a (b :: cs) = casedBehind b cs := by
  rw [casedBehind, h, if_neg Bool.false_ne_true]

/-- Behind a character that is no letter every letter is raised. -/
theorem raises_of_not_isAlpha (h : a.isAlpha = false) : raises a b next = true := by
  rw [raises, h]
  rfl

theorem casedBehind_of_not_isAlpha (ha : a.isAlpha = false) (hb : b.isAlpha = false)
    (cs : List Char) : casedBehind a cs = casedBehind b cs := by
  cases cs with
  | nil => rfl
  | cons c cs =>
    rw [casedBehind, casedBehind, cased, cased, raises_of_not_isAlpha ha, raises_of_not_isAlpha hb]

/-- A digit at the end makes no difference to what begins with a raised letter. -/
theorem raiseAfterDigits_capitalizedBehind (h : ∀ c ∈ cs, c.toNat < 0x80) (behindDigit : Bool) :
    raiseAfterDigits behindDigit (capitalizedBehind isSeparator true cs) =
      raiseAfterDigits false (capitalizedBehind isSeparator true cs) := by
  induction cs with
  | nil => rfl
  | cons c cs ih =>
    have hc := h c List.mem_cons_self
    rw [capitalizedBehind]
    split
    · exact ih fun d hd => h d (List.mem_cons_of_mem c hd)
    · rw [if_pos rfl, titleChar_ascii hc, List.singleton_append, raiseAfterDigits, raiseAfterDigits,
        isLower_toUpper hc, Bool.and_false, Bool.and_false]

/-- A character is raised behind a cut and behind a digit. -/
theorem raiseAfterDigits_cons (hb : b.toNat < 0x80) (behindCut behindDigit : Bool)
    (ds : List Char) :
    raiseAfterDigits behindDigit ((if behindCut then b.toUpper else b.toLower) :: ds) =
      (if behindCut || behindDigit then b.toUpper else b.toLower) ::
        raiseAfterDigits b.isDigit ds := by
  rw [raiseAfterDigits]
  cases behindCut with
  | true => simp [isLower_toUpper hb, isDigit_toUpper hb]
  | false =>
    cases behindDigit with
    | false => simp [isDigit_toLower hb]
    | true =>
      cases hlow : b.toLower.isLower with
      | true => simp [hlow, toUpper_toLower hb, isDigit_toLower hb]
      | false =>
        rw [toLower_of_not_isLower_toLower hb hlow]
        simp [isLower_toUpper hb, isDigit_toUpper hb]

section nameChar

variable (hb : isNameChar b = true)
include hb

theorem isSeparator_toLower : isSeparator b.toLower = !b.isAlphanum := by
  have hascii := toNat_lt_of_isNameChar hb
  rw [isSeparator_eq ((isNameChar_toLower hascii).trans hb), isAlphanum_toLower hascii]

theorem capitalizedBehind_cut (h : b.isAlphanum = false) (behindCut : Bool) (ds : List Char) :
    capitalizedBehind isSeparator behindCut (b.toLower :: ds) =
      capitalizedBehind isSeparator true ds := by
  rw [capitalizedBehind, isSeparator_toLower hb, h]
  rfl

theorem capitalizedBehind_keep (h : b.isAlphanum = true) (behindCut : Bool) (ds : List Char) :
    capitalizedBehind isSeparator behindCut (b.toLower :: ds) =
      (if behindCut then b.toUpper else b.toLower) :: capitalizedBehind isSeparator false ds := by
  have hascii := toNat_lt_of_isNameChar hb
  rw [capitalizedBehind, isSeparator_toLower hb, h, titleChar_ascii (toNat_toLower_lt hascii),
    toUpper_toLower hascii]
  cases behindCut <;> rfl

end nameChar

/-- No word starts at a character that is no letter. -/
theorem startsWord_of_not_isAlphanum (h : b.isAlphanum = false) :
    startsWord a b next = false := by
  have hupper : b.isUpper = false := Bool.eq_false_iff.mpr fun hupper => by
    rw [isAlphanum_of_isAlpha (isAlpha_of_isUpper hupper)] at h
    cases h
  rw [startsWord, hupper, Bool.and_false, Bool.and_false]
  rfl

theorem toNat_lt_of_mem_markWordsAfter (ha : isNameChar a = true)
    (hcs : ∀ c ∈ cs, isNameChar c = true) :
    ∀ c ∈ (markWordsAfter a cs).map Char.toLower, c.toNat < 0x80 := by
  intro c hc
  obtain ⟨d, hd, rfl⟩ := List.mem_map.mp hc
  have hall : ∀ c ∈ a :: cs, isNameChar c = true := List.forall_mem_cons.mpr ⟨ha, hcs⟩
  have hname : isNameChar d = true :=
    isNameChar_of_mem_markWords hall (List.mem_cons_of_mem a hd)
  exact toNat_toLower_lt (toNat_lt_of_isNameChar hname)

/-- **The passes over a text come to one.** -/
theorem raiseAfterDigits_markWordsAfter (a : Char) (hcs : ∀ c ∈ cs, isNameChar c = true) :
    raiseAfterDigits a.isDigit (capitalizedBehind isSeparator (!a.isAlphanum)
      ((markWordsAfter a cs).map Char.toLower)) = casedBehind a cs := by
  induction cs generalizing a with
  | nil => rfl
  | cons b cs ih =>
    obtain ⟨hname, hrest⟩ := List.forall_mem_cons.mp hcs
    have hascii := toNat_lt_of_isNameChar hname
    have ih := ih b hrest
    rw [markWordsAfter]
    by_cases hb : b.isAlphanum = true
    · rw [hb] at ih
      rw [casedBehind_keep hb, cased, raises, not_isAlpha_eq]
      by_cases hword : startsWord a b cs.head? = true
      · -- the mark that stands before the character is a cut
        have hmark := @capitalizedBehind_cut '-' rfl rfl
        rw [if_pos hword, hword, Bool.or_true, List.map_cons, List.map_cons, hmark,
          capitalizedBehind_keep hname hb, raiseAfterDigits_cons hascii, Bool.true_or]
        exact congrArg _ ih
      · rw [if_neg hword, Bool.eq_false_iff.mpr hword, Bool.or_false, List.map_cons,
          capitalizedBehind_keep hname hb, raiseAfterDigits_cons hascii]
        exact congrArg _ ih
    · have hdigit : b.isDigit = false := by
        rw [Char.isAlphanum, Bool.or_eq_true, not_or] at hb
        exact Bool.eq_false_iff.mpr hb.2
      rw [Bool.not_eq_true] at hb
      rw [startsWord_of_not_isAlphanum hb, if_neg Bool.false_ne_true, casedBehind_skip hb,
        List.map_cons, capitalizedBehind_cut hname hb,
        raiseAfterDigits_capitalizedBehind (toNat_lt_of_mem_markWordsAfter hname hrest), ← ih, hb,
        hdigit]
      rfl

/-! ## Identifiers -/

/-- What stands in front of a text that is collapsed is as little a small letter as what stands in
front of the text. -/
theorem startsWord_collapseFrom (cs : List Char) :
    startsWord a b (collapseFrom isNameChar '-' false cs).head? = startsWord a b cs.head? := by
  cases cs with
  | nil => rfl
  | cons c cs =>
    rw [collapseFrom]
    by_cases hc : isNameChar c = true
    · rw [if_pos hc]
      rfl
    · have hlower : c.isLower = false :=
        Bool.eq_false_iff.mpr fun hlower => hc (isNameChar_of_isLower hlower)
      rw [if_neg hc, if_neg Bool.false_ne_true]
      simp [startsWord, hlower, show '-'.isLower = false from rfl]

/-- An identifier goes on behind a run of characters that it cannot hold as it does behind any
character that is no letter. -/
theorem casedBehind_collapseFrom (inRun : Bool) (h : inRun = true → a.isAlpha = false)
    (cs : List Char) : casedBehind a (collapseFrom isNameChar '-' inRun cs) = casedBehind a cs := by
  induction cs generalizing inRun a with
  | nil => rfl
  | cons b cs ih =>
    rw [collapseFrom]
    by_cases hb : isNameChar b = true
    · rw [if_pos hb, casedBehind, casedBehind, cased, cased, raises, raises,
        startsWord_collapseFrom, ih false (fun h => by cases h)]
    · have hkept : b.isAlphanum = false := Bool.eq_false_iff.mpr fun hkept => hb (by
        rw [isNameChar, hkept]
        rfl)
      have hletter : b.isAlpha = false := Bool.eq_false_iff.mpr fun hletter => by
        rw [isAlphanum_of_isAlpha hletter] at hkept
        cases hkept
      rw [if_neg hb, casedBehind_skip hkept]
      cases inRun with
      | true =>
        rw [if_pos rfl, ih true h, casedBehind_of_not_isAlpha (h rfl) hletter]
      | false =>
        rw [if_neg Bool.false_ne_true, casedBehind_skip rfl, ih true fun _ => rfl,
          casedBehind_of_not_isAlpha rfl hletter]

/-- A text from its first letter on. -/
def fromLetter (cs : List Char) : List Char := cs.dropWhile fun c => !c.isAlpha

theorem isAlpha_of_fromLetter (h : fromLetter raw = a :: cs) : a.isAlpha = true := by
  have hhead := List.head?_dropWhile_not (fun c => !c.isAlpha) raw
  rw [show raw.dropWhile (fun c => !c.isAlpha) = a :: cs from h] at hhead
  simpa using hhead

/-- **An identifier in one pass.**  It begins with the first letter of the text, made small, and
every letter or digit behind it is cased by its neighbours in the text. -/
theorem identify_of_fromLetter (h : fromLetter raw = a :: cs) :
    identify raw = a.toLower :: casedBehind a cs := by
  have hletter := isAlpha_of_fromLetter h
  have hname : isNameChar a = true := by
    rw [isNameChar, isAlphanum_of_isAlpha hletter]
    rfl
  have hascii := toNat_lt_of_isNameChar hname
  have hrest : ∀ c ∈ collapseFrom isNameChar '-' false cs, isNameChar c = true :=
    fun c => isNameChar_of_mem_collapse
  have hlower : lower (markWords (a :: collapseFrom isNameChar '-' false cs)) =
      a.toLower :: (markWordsAfter a (collapseFrom isNameChar '-' false cs)).map Char.toLower :=
    lower_ascii fun c hc => toNat_lt_of_isNameChar
      (isNameChar_of_mem_markWords (List.forall_mem_cons.mpr ⟨hname, hrest⟩) hc)
  have hkept : isSeparator a.toLower = false := by
    rw [isSeparator_toLower hname, isAlphanum_of_isAlpha hletter]
    rfl
  have hpass := raiseAfterDigits_markWordsAfter a hrest
  rw [isAlphanum_of_isAlpha hletter] at hpass
  rw [identify, show raw.dropWhile (fun c => !c.isAlpha) = a :: cs from h, collapse, collapseFrom,
    if_pos hname, camelize, hlower, joinWords_words hkept,
    ← casedBehind_collapseFrom false (absurd · Bool.false_ne_true), ← hpass]
  exact raiseAfterDigits_cons hascii false false _

theorem identify_eq_nil_iff : identify raw = [] ↔ fromLetter raw = [] := by
  cases h : fromLetter raw with
  | nil =>
    rw [identify, show raw.dropWhile (fun c => !c.isAlpha) = [] from h]
    exact iff_of_true rfl rfl
  | cons a cs =>
    rw [identify_of_fromLetter h]
    exact iff_of_false (List.cons_ne_nil _ _) (List.cons_ne_nil _ _)

/-! ## What stands where -/

/-- The letters and digits of a text from its first letter on. -/
def keptChars (cs : List Char) : List Char := (fromLetter cs).filter Char.isAlphanum

/-- A character is another one with at most its case changed. -/
def SameLetter (c d : Char) : Prop := d = c.toLower ∨ d = c.toUpper

theorem sameLetter_cased (a b : Char) (next : Option Char) : SameLetter b (cased a b next) := by
  unfold cased SameLetter
  split
  · exact .inr rfl
  · exact .inl rfl

theorem forall₂_casedBehind (a : Char) (cs : List Char) :
    List.Forall₂ SameLetter (cs.filter Char.isAlphanum) (casedBehind a cs) := by
  induction cs generalizing a with
  | nil => exact .nil
  | cons b cs ih =>
    cases hb : b.isAlphanum with
    | true =>
      rw [casedBehind_keep hb, List.filter_cons_of_pos hb]
      exact .cons (sameLetter_cased a b _) (ih b)
    | false =>
      rw [casedBehind_skip hb, List.filter_cons_of_neg (Bool.eq_false_iff.mp hb)]
      exact ih b

theorem forall₂_identify (raw : List Char) :
    List.Forall₂ SameLetter (keptChars raw) (identify raw) := by
  cases h : fromLetter raw with
  | nil =>
    rw [identify_eq_nil_iff.mpr h, keptChars, h]
    exact .nil
  | cons a cs =>
    rw [identify_of_fromLetter h, keptChars, h,
      List.filter_cons_of_pos (isAlphanum_of_isAlpha (isAlpha_of_fromLetter h))]
    exact .cons (.inl rfl) (forall₂_casedBehind a cs)

/-- A letter or digit is found behind as many characters as were kept before it, cased by its
neighbours. -/
theorem getElem?_casedBehind (hb : b.isAlphanum = true) (a : Char) (bs cs : List Char) :
    (casedBehind a (bs ++ b :: cs))[bs.countP Char.isAlphanum]? =
      some (cased (bs.getLast?.getD a) b cs.head?) := by
  induction bs generalizing a with
  | nil =>
    rw [List.nil_append, casedBehind_keep hb]
    rfl
  | cons c bs ih =>
    rw [List.cons_append, List.getLast?_cons]
    cases hc : c.isAlphanum with
    | true =>
      rw [casedBehind_keep hc, List.countP_cons_of_pos hc, List.getElem?_cons_succ]
      exact ih c
    | false =>
      rw [casedBehind_skip hc, List.countP_cons_of_neg (Bool.eq_false_iff.mp hc)]
      exact ih c

section place

variable {before gap after : List Char}

theorem exists_fromLetter (h : ∃ c ∈ cs, c.isAlpha = true) : ∃ d ds, fromLetter cs = d :: ds := by
  obtain ⟨c, hc, hletter⟩ := h
  refine List.exists_cons_of_ne_nil fun hnil => ?_
  have hall := List.dropWhile_eq_nil_iff.mp hnil c hc
  rw [hletter] at hall
  cases hall

/-- The first letter is looked for no further than a part of the text that has one. -/
theorem fromLetter_append (h : ∃ c ∈ cs, c.isAlpha = true) (ds : List Char) :
    fromLetter (cs ++ ds) = fromLetter cs ++ ds := by
  obtain ⟨d, es, hd⟩ := exists_fromLetter h
  have hd : cs.dropWhile (fun c => !c.isAlpha) = d :: es := hd
  rw [fromLetter, fromLetter, List.dropWhile_append, hd]
  rfl

/-- A text from its first letter on ends as the text does. -/
theorem getLast?_of_fromLetter {c : Char} (h : fromLetter (before ++ [a]) = c :: cs) :
    cs.getLast?.getD c = a := by
  obtain ⟨front, hfront⟩ := List.dropWhile_suffix (l := before ++ [a]) fun c => !c.isAlpha
  have hlast := congrArg List.getLast? hfront
  rw [show (before ++ [a]).dropWhile (fun c => !c.isAlpha) = c :: cs from h,
    List.getLast?_append, List.getLast?_cons, List.getLast?_concat] at hlast
  exact Option.some.inj hlast

variable (hletter : ∃ c ∈ before ++ [a], c.isAlpha = true)
  (hgap : ∀ c ∈ gap, c.isAlphanum = false) (hb : b.isAlphanum = true)
include hletter hgap hb

/-- The place of a letter or digit is known from what stands up to the one before it. -/
theorem getElem?_keptChars :
    (keptChars (before ++ a :: (gap ++ b :: after)))[(keptChars (before ++ [a])).length]? =
      some b := by
  have hnone : gap.filter Char.isAlphanum = [] :=
    List.filter_eq_nil_iff.mpr fun c hc => Bool.eq_false_iff.mp (hgap c hc)
  rw [← List.singleton_append, ← List.append_assoc, keptChars, keptChars,
    fromLetter_append hletter, List.filter_append, List.filter_append, hnone, List.nil_append,
    List.filter_cons_of_pos hb, List.getElem?_append_right (Nat.le_refl _), Nat.sub_self]
  rfl

theorem getElem?_identify :
    (identify (before ++ a :: (gap ++ b :: after)))[(keptChars (before ++ [a])).length]? =
      some (cased (gap.getLast?.getD a) b after.head?) := by
  obtain ⟨c, cs, hcs⟩ := exists_fromLetter hletter
  have hall : fromLetter (before ++ a :: (gap ++ b :: after)) = c :: (cs ++ gap ++ b :: after) := by
    rw [← List.singleton_append, ← List.append_assoc, fromLetter_append hletter, hcs,
      List.append_assoc, List.cons_append]
  have hnone : gap.countP Char.isAlphanum = 0 :=
    List.countP_eq_zero.mpr fun c hc => Bool.eq_false_iff.mp (hgap c hc)
  have hplace : (keptChars (before ++ [a])).length = (cs ++ gap).countP Char.isAlphanum + 1 := by
    rw [keptChars, hcs, ← List.countP_eq_length_filter,
      List.countP_cons_of_pos (isAlphanum_of_isAlpha (isAlpha_of_fromLetter hcs)),
      List.countP_append, hnone, Nat.add_zero]
  have hlast : (cs ++ gap).getLast?.getD c = gap.getLast?.getD a := by
    rw [List.getLast?_append, ← getLast?_of_fromLetter hcs]
    cases gap.getLast? <;> rfl
  rw [identify_of_fromLetter hall, hplace, List.getElem?_cons_succ, getElem?_casedBehind hb, hlast]

end place

/-! ## The law -/

/-- The letter `b` of a text is a capital in its identifier.  In front of it stands the letter or
digit `a` with a gap between them, which may be empty, and behind it stands the rest. -/
def IsRaised (a : Char) (gap : List Char) (b : Char) (rest : List Char) : Prop :=
  a.isDigit = true ∨ gap ≠ [] ∨ (a.isLower = true ∧ b.isUpper = true) ∨
    (a.isUpper = true ∧ b.isUpper = true ∧ ∃ c ∈ rest.head?, c.isLower = true)

theorem startsWord_iff : startsWord a b next = true ↔ (a.isLower = true ∧ b.isUpper = true) ∨
    (a.isUpper = true ∧ b.isUpper = true ∧ ∃ c ∈ next, c.isLower = true) := by
  simp [startsWord, Option.any_eq_true, and_assoc]

theorem raises_iff {gap rest : List Char} (ha : a.isAlphanum = true)
    (hgap : ∀ c ∈ gap, c.isAlphanum = false) :
    raises (gap.getLast?.getD a) b rest.head? = true ↔ IsRaised a gap b rest := by
  unfold IsRaised
  cases hlast : gap.getLast? with
  | none =>
    have hnil := List.getLast?_eq_none_iff.mp hlast
    rw [Option.getD_none, raises, Bool.or_eq_true, not_isAlpha_eq, ha, startsWord_iff]
    simp [hnil]
  | some c =>
    have hne : gap ≠ [] := by
      rintro rfl
      cases hlast
    have hletter : c.isAlpha = false := Bool.eq_false_iff.mpr fun hletter => by
      have hkept := hgap c (List.mem_of_getLast? hlast)
      rw [isAlphanum_of_isAlpha hletter] at hkept
      cases hkept
    rw [Option.getD_some, raises_of_not_isAlpha hletter]
    exact iff_of_true rfl (.inr (.inl hne))

/-- A letter of an identifier is a capital exactly if it is raised, and otherwise it is small. -/
theorem case_cased (hb : b.isAlpha = true) : (cased a b next).isUpper = raises a b next ∧
    (cased a b next).isLower = !raises a b next := by
  unfold cased
  cases raises a b next with
  | true => exact ⟨isUpper_toUpper hb, isLower_toUpper (toNat_lt_of_isAlpha hb)⟩
  | false =>
    have hlower := isLower_toLower hb
    exact ⟨isUpper_of_isLower hlower, hlower⟩

theorem SameLetter.isAlphanum {c d : Char} (h : SameLetter c d) (hc : c.isAlphanum = true) :
    d.isAlphanum = true := by
  have hascii : c.toNat < 0x80 := by
    rw [isAlphanum_iff] at hc
    omega
  rcases h with rfl | rfl
  · rw [isAlphanum_toLower hascii, hc]
  · exact forall_ascii (P := fun c => c.isAlphanum = true → c.toUpper.isAlphanum = true) (by decide)
      hascii hc

theorem isAlphanum_of_mem_identify {c : Char} (h : c ∈ identify raw) : c.isAlphanum = true := by
  obtain ⟨i, hi, rfl⟩ := List.mem_iff_getElem.mp h
  have hall := List.forall₂_iff_get.mp (forall₂_identify raw)
  have hi' : i < (keptChars raw).length := hall.1 ▸ hi
  exact (hall.2 i hi' hi).isAlphanum (List.mem_filter.mp (List.get_mem _ ⟨i, hi'⟩)).2

theorem isLower_of_head?_identify : ∀ c ∈ (identify raw).head?, c.isLower = true := by
  cases h : fromLetter raw with
  | nil =>
    rw [identify_eq_nil_iff.mpr h]
    exact nofun
  | cons a cs =>
    rw [identify_of_fromLetter h]
    rintro c ⟨⟩
    exact isLower_toLower (isAlpha_of_fromLetter h)

/-- **The case of every letter.**  An identifier holds the letters and digits of the text from its
first letter on, in order and with at most their case changed; in particular it is empty exactly if
the text has no letter.  It begins with a small letter.  Of a later letter `b` take the letter or
digit `a` before it, what stands between the two, and what stands behind; the letter is a capital
exactly if one of the four conditions of `IsRaised` holds, and otherwise it is small. -/
theorem identifier_cased (raw : String) :
    List.Forall₂ SameLetter (keptChars raw.toList) (identifier raw).toList ∧
    (∀ c ∈ (identifier raw).toList, c.isAlphanum = true) ∧
    (identifier raw = "" ↔ ∀ c ∈ raw.toList, c.isAlpha = false) ∧
    (∀ c ∈ (identifier raw).toList.head?, c.isLower = true) ∧
    ∀ before a gap b after, raw.toList = before ++ a :: (gap ++ b :: after) →
      (∃ c ∈ before ++ [a], c.isAlpha = true) → a.isAlphanum = true →
      (∀ c ∈ gap, c.isAlphanum = false) → b.isAlpha = true →
      ∃ d, (keptChars raw.toList)[(keptChars (before ++ [a])).length]? = some b ∧
        (identifier raw).toList[(keptChars (before ++ [a])).length]? = some d ∧
        (d.isUpper = true ↔ IsRaised a gap b after) ∧
        (d.isLower = true ↔ ¬ IsRaised a gap b after) := by
  rw [identifier, String.toList_ofList]
  refine ⟨forall₂_identify _, fun c => isAlphanum_of_mem_identify, ?_, isLower_of_head?_identify,
    ?_⟩
  · rw [← String.ofList_nil, String.ofList_inj, identify_eq_nil_iff, fromLetter,
      List.dropWhile_eq_nil_iff]
    simp
  · intro before a gap b after hraw hletter ha hgap hb
    have hkept := isAlphanum_of_isAlpha hb
    obtain ⟨hupper, hlower⟩ := @case_cased (gap.getLast?.getD a) b after.head? hb
    have hraised := @raises_iff a b gap after ha hgap
    refine ⟨cased (gap.getLast?.getD a) b after.head?, ?_, ?_, ?_, ?_⟩
    · rw [hraw, getElem?_keptChars hletter hgap hkept]
    · rw [hraw, getElem?_identify hletter hgap hkept]
    · rw [hupper, hraised]
    · rw [hlower, ← hraised, Bool.not_eq_true', Bool.not_eq_true]

/-- The last capital of an acronym begins a word. -/
theorem identifier_cased_of_acronym :
    "2nd getHTTPResponse".toList = "2nd getHTT".toList ++ 'P' :: ([] ++ 'R' :: "esponse".toList) ∧
    IsRaised 'P' [] 'R' "esponse".toList ∧
    ∃ d, (identifier "2nd getHTTPResponse").toList[(keptChars "2nd getHTTP".toList).length]? =
      some d ∧ d.isUpper = true := by
  have hraw : "2nd getHTTPResponse".toList =
      "2nd getHTT".toList ++ 'P' :: ([] ++ 'R' :: "esponse".toList) := by decide +kernel
  have hraised : IsRaised 'P' [] 'R' "esponse".toList :=
    .inr (.inr (.inr ⟨rfl, rfl, 'e', by decide +kernel, rfl⟩))
  obtain ⟨-, -, -, -, hplace⟩ := identifier_cased "2nd getHTTPResponse"
  obtain ⟨d, -, hd, hupper, -⟩ := hplace _ _ _ _ _ hraw ⟨'P', by decide +kernel, rfl⟩ rfl nofun rfl
  exact ⟨hraw, hraised, d, hd, hupper.mpr hraised⟩

end Naming
end ServiceCatalog
