import ServiceCatalog.Naming.Identifier

/-!
# The words of an identifier

An identifier is made in several passes over a text: marks are put where words start, the text is
lowered and cut into words, and the words are joined again.  This file says what the passes do
together.

* `wordsOf` are the words of a text, and `camelize_eq` makes the identifier from them.
* `flatten_wordsOf`: the words hold the letters and digits of the text, in their order and in small
  letters, and nothing else.
* `wordsOf_append_hyphen`: a hyphen ends a word and begins one, so the words of two texts with a
  hyphen between them are those of the first and those of the second.
* `identify_append_hyphen`: an identifier that begins with a word in small letters goes on with
  the words of what stands behind the hyphen.

The passes look one character back and one character ahead.  Neither sees anything through a hyphen,
which is neither a capital nor a small letter; this is the whole reason for the third statement.
-/

namespace ServiceCatalog

namespace Naming

open Text

/-! ## Characters -/

theorem isUpper_iff {c : Char} : c.isUpper = true ↔ 65 ≤ c.toNat ∧ c.toNat ≤ 90 := by
  show decide (65 ≤ c.val ∧ c.val ≤ 90) = true ↔ _
  simp [UInt32.le_iff_toNat_le, ← Char.toNat_val]

theorem isLower_iff {c : Char} : c.isLower = true ↔ 97 ≤ c.toNat ∧ c.toNat ≤ 122 := by
  show (decide (97 ≤ c.val) && decide (c.val ≤ 122)) = true ↔ _
  simp [UInt32.le_iff_toNat_le, ← Char.toNat_val]

theorem isDigit_iff {c : Char} : c.isDigit = true ↔ 48 ≤ c.toNat ∧ c.toNat ≤ 57 :=
  Char.isDigit_iff_toNat

theorem isAlpha_eq (c : Char) : c.isAlpha = (c.isUpper || c.isLower) := rfl

theorem isAlphanum_iff {c : Char} : c.isAlphanum = true ↔
    (65 ≤ c.toNat ∧ c.toNat ≤ 90 ∨ 97 ≤ c.toNat ∧ c.toNat ≤ 122) ∨
      48 ≤ c.toNat ∧ c.toNat ≤ 57 := by
  rw [Char.isAlphanum, Bool.or_eq_true, isAlpha_eq, Bool.or_eq_true, isUpper_iff, isLower_iff,
    isDigit_iff]

/-- A letter or a digit separates nothing. -/
theorem isSeparator_of_isAlphanum {c : Char} (h : c.isAlphanum = true) : isSeparator c = false := by
  rw [isAlphanum_iff] at h
  have hne : ∀ d : Char, d.toNat = 45 ∨ d.toNat = 95 ∨ d.toNat = 46 → c ≠ d := by
    rintro d hd rfl
    omega
  simp only [isSeparator, Bool.or_eq_false_iff, decide_eq_false_iff_not]
  refine ⟨⟨⟨hne _ (.inl rfl), hne _ (.inr (.inl rfl))⟩, hne _ (.inr (.inr rfl))⟩, ?_⟩
  simp only [isBlank, blankRanges, List.any_cons, List.any_nil, Bool.or_false,
    Bool.or_eq_false_iff, Bool.and_eq_false_iff, decide_eq_false_iff_not]
  omega

/-- Of the characters that an identifier keeps, the separators are those that are neither letters
nor digits. -/
theorem isSeparator_eq {c : Char} (h : isNameChar c = true) : isSeparator c = !c.isAlphanum := by
  by_cases ha : c.isAlphanum = true
  · rw [isSeparator_of_isAlphanum ha, ha]
    rfl
  · simp only [isNameChar, Bool.or_eq_true, decide_eq_true_eq, or_assoc] at h
    rcases h with h | rfl | rfl
    · exact absurd h ha
    · rfl
    · rfl

theorem toNat_lt_of_isNameChar {c : Char} (h : isNameChar c = true) : c.toNat < 0x80 := by
  simp only [isNameChar, Bool.or_eq_true, decide_eq_true_eq, or_assoc] at h
  rcases h with h | rfl | rfl
  · rw [isAlphanum_iff] at h
    omega
  · decide
  · decide

/-- What holds of the first 128 characters one by one holds of every one of them. -/
theorem forall_ascii {P : Char → Prop} (h : ∀ n, n < 128 → P (Char.ofNat n)) {c : Char}
    (hc : c.toNat < 128) : P c := by
  rw [← Char.ofNat_toNat c]
  exact h _ hc

theorem isAlphanum_toLower {c : Char} (hc : c.toNat < 128) :
    c.toLower.isAlphanum = c.isAlphanum :=
  forall_ascii (P := fun c => c.toLower.isAlphanum = c.isAlphanum) (by decide) hc

theorem isNameChar_toLower {c : Char} (hc : c.toNat < 128) : isNameChar c.toLower = isNameChar c :=
  forall_ascii (P := fun c => isNameChar c.toLower = isNameChar c) (by decide) hc

/-- A raised character is no small letter. -/
theorem isLower_toUpper {c : Char} (hc : c.toNat < 128) : c.toUpper.isLower = false :=
  forall_ascii (P := fun c => c.toUpper.isLower = false) (by decide) hc

section Small

variable {c : Char} (h : c.isLower = true)
include h

theorem toNat_lt_of_isLower : c.toNat < 128 := by
  rw [isLower_iff] at h
  omega

theorem isAlphanum_of_isLower : c.isAlphanum = true := by
  rw [isLower_iff] at h
  rw [isAlphanum_iff]
  omega

theorem isNameChar_of_isLower : isNameChar c = true := by
  rw [isNameChar, isAlphanum_of_isLower h]
  rfl

theorem isAlpha_of_isLower : c.isAlpha = true := by
  rw [isAlpha_eq, h, Bool.or_true]

theorem isUpper_of_isLower : c.isUpper = false := by
  rw [isLower_iff] at h
  rw [Bool.eq_false_iff, Ne, isUpper_iff]
  omega

theorem toLower_of_isLower : c.toLower = c :=
  forall_ascii (P := fun c => c.isLower = true → c.toLower = c) (by decide)
    (toNat_lt_of_isLower h) h

theorem isDigit_of_isLower : isDigit c = false :=
  forall_ascii (P := fun c => c.isLower = true → isDigit c = false) (by decide)
    (toNat_lt_of_isLower h) h

end Small

/-! ## Marks -/

theorem startsWord_hyphen_right (a : Char) (next : Option Char) :
    startsWord a '-' next = false := by
  simp [startsWord, show '-'.isUpper = false from rfl]

theorem markWordsAfter_hyphen (cs : List Char) : markWordsAfter '-' cs = markWords cs := by
  cases cs with
  | nil => rfl
  | cons b cs => rfl

/-- Marks are put on both sides of a hyphen on their own. -/
theorem markWordsAfter_append_hyphen (a : Char) (cs ds : List Char) :
    markWordsAfter a (cs ++ '-' :: ds) = markWordsAfter a cs ++ '-' :: markWords ds := by
  induction cs generalizing a with
  | nil =>
    rw [List.nil_append, markWordsAfter.eq_2, startsWord_hyphen_right, if_neg Bool.false_ne_true,
      markWordsAfter_hyphen]
    rfl
  | cons b cs ih =>
    -- the hyphen is as little a small letter as the end of the text is
    have hnext : startsWord a b (cs ++ '-' :: ds).head? = startsWord a b cs.head? := by
      cases cs with
      | nil => rfl
      | cons c cs => rfl
    rw [List.cons_append, markWordsAfter, markWordsAfter, hnext, ih]
    split <;> rfl

theorem markWords_append_hyphen (cs ds : List Char) :
    markWords (cs ++ '-' :: ds) = markWords cs ++ '-' :: markWords ds := by
  cases cs with
  | nil =>
    show '-' :: markWordsAfter '-' ds = _
    rw [markWordsAfter_hyphen]
    rfl
  | cons a cs =>
    show a :: markWordsAfter a (cs ++ '-' :: ds) = _
    rw [markWordsAfter_append_hyphen]
    rfl

/-- Marking adds nothing but hyphens. -/
theorem filter_markWords {p : Char → Bool} (hp : p '-' = false) (cs : List Char) :
    (markWords cs).filter p = cs.filter p := by
  have key : ∀ a, (markWordsAfter a cs).filter p = cs.filter p := by
    induction cs with
    | nil => exact fun _ => rfl
    | cons b cs ih =>
      intro a
      rw [markWordsAfter]
      split
      · rw [List.filter_cons_of_neg (by simp [hp]), List.filter_cons, List.filter_cons, ih]
      · rw [List.filter_cons, List.filter_cons, ih]
  rw [← markWordsAfter_hyphen, key]

/-- Marking keeps a text to the characters of an identifier. -/
theorem isNameChar_of_mem_markWords {cs : List Char} (h : ∀ c ∈ cs, isNameChar c = true) {c : Char}
    (hc : c ∈ markWords cs) : isNameChar c = true := by
  cases hn : isNameChar c with
  | true => rfl
  | false =>
    have hmem : c ∈ (markWords cs).filter fun d => !isNameChar d :=
      List.mem_filter.mpr ⟨hc, by simp [hn]⟩
    rw [filter_markWords rfl] at hmem
    rw [← hn, h c (List.mem_filter.mp hmem).1]

/-- A text without capitals starts no word inside. -/
theorem markWords_eq_self {cs : List Char} (h : ∀ c ∈ cs, c.isUpper = false) :
    markWords cs = cs := by
  have key : ∀ a, a.isUpper = false → markWordsAfter a cs = cs := by
    induction cs with
    | nil => exact fun _ _ => rfl
    | cons b cs ih =>
      intro a ha
      have hb := h b List.mem_cons_self
      rw [markWordsAfter, startsWord, ha, hb, Bool.and_false, Bool.false_and, Bool.false_and,
        Bool.or_false, if_neg Bool.false_ne_true, ih (fun c hc => h c (List.mem_cons_of_mem b hc))
        b hb]
  rw [← markWordsAfter_hyphen, key '-' rfl]

/-! ## Words -/

/-- The words of a text, in small letters. -/
def wordsOf (cs : List Char) : List (List Char) := words isSeparator (lower (markWords cs))

theorem camelize_eq (cs : List Char) :
    camelize cs = raiseAfterDigits false (joinWords (wordsOf cs)) := rfl

section

variable {cs ds : List Char} (hcs : ∀ c ∈ cs, isNameChar c = true)
include hcs

theorem wordsOf_eq : wordsOf cs = words isSeparator ((markWords cs).map Char.toLower) := by
  rw [wordsOf, lower_ascii fun c hc => toNat_lt_of_isNameChar (isNameChar_of_mem_markWords hcs hc)]

/-- **The words of a text hold its letters and digits**, in order and in small letters. -/
theorem flatten_wordsOf :
    (wordsOf cs).flatten = (cs.filter Char.isAlphanum).map Char.toLower := by
  have hfilter : ((markWords cs).filter fun c => !isSeparator c.toLower) =
      (markWords cs).filter Char.isAlphanum := by
    refine List.filter_congr fun c hc => ?_
    have hname := isNameChar_of_mem_markWords hcs hc
    have hlt := toNat_lt_of_isNameChar hname
    rw [isSeparator_eq ((isNameChar_toLower hlt).trans hname), isAlphanum_toLower hlt,
      Bool.not_not]
  rw [wordsOf_eq hcs, flatten_words, List.filter_map, ← filter_markWords rfl cs, ← hfilter]
  rfl

/-- The words of two texts with a hyphen between them. -/
theorem wordsOf_append_hyphen (hds : ∀ c ∈ ds, isNameChar c = true) :
    wordsOf (cs ++ '-' :: ds) = wordsOf cs ++ wordsOf ds := by
  have hall : ∀ c ∈ cs ++ '-' :: ds, isNameChar c = true := by
    intro c hc
    rcases List.mem_append.mp hc with hc | hc
    · exact hcs c hc
    · rcases List.mem_cons.mp hc with rfl | hc
      · rfl
      · exact hds c hc
  rw [wordsOf_eq hall, wordsOf_eq hcs, wordsOf_eq hds, markWords_append_hyphen, List.map_append,
    List.map_cons]
  exact words_append_cut rfl _ _

end

/-- A text of small letters is its only word. -/
theorem wordsOf_of_isLower {w : List Char} (hne : w ≠ []) (hw : ∀ c ∈ w, c.isLower = true) :
    wordsOf w = [w] := by
  have hmap : w.map Char.toLower = w :=
    (List.map_congr_left fun c hc => toLower_of_isLower (hw c hc)).trans (List.map_id w)
  rw [wordsOf_eq fun c hc => isNameChar_of_isLower (hw c hc),
    markWords_eq_self fun c hc => isUpper_of_isLower (hw c hc), hmap]
  exact words_eq_singleton hne fun c hc =>
    isSeparator_of_isAlphanum (isAlphanum_of_isLower (hw c hc))

/-! ## Identifiers -/

/-- Digits are looked for in each part of a text, if the first part has none. -/
theorem raiseAfterDigits_append {cs : List Char} (hcs : ∀ c ∈ cs, isDigit c = false)
    (ds : List Char) : raiseAfterDigits false (cs ++ ds) = cs ++ raiseAfterDigits false ds := by
  induction cs with
  | nil => rfl
  | cons c cs ih =>
    rw [List.cons_append, raiseAfterDigits, hcs c List.mem_cons_self,
      ih fun d hd => hcs d (List.mem_cons_of_mem c hd)]
    rfl

theorem isNameChar_of_mem_collapse {cs : List Char} {c : Char}
    (hc : c ∈ collapse isNameChar '-' cs) : isNameChar c = true := by
  rcases mem_collapse hc with rfl | hc
  · rfl
  · exact hc

/-- The words that a text adds to an identifier. -/
def furtherWords (cs : List Char) : List (List Char) := wordsOf (collapse isNameChar '-' cs)

/-- The further words hold the letters and digits of the text. -/
theorem flatten_furtherWords (cs : List Char) :
    (furtherWords cs).flatten = (cs.filter Char.isAlphanum).map Char.toLower := by
  have hkeep : ∀ c, c.isAlphanum = true → isNameChar c = true := by
    intro c hc
    rw [isNameChar, hc]
    rfl
  rw [furtherWords, flatten_wordsOf fun c => isNameChar_of_mem_collapse,
    filter_collapse hkeep rfl]

/-- **An identifier that begins with small letters goes on with the words behind the hyphen**, all
of them capitalised. -/
theorem identify_append_hyphen {w : List Char} (hne : w ≠ []) (hw : ∀ c ∈ w, c.isLower = true)
    (cs : List Char) :
    identify (w ++ '-' :: cs) =
      w ++ raiseAfterDigits false ((furtherWords cs).flatMap capitalize) := by
  obtain ⟨a, v, rfl⟩ := List.exists_cons_of_ne_nil hne
  have hstart : ((a :: v) ++ '-' :: cs).dropWhile (fun c => !c.isAlpha) =
      (a :: v) ++ '-' :: cs := by
    rw [List.cons_append, List.dropWhile_cons_of_neg]
    simp [isAlpha_of_isLower (hw a List.mem_cons_self)]
  have hname : ∀ c ∈ a :: v, isNameChar c = true := fun c hc => isNameChar_of_isLower (hw c hc)
  rw [identify, hstart, collapse_append_cons hname rfl, camelize_eq,
    wordsOf_append_hyphen hname fun c => isNameChar_of_mem_collapse, wordsOf_of_isLower hne hw]
  exact raiseAfterDigits_append (fun c hc => isDigit_of_isLower (hw c hc)) _

end Naming
end ServiceCatalog
