import ServiceCatalog.Proofs.StrictJson

/-!
# Documents that can be encoded

A document can be encoded exactly if none of its texts and none of its keys holds half of a pair
(`Json.unencodable?_render_iff`).

Nothing but texts can bring a half: numbers, marks and blanks hold no mark of halves
(`Text.holdsHalf_append`).  And no half is made where two texts meet, since there is always a quote
between them, which is neither the mark nor anything that stands behind it
(`Text.points_append_cons`).  An escape inside a string does not part a half either
(`Json.holdsHalf_flatMap_escapeChar`).
-/

namespace ServiceCatalog
namespace Text

variable {c d : Char} {cs ds : List Char}

/-- The characters spell half of a pair. -/
def holdsHalf (cs : List Char) : Bool := (points cs).any isHalf

theorem unencodable?_eq_none_iff_holdsHalf {text : String} :
    unencodable? text = none ↔ holdsHalf text.toList = false := by
  rw [unencodable?_eq_none_iff, holdsHalf, List.any_eq_false]
  simp only [Bool.not_eq_true]

theorem holdsHalf_cons (h : c ≠ halfMark) (cs : List Char) :
    holdsHalf (c :: cs) = holdsHalf cs := by
  rw [holdsHalf, points_cons_of_ne h, List.any_cons, isHalf_toNat, Bool.false_or]
  rfl

/-- Without a mark there is no half. -/
theorem holdsHalf_append (cs : List Char) (h : halfMark ∉ cs) (ds : List Char) :
    holdsHalf (cs ++ ds) = holdsHalf ds := by
  induction cs with
  | nil => rfl
  | cons c cs ih =>
    rw [List.mem_cons, not_or] at h
    rw [List.cons_append, holdsHalf_cons (Ne.symm h.1), ih h.2]

theorem bounds_of_halfOf? {n : Nat} (h : halfOf? c = some n) :
    0x10F000 ≤ c.toNat ∧ c.toNat < 0x10F800 := by
  unfold halfOf? at h
  split at h
  next hbounds => exact hbounds
  next => cases h

/-- A mark that stands for itself. -/
theorem points_mark_cons (hd : d ≠ halfMark) (hhalf : halfOf? d = none) (cs : List Char) :
    points (halfMark :: d :: cs) = 0x10FFFF :: points (d :: cs) := by
  rw [points, if_neg (not_not_intro rfl), hhalf]
  exact if_neg hd

/-- What is spelled can be read up to a character that has no part in spelling halves. -/
theorem points_append_cons (hd : d ≠ halfMark) (hhalf : halfOf? d = none) (cs ds : List Char) :
    points (cs ++ d :: ds) = points cs ++ points (d :: ds) := by
  induction cs using points.induct with
  | case1 => rfl
  | case2 c =>
    by_cases hc : c = halfMark
    · subst hc
      exact points_mark_cons hd hhalf ds
    · exact points_cons_of_ne hc _
  | case3 c e cs hc ih =>
    rw [List.cons_append, points_cons_of_ne hc, points_cons_of_ne hc, ih, List.cons_append]
  | case4 c e cs hc n hn ih =>
    have hmark : c = halfMark := not_not.mp hc
    subst hmark
    rw [List.cons_append, List.cons_append, points, points, if_neg hc, hn]
    exact congrArg (n :: ·) ih
  | case5 c cs hc hnone ih =>
    have hmark : c = halfMark := not_not.mp hc
    subst hmark
    exact congrArg (0x10FFFF :: ·) ih
  | case6 c e cs hc hnone he ih =>
    have hmark : c = halfMark := not_not.mp hc
    subst hmark
    rw [List.cons_append, List.cons_append, points_mark_cons he hnone, points_mark_cons he hnone,
      ← List.cons_append, ih, List.cons_append]

end Text

namespace Json

open Text (halfMark halfOf? points isHalf holdsHalf)

variable {c : Char} {cs : List Char}

/-! ## Texts -/

/-- Nothing behind the backslash in the order of characters is escaped. -/
theorem escapeChar_of_lt (h : 0x5C < c.toNat) : escapeChar c = [c] := by
  rcases escapeChar_cases c with ⟨e, -, he⟩ | ⟨-, hcontrol⟩ | ⟨hescape, -⟩
  · unfold simpleEscape? at he
    split at he <;> cases he <;> exact absurd h (by decide)
  · omega
  · exact hescape

/-- No escape holds the mark of halves. -/
theorem halfMark_notMem_escapeChar (h : c ≠ halfMark) : halfMark ∉ escapeChar c := by
  rcases Nat.lt_or_ge 0x5C c.toNat with hlt | hle
  · rw [escapeChar_of_lt hlt, List.mem_singleton]
    exact Ne.symm h
  · have hall : ∀ n < 0x5D, halfMark ∉ escapeChar (Char.ofNat n) := by decide +kernel
    have hescape := hall c.toNat (Nat.lt_succ_of_le hle)
    rwa [Char.ofNat_toNat] at hescape

/-- What stands for a character that has no part in spelling a half starts with another. -/
theorem exists_escapeChar_cons (hc : c ≠ halfMark) (hhalf : halfOf? c = none) :
    ∃ d ds, escapeChar c = d :: ds ∧ d ≠ halfMark ∧ halfOf? d = none := by
  rcases escapeChar_cases c with ⟨e, hescape, -⟩ | ⟨hescape, -⟩ | ⟨hescape, -⟩
  · exact ⟨_, _, hescape, by decide, by decide⟩
  · exact ⟨_, _, hescape, by decide, by decide⟩
  · exact ⟨_, _, hescape, hc, hhalf⟩

/-- **The escapes in a string leave its halves as they are.** -/
theorem holdsHalf_flatMap_escapeChar (cs : List Char) :
    holdsHalf (cs.flatMap escapeChar) = holdsHalf cs := by
  have hmark : escapeChar halfMark = [halfMark] := escapeChar_of_lt (by decide)
  induction cs using Text.points.induct with
  | case1 => rfl
  | case2 c =>
    rw [List.flatMap_singleton]
    by_cases hc : c = halfMark
    · rw [hc, hmark]
    · have h := Text.holdsHalf_append _ (halfMark_notMem_escapeChar hc) []
      rw [List.append_nil] at h
      rw [h, Text.holdsHalf_cons hc]
  | case3 c d cs hc ih =>
    rw [List.flatMap_cons, Text.holdsHalf_append _ (halfMark_notMem_escapeChar hc), ih,
      Text.holdsHalf_cons hc]
  | case4 c d cs hc n hn ih =>
    obtain rfl : c = halfMark := not_not.mp hc
    have hbounds := Text.bounds_of_halfOf? hn
    rw [List.flatMap_cons, List.flatMap_cons, hmark, escapeChar_of_lt (by omega)]
    show holdsHalf (halfMark :: d :: cs.flatMap escapeChar) = _
    rw [holdsHalf, holdsHalf, points, points, if_neg hc, hn]
    exact congrArg (isHalf n || ·) ih
  | case5 c cs hc hnone ih =>
    obtain rfl : c = halfMark := not_not.mp hc
    rw [List.flatMap_cons, List.flatMap_cons, hmark]
    exact ih
  | case6 c d cs hc hnone hd ih =>
    obtain rfl : c = halfMark := not_not.mp hc
    obtain ⟨e, es, hescape, he, hhalf⟩ := exists_escapeChar_cons hd hnone
    rw [List.flatMap_cons, hescape, List.cons_append] at ih
    rw [List.flatMap_cons, List.flatMap_cons, hmark, hescape, List.singleton_append,
      List.cons_append, holdsHalf, Text.points_mark_cons he hhalf, holdsHalf,
      Text.points_mark_cons hd hnone]
    exact ih

/-! ## Values -/

mutual

/-- No text and no key in a value holds half of a pair. -/
def isEncodable : Json → Bool
  | .text s => !holdsHalf s.toList
  | .array js => itemsAreEncodable js
  | .object ms => membersAreEncodable ms
  | _ => true

/-- No text and no key in some items holds half of a pair. -/
def itemsAreEncodable : List Json → Bool
  | [] => true
  | j :: js => isEncodable j && itemsAreEncodable js

/-- No key of some members, and no text and no key in their values, holds half of a pair. -/
def membersAreEncodable : List (String × Json) → Bool
  | [] => true
  | (k, j) :: ms => !holdsHalf k.toList && isEncodable j && membersAreEncodable ms

end

theorem holdsHalf_writeText (s : String) (rest : List Char) :
    holdsHalf (writeText s ++ rest) = (holdsHalf s.toList || holdsHalf rest) := by
  have hquote : '"' ≠ halfMark := by decide
  rw [writeText_append, Text.holdsHalf_cons hquote, holdsHalf,
    Text.points_append_cons hquote (by decide), List.any_append, ← holdsHalf, ← holdsHalf,
    holdsHalf_flatMap_escapeChar, Text.holdsHalf_cons hquote]

theorem holdsHalf_newLine (level : Nat) (rest : List Char) :
    holdsHalf (newLine level ++ rest) = holdsHalf rest := by
  refine Text.holdsHalf_append _ (fun hmem => ?_) rest
  rcases List.mem_cons.mp hmem with heq | hmem
  · exact absurd heq (by decide)
  · exact absurd (List.eq_of_mem_replicate hmem) (by decide)

theorem holdsHalf_number {ds : List Char} (h : AreNumberChars ds) (rest : List Char) :
    holdsHalf (ds ++ rest) = holdsHalf rest := by
  refine Text.holdsHalf_append _ (fun hmem => ?_) rest
  cases h _ hmem

mutual

/-- **What is written holds a half exactly if a text or a key does.** -/
theorem holdsHalf_writeAt : ∀ (j : Json) (level : Nat) (rest : List Char),
    holdsHalf (writeAt level j ++ rest) = (!j.isEncodable || holdsHalf rest)
  | .null, _, rest => Text.holdsHalf_append "null".toList (by decide) rest
  | .bool true, _, rest => Text.holdsHalf_append "true".toList (by decide) rest
  | .bool false, _, rest => Text.holdsHalf_append "false".toList (by decide) rest
  | .int n, _, rest => holdsHalf_number (.of_isNumber (isNumber_writtenInt n)) rest
  | .float .nan, _, rest => Text.holdsHalf_append "NaN".toList (by decide) rest
  | .float (.infinite false), _, rest => Text.holdsHalf_append "Infinity".toList (by decide) rest
  | .float (.infinite true), _, rest =>
    Text.holdsHalf_append ('-' :: "Infinity".toList) (by decide) rest
  | .float (.finite negative rank), _, rest =>
    holdsHalf_number (.of_isNumber (isNumber_write negative rank)) rest
  | .text s, _, rest => by rw [writeAt, holdsHalf_writeText, isEncodable, Bool.not_not]
  | .array [], _, rest => Text.holdsHalf_append ['[', ']'] (by decide) rest
  | .array (j :: js), level, rest => by
    rw [writeAt, List.append_assoc, List.append_assoc, List.cons_append,
      Text.holdsHalf_cons (by decide), holdsHalf_writeItems, holdsHalf_newLine]
    exact congrArg _ (Text.holdsHalf_cons (by decide) rest)
  | .object [], _, rest => Text.holdsHalf_append ['\x7b', '\x7d'] (by decide) rest
  | .object (m :: ms), level, rest => by
    rw [writeAt, List.append_assoc, List.append_assoc, List.cons_append,
      Text.holdsHalf_cons (by decide), holdsHalf_writeMembers, holdsHalf_newLine]
    exact congrArg _ (Text.holdsHalf_cons (by decide) rest)

theorem holdsHalf_writeItems : ∀ (js : List Json) (level : Nat) (rest : List Char),
    holdsHalf (writeItems level js ++ rest) = (!itemsAreEncodable js || holdsHalf rest)
  | [], _, rest => rfl
  | [j], level, rest => by
    rw [writeItems, List.append_assoc, holdsHalf_newLine, holdsHalf_writeAt, itemsAreEncodable,
      itemsAreEncodable, Bool.and_true]
  | j :: k :: js, level, rest => by
    rw [writeItems.eq_3 level j (k :: js) (List.cons_ne_nil k js), List.append_assoc,
      List.append_assoc, holdsHalf_newLine, holdsHalf_writeAt, List.cons_append,
      Text.holdsHalf_cons (by decide), itemsAreEncodable, Bool.not_and, Bool.or_assoc]
    exact congrArg _ (holdsHalf_writeItems (k :: js) level rest)

theorem holdsHalf_writeMembers : ∀ (ms : List (String × Json)) (level : Nat) (rest : List Char),
    holdsHalf (writeMembers level ms ++ rest) = (!membersAreEncodable ms || holdsHalf rest)
  | [], _, rest => rfl
  | [(k, j)], level, rest => by
    rw [writeMembers, List.append_assoc, List.append_assoc, holdsHalf_newLine,
      holdsHalf_writeText, List.cons_append, List.cons_append, Text.holdsHalf_cons (by decide),
      Text.holdsHalf_cons (by decide), holdsHalf_writeAt, membersAreEncodable,
      membersAreEncodable, Bool.and_true, Bool.not_and, Bool.not_not, Bool.or_assoc]
  | (k, j) :: m :: ms, level, rest => by
    rw [writeMembers.eq_3 level k j (m :: ms) (List.cons_ne_nil m ms), List.append_assoc,
      List.append_assoc, List.append_assoc, holdsHalf_newLine, holdsHalf_writeText,
      List.cons_append, List.cons_append, Text.holdsHalf_cons (by decide),
      Text.holdsHalf_cons (by decide), holdsHalf_writeAt, List.cons_append,
      Text.holdsHalf_cons (by decide), membersAreEncodable, Bool.not_and, Bool.not_and,
      Bool.not_not, Bool.or_assoc, Bool.or_assoc]
    exact congrArg _ (congrArg _ (holdsHalf_writeMembers (m :: ms) level rest))

end

/-! ## Whole texts -/

/-- **A document can be encoded exactly if no text and no key in it holds half of a pair.** -/
theorem unencodable?_render_iff {j : Json} :
    Text.unencodable? (j.render ++ "\n") = none ↔ j.isEncodable = true := by
  have hend : holdsHalf ['\n'] = false := rfl
  rw [Text.unencodable?_eq_none_iff_holdsHalf, toList_render, holdsHalf_writeAt, hend,
    Bool.or_false, Bool.not_eq_false']

end Json
end ServiceCatalog
