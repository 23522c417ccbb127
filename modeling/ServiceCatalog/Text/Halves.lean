import ServiceCatalog.Text.Hex

/-!
# Halves of pairs

A text may hold code points that are no characters: the halves of pairs of code units, which an
escape can name one by one.  They are compared and joined like any others, and only when a text is
encoded do they stand in the way.

Texts are strings of characters here, so a half is spelled by two of them: a mark, which is the last
code point of all, and a private character that says which half it is.  The mark itself is spelled
twice, and every other character once.  What is spelled can be read off its spelling
(`points_flatMap_spell`), so no two sequences of code points are ever taken for each other.

## Encoding

A text without halves is encoded as it is.  Otherwise the first halves that follow each other are at
fault (`unencodable?`), and nothing of the text is written.
-/

namespace ServiceCatalog
namespace Text

/-- A code point is half of a pair. -/
def isHalf (n : Nat) : Bool := 0xD800 ≤ n && n < 0xE000

/-- The mark in front of what stands for a half. -/
def halfMark : Char := Char.ofNat 0x10FFFF

/-- What stands behind the mark for a half. -/
def standIn (half : Nat) : Char := Char.ofNat (0x101800 + half)

/-- The half that a character behind the mark stands for. -/
def halfOf? (c : Char) : Option Nat :=
  if 0x10F000 ≤ c.toNat ∧ c.toNat < 0x10F800 then some (c.toNat - 0x101800) else none

/-- The spelling of a code point. -/
def spell (n : Nat) : List Char :=
  if isHalf n then [halfMark, standIn n]
  else if n = 0x10FFFF then [halfMark, halfMark]
  else [Char.ofNat n]

/-- The spelling of characters. -/
def spelling (cs : List Char) : List Char := cs.flatMap fun c => spell c.toNat

/-- The code points that a text spells.  A mark in front of anything else stands for itself. -/
def points : List Char → List Nat
  | [] => []
  | [c] => [c.toNat]
  | c :: d :: cs =>
    if c ≠ halfMark then c.toNat :: points (d :: cs)
    else
      match halfOf? d with
      | some n => n :: points cs
      | none => if d = halfMark then 0x10FFFF :: points cs else 0x10FFFF :: points (d :: cs)

/-- What is shown of a text where its halves are written as escapes. -/
def shown (cs : List Char) : List Char :=
  (points cs).flatMap fun n =>
    if isHalf n then '\\' :: 'u' :: hexDigits 4 n else [Char.ofNat n]

/-! ## What can be read off a spelling -/

variable {n : Nat}

theorem toNat_ofNat_of_not_isHalf (hn : n < 0x110000) (h : isHalf n = false) :
    (Char.ofNat n).toNat = n := by
  have hvalid : n.isValidChar := by
    simp only [isHalf, Bool.and_eq_false_iff, decide_eq_false_iff_not] at h
    unfold Nat.isValidChar
    omega
  rw [Char.ofNat, dif_pos hvalid]
  rfl

/-- No character is half of a pair. -/
theorem isHalf_toNat (c : Char) : isHalf c.toNat = false := by
  have hvalid : c.toNat < 0xD800 ∨ 0xDFFF < c.toNat ∧ c.toNat < 0x110000 := c.valid
  simp only [isHalf, Bool.and_eq_false_iff, decide_eq_false_iff_not]
  omega

theorem toNat_standIn (h : isHalf n = true) : (standIn n).toNat = 0x101800 + n := by
  simp only [isHalf, Bool.and_eq_true, decide_eq_true_eq] at h
  refine toNat_ofNat_of_not_isHalf (by omega) ?_
  simp only [isHalf, Bool.and_eq_false_iff, decide_eq_false_iff_not]
  omega

theorem halfOf?_standIn (h : isHalf n = true) : halfOf? (standIn n) = some n := by
  have hn := h
  simp only [isHalf, Bool.and_eq_true, decide_eq_true_eq] at hn
  rw [halfOf?, toNat_standIn h, if_pos (by omega), Nat.add_sub_cancel_left]

theorem points_cons_of_ne {c : Char} (h : c ≠ halfMark) (cs : List Char) :
    points (c :: cs) = c.toNat :: points cs := by
  cases cs with
  | nil => rfl
  | cons d cs => rw [points, if_pos h]

/-- A code point is read off its spelling, whatever is behind it. -/
theorem points_spell_append (hn : n < 0x110000) (cs : List Char) :
    points (spell n ++ cs) = n :: points cs := by
  unfold spell
  split
  next h =>
    show points (halfMark :: standIn n :: cs) = _
    rw [points, if_neg (not_not_intro rfl), halfOf?_standIn h]
  next h =>
    have htoNat := toNat_ofNat_of_not_isHalf hn (Bool.eq_false_iff.mpr h)
    split
    next hmark =>
      subst hmark
      rfl
    next hmark =>
      rw [List.singleton_append, points_cons_of_ne, htoNat]
      intro heq
      rw [heq] at htoNat
      exact hmark htoNat.symm

/-- **A spelling determines what is spelled.** -/
theorem points_flatMap_spell {ns : List Nat} (h : ∀ n ∈ ns, n < 0x110000) :
    points (ns.flatMap spell) = ns := by
  induction ns with
  | nil => rfl
  | cons n ns ih =>
    rw [List.flatMap_cons, points_spell_append (h n List.mem_cons_self),
      ih fun m hm => h m (List.mem_cons_of_mem n hm)]

/-! ## Encoding -/

/-- Halves that follow each other and cannot be encoded. -/
structure Unencodable where
  position : Nat
  count : Nat
  first : Nat
  deriving DecidableEq, Repr

/-- What is said about halves that cannot be encoded. -/
def Unencodable.message (u : Unencodable) : String :=
  if u.count = 1 then
    "'utf-8' codec can't encode character '\\u" ++ String.ofList (hexDigits 4 u.first) ++
      s!"' in position {u.position}: surrogates not allowed"
  else
    let last := u.position + u.count - 1
    s!"'utf-8' codec can't encode characters in position {u.position}-{last}: " ++
      "surrogates not allowed"

/-- The first halves among code points, which start at a position. -/
def firstHalves? (position : Nat) : List Nat → Option Unencodable
  | [] => none
  | n :: ns =>
    if isHalf n then some ⟨position, (ns.takeWhile isHalf).length + 1, n⟩
    else firstHalves? (position + 1) ns

/-- The halves because of which a text cannot be encoded. -/
def unencodable? (text : String) : Option Unencodable := firstHalves? 0 (points text.toList)

/-- A text can be encoded exactly if it spells no half. -/
theorem unencodable?_eq_none_iff {text : String} :
    unencodable? text = none ↔ ∀ n ∈ points text.toList, isHalf n = false := by
  have key : ∀ (ns : List Nat) (position : Nat),
      firstHalves? position ns = none ↔ ∀ n ∈ ns, isHalf n = false := by
    intro ns
    induction ns with
    | nil => exact fun _ => ⟨fun _ _ h => absurd h List.not_mem_nil, fun _ => rfl⟩
    | cons n ns ih =>
      intro position
      rw [firstHalves?, List.forall_mem_cons]
      cases h : isHalf n with
      | true => simp
      | false => simp [ih]
  exact key _ 0

end Text
end ServiceCatalog
