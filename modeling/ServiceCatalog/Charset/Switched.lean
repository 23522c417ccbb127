import ServiceCatalog.Charset.EightBit
import ServiceCatalog.Charset.Korean

/-!
# Switching between sets

In a text of seven-bit bytes the same byte can mean characters of several sets.  Escape sequences
put a set into one of three slots: the first slot is in use until a shift selects the second one,
and an escape of its own takes a single character from the third.  A line feed undoes the shift.

The form of Chinese mail (`hz`) has two sets only, and switches with a tilde.
-/

namespace ServiceCatalog
namespace Charset

/-- The sets that escape sequences can name. -/
inductive GraphicSet where
  | ascii
  | latin1
  | greek
  /-- The seven-bit set of Japan. -/
  | roman
  /-- The katakana of half width. -/
  | katakana
  | jis0208
  | jis0212
  | gb2312
  | ksx1001
  | jis0213First (e : Edition)
  | jis0213Second (e : Edition)
  deriving DecidableEq

namespace GraphicSet

/-- The number of bytes of a character. -/
def width : GraphicSet → Nat
  | .ascii => 1
  | .latin1 => 1
  | .greek => 1
  | .roman => 1
  | .katakana => 1
  | _ => 2

/-- The characters of some bytes; the second one does not count in a set of single bytes. -/
def chars? (s : GraphicSet) (a b : UInt8) : Option (List Char) :=
  let one (c : Option Char) : Option (List Char) := c.map fun c => [c]
  let n := pairNumber a b
  match s with
  | .ascii => some [Char.ofNat a.toNat]
  | .latin1 => none
  | .greek => none
  | .roman => some [if a = 0x5C then '¥' else if a = 0x7E then '‾' else Char.ofNat a.toNat]
  | .katakana => one (halfKatakana? (a + 0x80))
  | .jis0208 => one (charAt? Charset.jis0208 n)
  | .jis0212 => one (charAt? Charset.jis0212 n)
  | .gb2312 => one (charAt? gb2312Chars n)
  | .ksx1001 => one (charAt? Charset.ksx1001 n)
  | .jis0213First e => if e = .first ∧ laterNumbers.contains n then none else firstPlane? n
  | .jis0213Second e => one (secondPlane? e n)

end GraphicSet

/-- A form that switches between sets. -/
structure Switching where
  /-- The sets of single bytes, by the letters that name them. -/
  single : List (Char × GraphicSet) := []
  /-- The sets of pairs, by the letters that name them. -/
  double : List (Char × GraphicSet) := []
  /-- Shifts select the second slot. -/
  hasShifts : Bool := false
  /-- There is a third slot. -/
  hasThird : Bool := false
  /-- The sequence that announces a revision of the set behind it is known. -/
  hasRevision : Bool := true

/-- What is selected. -/
structure Slots where
  first : GraphicSet := .ascii
  second : GraphicSet := .ascii
  third : GraphicSet := .ascii
  isShifted : Bool := false
  /-- The place is inside of a sequence that is not known. -/
  isForeign : Bool := false

/-- A byte ends an escape sequence. -/
def endsEscape (b : UInt8) : Bool := (0x41 ≤ b && b ≤ 0x5A) || b = 0x40

/-- How far an escape sequence reaches. -/
inductive EscapeEnd where
  /-- The number of its bytes. -/
  | length (n : Nat)
  /-- The text ends inside. -/
  | open
  /-- It has no end within its limit. -/
  | missing

/-- Seeks the end of an escape sequence at a place behind its first byte. -/
def escapeEnd (hasRevision : Bool) (place : Nat) (bs : List UInt8) : EscapeEnd :=
  if 16 ≤ place then .missing
  else match bs with
    | [] => .open
    | b :: rest =>
      if endsEscape b then .length (place + 1)
      else if hasRevision && b = 0x26 && rest.head? = some 0x40 then
        escapeEnd hasRevision (place + 3) (rest.drop 2)
      else escapeEnd hasRevision (place + 1) rest
termination_by bs.length
decreasing_by
  all_goals simp only [List.length_drop, List.length_cons]
  all_goals omega

/-- The slot that an escape sequence fills, counted from zero, and the letter of the set; whether it
is a set of pairs.  The bytes are those behind the first one. -/
def designation? (s : Switching) : List UInt8 → Option (Nat × Bool × UInt8)
  | [0x24, letter] => some (0, true, letter)
  | [0x28, letter] => some (0, false, letter)
  | [0x29, letter] => some (1, false, letter)
  | [0x2E, letter] => if s.hasThird then some (2, false, letter) else none
  | [0x24, 0x28, letter] => some (0, true, letter)
  | [0x24, 0x29, letter] => some (1, true, letter)
  | [0x26, 0x40, 0x1B, 0x24, 0x42] => if s.hasRevision then some (0, true, 0x42) else none
  | _ => none

/-- The set that a letter names. -/
def Switching.named? (s : Switching) (isDouble : Bool) (letter : UInt8) : Option GraphicSet :=
  let c := Char.ofNat letter.toNat
  if isDouble then s.double.lookup c
  else if c = 'B' then some .ascii
  else s.single.lookup c

/-- Puts a set into a slot. -/
def Slots.put (t : Slots) (slot : Nat) (g : GraphicSet) : Slots :=
  if slot = 0 then { t with first := g }
  else if slot = 1 then { t with second := g }
  else { t with third := g }

/-- Takes an escape sequence that may fill a slot. -/
def takeDesignation (s : Switching) (t : Slots) (bs : List UInt8) : Slots × Taken :=
  match escapeEnd s.hasRevision 1 bs with
  | .open => (t, .unfinished bs)
  | .missing => (t, .fault)
  | .length n =>
    let found := (designation? s (bs.take (n - 1))).bind fun d =>
      (s.named? d.2.1 d.2.2).map fun g => (d.1, g)
    match found with
    | some (slot, g) => (t.put slot g, ⟨[], n - 1⟩)
    | none => (t, ⟨[none], n - 1⟩)

/-- Takes a character from the third slot. -/
def takeThird (g : GraphicSet) (b : UInt8) : Taken :=
  if 0x80 ≤ b then ⟨[none], 2⟩
  else match g with
    | .latin1 => ⟨[some (b.toNat + 0x80)], 2⟩
    | .greek =>
      let greek := (eightBitSets.lookup "iso8859_7").bind fun t => eightBitChar? t (b + 0x80)
      ⟨[greek.map Char.toNat], 2⟩
    | _ => ⟨[some b.toNat], 2⟩

/-- A step of a form that switches. -/
def switchedStep (s : Switching) (t : Slots) (b : UInt8) (bs : List UInt8) : Slots × Taken :=
  if t.isForeign then
    ({ t with isForeign := !endsEscape b }, .char (Char.ofNat b.toNat))
  else if b = 0x1B then
    match bs with
    | [] => (t, .fault)
    | c :: rest =>
      if c = 0x28 ∨ c = 0x29 ∨ c = 0x24 ∨ c = 0x2E ∨ c = 0x26 then takeDesignation s t bs
      else if s.hasThird ∧ c = 0x4E then
        match rest with
        | [] => (t, .unfinished bs)
        | d :: _ => (t, takeThird t.third d)
      else ({ t with isForeign := true }, .char '\x1b')
  else if s.hasShifts ∧ b = 0x0F then ({ t with isShifted := false }, ⟨[], 0⟩)
  else if s.hasShifts ∧ b = 0x0E then ({ t with isShifted := true }, ⟨[], 0⟩)
  else if b = 0x0A then ({ t with isShifted := false }, .char '\n')
  else if b < 0x20 then (t, .char (Char.ofNat b.toNat))
  else if 0x80 ≤ b then (t, .fault)
  else
    let g := if t.isShifted then t.second else t.first
    let taken (second : UInt8) : Taken := match g.chars? b second with
      | some cs => ⟨decoded cs, g.width - 1⟩
      | none => ⟨[none], g.width - 1⟩
    match bs with
    | c :: _ => (t, taken c)
    | [] => (t, if g.width = 1 then taken 0 else .fault)

/-- A form that switches between sets. -/
def switched (s : Switching) : List UInt8 → Decoded := decodeFrom (switchedStep s) {}

/-- The two names of the basic set of Japan. -/
def basicJapanese : List (Char × GraphicSet) := [('B', .jis0208), ('@', .jis0208)]

/-- The forms of Japanese mail, by their names. -/
def japaneseMail : List (String × Switching) :=
  [("iso2022_jp", { single := [('J', .roman)], double := basicJapanese }),
   ("iso2022_jp_1",
    { single := [('J', .roman)], double := ('D', .jis0212) :: basicJapanese }),
   ("iso2022_jp_2",
    { single := [('J', .roman), ('A', .latin1), ('F', .greek)]
      double := ('D', .jis0212) :: ('C', .ksx1001) :: ('A', .gb2312) :: basicJapanese
      hasThird := true }),
   ("iso2022_jp_ext",
    { single := [('J', .roman), ('I', .katakana)], double := ('D', .jis0212) :: basicJapanese }),
   ("iso2022_jp_2004",
    { double := [('B', .jis0208), ('Q', .jis0213First .second), ('P', .jis0213Second .second)] }),
   ("iso2022_jp_3",
    { double := [('B', .jis0208), ('O', .jis0213First .first), ('P', .jis0213Second .first)] })]

/-- The form of Korean mail. -/
def koreanMail : Switching :=
  { double := [('C', .ksx1001)], hasShifts := true, hasRevision := false }

/-- The form of Chinese mail.  The state says that pairs are being read. -/
def hz : List UInt8 → Decoded :=
  decodeFrom (fun isPaired b bs =>
    if b = 0x7E then
      match bs with
      | [] => (isPaired, .fault)
      | c :: _ =>
        if c = 0x7E ∧ !isPaired then (isPaired, ⟨decoded ['~'], 1⟩)
        else if c = 0x7B ∧ !isPaired then (true, ⟨[], 1⟩)
        else if c = 0x0A ∧ !isPaired then (isPaired, ⟨[], 1⟩)
        else if c = 0x7D ∧ isPaired then (false, ⟨[], 1⟩)
        else (isPaired, .fault)
    else if 0x80 ≤ b then (isPaired, .fault)
    else if isPaired then
      (isPaired, withSecond bs fun c => .some? 1 (charAt? gb2312Chars (pairNumber b c)))
    else (isPaired, .char (Char.ofNat b.toNat))) false

end Charset
end ServiceCatalog
