import ServiceCatalog.Text.CaseTable

/-!
# Letter case

Lower, upper and title case of a text, after `ServiceCatalog.Text.CaseTable`.

## Why the functions return lists

The other case of a letter can be several letters: the upper case of `ß` is `SS`, and its title case
is `Ss`.  So each of the three maps a character to a list of characters.

## The sigma rule

One letter looks at its neighbours.  A capital sigma at the end of a word has the lower case `ς`,
and elsewhere `σ`.  "At the end of a word" means: a cased letter stands before it and none behind
it, looking through the characters of `caseIgnorableRanges` on both sides.
-/

namespace ServiceCatalog
namespace Text

/-- The characters of a list of code points. -/
def charsOf (codes : List Nat) : List Char := codes.map Char.ofNat

/-- The character that the runs of a table assign to a character, by default itself. -/
def mapped (runs : List CaseRun) (c : Char) : Char :=
  ((runs.findSome? fun r => r.image? c.toNat).map Char.ofNat).getD c

/-- The lower case of a character outside of any text. -/
def lowerChar (c : Char) : List Char :=
  if c.toNat < 0x80 then [c.toLower]
  else if c = 'İ' then ['i', '\u0307']
  else [mapped lowerRuns c]

/-- The upper case of a character. -/
def upperChar (c : Char) : List Char :=
  if c.toNat < 0x80 then [c.toUpper]
  else match upperExpansions.lookup c.toNat with
    | some codes => charsOf codes
    | none => [mapped upperRuns c]

/-- The title case of a character: its form at the start of a capitalised word. -/
def titleChar (c : Char) : List Char :=
  if c.toNat < 0x80 then [c.toUpper]
  else if inRanges titleUnchanged c.toNat then [c]
  else match titleExceptions.lookup c.toNat with
    | some codes => charsOf codes
    | none => upperChar c

/-- The first character of a list that decides the position of a sigma is a cased letter. -/
def casedAhead (cs : List Char) : Bool :=
  match cs.dropWhile fun c => inRanges caseIgnorableRanges c.toNat with
  | [] => false
  | c :: _ => inRanges casedRanges c.toNat

/-- The lower case of a text, given the characters before it, nearest first. -/
def lowerAfter (before : List Char) : List Char → List Char
  | [] => []
  | c :: cs =>
    (if c = 'Σ' then [if casedAhead before && !casedAhead cs then 'ς' else 'σ'] else lowerChar c)
      ++ lowerAfter (c :: before) cs

/-- The lower case of a text. -/
def lower (cs : List Char) : List Char := lowerAfter [] cs

/-- The upper case of a text. -/
def upper (cs : List Char) : List Char := cs.flatMap upperChar

/-- A word in lower case with its first letter in title case. -/
def capitalize : List Char → List Char
  | [] => []
  | c :: cs => titleChar c ++ cs

@[simp] theorem lowerChar_ascii {c : Char} (h : c.toNat < 0x80) : lowerChar c = [c.toLower] := by
  simp [lowerChar, h]

@[simp] theorem titleChar_ascii {c : Char} (h : c.toNat < 0x80) : titleChar c = [c.toUpper] := by
  simp [titleChar, h]

/-- On ASCII the lower case of a text is taken letter by letter. -/
theorem lowerAfter_ascii {cs : List Char} (h : ∀ c ∈ cs, c.toNat < 0x80) (before : List Char) :
    lowerAfter before cs = cs.map Char.toLower := by
  induction cs generalizing before with
  | nil => rfl
  | cons c cs ih =>
    have hc := h c (by simp)
    have hs : c ≠ 'Σ' := by
      intro e
      rw [e] at hc
      exact absurd hc (by decide)
    simp [lowerAfter, hs, lowerChar_ascii hc, ih fun d hd => h d (by simp [hd])]

/-- On ASCII the lower case of a text is taken letter by letter. -/
theorem lower_ascii {cs : List Char} (h : ∀ c ∈ cs, c.toNat < 0x80) :
    lower cs = cs.map Char.toLower :=
  lowerAfter_ascii h []

end Text
end ServiceCatalog
