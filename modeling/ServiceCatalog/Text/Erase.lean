/-!
# Erasing the parts of a text that have a given form

A path template loses its version segment and its placeholders before it becomes a name.  Both are
parts of the text with a certain form, found from the left and never overlapping.  `erase` does the
walking, and a *matcher* says of a text whether it starts with such a part: it returns what is left
behind the part, together with the proof that something was taken away, which is what makes the walk
end.
-/

namespace ServiceCatalog
namespace Text

/-- What is left of a text behind a part of it that is not empty. -/
abbrev Rest (cs : List Char) : Type := { rest : List Char // rest.length < cs.length }

/-- Erases every part that the matcher finds, from left to right. -/
def erase (matcher : (cs : List Char) → Option (Rest cs)) (cs : List Char) : List Char :=
  match matcher cs with
  | some rest => erase matcher rest.1
  | none =>
    match cs with
    | [] => []
    | c :: ds => c :: erase matcher ds
termination_by cs.length
decreasing_by
  · exact rest.2
  · simp

/-- The rest behind the first `stop` of a text, provided that no line ends before it. -/
def through (stop : Char) : (cs : List Char) → Option (Rest cs)
  | [] => none
  | c :: cs =>
    if c = stop then some ⟨cs, by simp⟩
    else if c = '\n' then none
    else (through stop cs).map fun r => ⟨r.1, by have := r.2; simp; omega⟩

/-- A part that starts with `start` and ends with the next `stop` of the same line. -/
def bracketed (start stop : Char) : (cs : List Char) → Option (Rest cs)
  | [] => none
  | c :: cs =>
    if c = start then (through stop cs).map fun r => ⟨r.1, by have := r.2; simp; omega⟩ else none

/-- The rest behind a fixed text, if the text starts with it. -/
def behind : (fixed cs : List Char) → Option { rest : List Char // rest.length ≤ cs.length }
  | [], cs => some ⟨cs, Nat.le_refl _⟩
  | _ :: _, [] => none
  | f :: fs, c :: cs =>
    if f = c then (behind fs cs).map fun r => ⟨r.1, by have := r.2; simp; omega⟩ else none

end Text
end ServiceCatalog
