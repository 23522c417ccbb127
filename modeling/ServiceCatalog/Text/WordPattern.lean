import ServiceCatalog.Text.Pieces

/-!
# Patterns for sets of words

To find out whether a name is one of many words, the words are written into one pattern, with bars
between them, and the name is matched with the pattern as a whole.  Words may hold anything, and a
pattern gives some characters another meaning; `escapedWord` puts a backslash in front of these.

`alternatives?` reads a pattern back, as far as it is made of characters that stand for themselves,
escapes and bars.  `wholeWord?` tries the alternatives in their order, each from the start of a text
to its end.  A line break at the end of a text is behind its end, too.
-/

namespace ServiceCatalog
namespace Text

/-- The characters that have a meaning of their own in a pattern. -/
def operators : List Char := "\\.^$*+?|()[\x7b".toList

/-- The characters that are escaped in a pattern: the operators, and what is one in some place or
other. -/
def escapedChars : List Char := "()[]\x7b\x7d?*+-|^$\\.&~# \t\n\r\x0b\x0c".toList

/-- A word as a pattern for itself. -/
def escapedWord (w : List Char) : List Char :=
  w.flatMap fun c => if c ∈ escapedChars then ['\\', c] else [c]

/-- The pattern for some words. -/
def wordPattern (words : List (List Char)) : List Char := join ['|'] (words.map escapedWord)

/-- The words that a pattern stands for; none if there is more in it than characters, escapes and
bars.  Behind a backslash, letters and digits do not stand for themselves. -/
def alternatives? : List Char → Option (List (List Char))
  | [] => some [[]]
  | '\\' :: c :: cs =>
    if c.isAlphanum then none else (alternatives? cs).map (List.modifyHead (c :: ·))
  | c :: cs =>
    if c = '|' then (alternatives? cs).map ([] :: ·)
    else if c ∈ operators then none
    else (alternatives? cs).map (List.modifyHead (c :: ·))

/-- What is behind the end of a text, if the text up to there is a given word. -/
def behindWord? (w cs : List Char) : Option (List Char) :=
  match w.isPrefixOf? cs with
  | some [] => some []
  | some ['\n'] => some ['\n']
  | _ => none

/-- The first of some words that a text is, and what is behind the end of the text. -/
def wholeWord? (words : List (List Char)) (cs : List Char) : Option (List Char × List Char) :=
  words.findSome? fun w => (behindWord? w cs).map fun behind => (w, behind)

end Text
end ServiceCatalog
