import ServiceCatalog.Text.Blank
import ServiceCatalog.Text.Casing
import ServiceCatalog.Text.Digit
import ServiceCatalog.Text.Pieces

/-!
# Identifiers in camel case

Generated code needs names made of ASCII letters and digits, and a document offers anything: titles,
kebab case, acronyms, other scripts.  Two functions bridge the gap.  `camelize` joins the words of a
text; `identify` first reduces a text to what an identifier may hold.

## What a word is

Words are separated by `-`, `_`, `.` and blanks, and a new word also starts where the case of ASCII
letters says so (`startsWord`): at a capital behind a small letter, and at the last capital of a row
of capitals that a small letter follows, so that `getHTTPResponse` has the words `get`, `HTTP` and
`Response`.  Joining lowers every word and capitalises all but the first; a small letter right
behind a digit is raised as well, as in `v1Beta`.

Both marks of a new word are decided from neighbouring letters of the text itself, never from a mark
set before, so one walk from left to right suffices.
-/

namespace ServiceCatalog
namespace Naming

/-- A new word starts at `b`, between the character `a` before it and the one that follows. -/
def startsWord (a b : Char) (next : Option Char) : Bool :=
  (a.isLower && b.isUpper) || (a.isUpper && b.isUpper && next.any Char.isLower)

/-- Marks the starts of words by `-` in the text behind a character. -/
def markWordsAfter (a : Char) : List Char → List Char
  | [] => []
  | b :: cs =>
    if startsWord a b cs.head? then '-' :: b :: markWordsAfter b cs else b :: markWordsAfter b cs

/-- Marks the starts of words by `-`. -/
def markWords : List Char → List Char
  | [] => []
  | a :: cs => a :: markWordsAfter a cs

/-- A character that separates words. -/
def isSeparator (c : Char) : Bool := c = '-' || c = '_' || c = '.' || Text.isBlank c

/-- Raises every small letter that stands right behind a digit; the flag says that the text before
ends in one. -/
def raiseAfterDigits : (behindDigit : Bool) → List Char → List Char
  | _, [] => []
  | behindDigit, c :: cs =>
    (if behindDigit && c.isLower then c.toUpper else c) :: raiseAfterDigits (Text.isDigit c) cs

/-- Joins words, all but the first capitalised. -/
def joinWords : List (List Char) → List Char
  | [] => []
  | w :: ws => w ++ ws.flatMap Text.capitalize

/-- A text in camel case. -/
def camelize (cs : List Char) : List Char :=
  raiseAfterDigits false (joinWords (Text.words isSeparator (Text.lower (markWords cs))))

/-- A character that stays when a text is reduced to an identifier. -/
def isNameChar (c : Char) : Bool := c.isAlphanum || c = '_' || c = '-'

/-- The identifier of a text: the leading characters that are no ASCII letters are dropped, every
run of characters that an identifier cannot hold separates words, and the words are joined. -/
def identify (cs : List Char) : List Char :=
  camelize (Text.collapse isNameChar '-' (cs.dropWhile fun c => !c.isAlpha))

/-- A text in camel case. -/
def camelCase (s : String) : String := String.ofList (camelize s.toList)

/-- The identifier of a text. -/
def identifier (s : String) : String := String.ofList (identify s.toList)

@[simp] theorem identify_nil : identify [] = [] := rfl

end Naming
end ServiceCatalog
