import ServiceCatalog.Terminal.EmojiTable
import ServiceCatalog.Text.Blank
import ServiceCatalog.Text.Casing
import ServiceCatalog.Text.Pieces

/-!
# Emoji

In a remark a name between two colons stands for a picture: `:bug:` is shown as a bug.  The case of
the name does not matter, and `-text` or `-emoji` behind it asks for the plain or for the coloured
form of the picture.  A name that is not known is left as it is, its colons included.
-/

namespace ServiceCatalog
namespace Terminal

/-- The flag of a part of a country: a black flag that carries the letters of the part. -/
def flagOfPart (letters : String) : String :=
  String.ofList ('🏴' :: letters.toList.map (fun c => Char.ofNat (0xE0000 + c.toNat))
    ++ [Char.ofNat 0xE007F])

/-- Neighbours as pairs. -/
def paired : List (List Char) → List (String × String)
  | name :: picture :: rest => (String.ofList name, String.ofList picture) :: paired rest
  | _ => []

/-- The pictures with their names. -/
def emoji : List (String × String) :=
  [("england", flagOfPart "gbeng"), ("scotland", flagOfPart "gbsct"), ("wales", flagOfPart "gbwls")]
    ++ paired (Text.words Text.isBlank emojiTable.toList)

/-- The forms of a picture that a name can ask for, and the characters that select them. -/
def emojiForms : List (String × Char) := [("-emoji", '\ufe0f'), ("-text", '\ufe0e')]

/-- A name with the form that it asks for cut off, and the character that selects the form. -/
def emojiForm (name : List Char) : List Char × List Char :=
  match emojiForms.find? fun f => f.1.toList.isSuffixOf name with
  | some (form, selector) => (name.take (name.length - form.length), [selector])
  | none => (name, [])

/-- What is shown for a name between colons. -/
def emojiNamed (name : List Char) : List Char :=
  let (plain, selector) := emojiForm name
  match emoji.lookup (String.ofList (Text.lower plain)) with
  | some picture => picture.toList ++ selector
  | none => ':' :: name ++ [':']

/-- Puts pictures for names, in a text that is cut at its colons. -/
def pictured : List (List Char) → List Char
  | [] => []
  | [last] => last
  | [text, last] => text ++ ':' :: last
  | text :: name :: next :: rest =>
    if name.any Text.isBlank then text ++ ':' :: pictured (name :: next :: rest)
    else text ++ emojiNamed name ++ pictured (next :: rest)

/-- A text with the pictures that its names between colons stand for. -/
def withEmoji (cs : List Char) : List Char := pictured (Text.split ':' cs)

end Terminal
end ServiceCatalog
