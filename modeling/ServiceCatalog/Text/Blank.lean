/-!
# Blank characters

Two rules of this library cut blanks off a text: the name of a media type is what stands before the
first `;` without the blanks around it, and a document that holds blanks only counts as empty.  Both
mean the same class, which is wider than the four blanks of JSON: every space separator, every line
separator, and the control characters that separate.
-/

namespace ServiceCatalog
namespace Text

/-- The closed intervals of blank code points. -/
def blankRanges : List (Nat × Nat) :=
  [(0x09, 0x0D), (0x1C, 0x20), (0x85, 0x85), (0xA0, 0xA0), (0x1680, 0x1680), (0x2000, 0x200A),
   (0x2028, 0x2029), (0x202F, 0x202F), (0x205F, 0x205F), (0x3000, 0x3000)]

/-- A space, a line break or a separating control character. -/
def isBlank (c : Char) : Bool :=
  blankRanges.any fun r => r.1 ≤ c.toNat && c.toNat ≤ r.2

/-- The text without the blanks at its end. -/
def trimEnd (cs : List Char) : List Char :=
  (cs.reverse.dropWhile isBlank).reverse

/-- The text without the blanks around it. -/
def trim (cs : List Char) : List Char :=
  trimEnd (cs.dropWhile isBlank)

@[simp] theorem trim_nil : trim [] = [] := rfl

end Text
end ServiceCatalog
