/-!
# Places in a text

Indentation is structure, so reading a YAML text means knowing the column of every character.  A
`Cursor` is what is left of the text together with the place where it starts.  It only moves
forward, one character at a time (`advance`), and every other move is a repetition of that step, so
that line and column are right by construction.

Five characters end a line.  A carriage return and a line feed count as one end, and a byte order
mark takes no column.
-/

namespace ServiceCatalog
namespace Yaml

/-- A character that ends a line. -/
def isBreak (c : Char) : Bool :=
  c = '\n' || c = '\r' || c = '\x85' || c = '\u2028' || c = '\u2029'

/-- A space or a tab. -/
def isGap (c : Char) : Bool := c = ' ' || c = '\t'

/-- The text ends here or goes on with a space or a break. -/
def atSpaceOrEnd : List Char → Bool
  | [] => true
  | c :: _ => c = ' ' || isBreak c

/-- The text ends here or goes on with a space, a tab or a break. -/
def atBlankOrEnd : List Char → Bool
  | [] => true
  | c :: _ => isGap c || isBreak c

/-- The mark that starts a document: three hyphens and nothing else. -/
def isDocumentStart : List Char → Bool
  | '-' :: '-' :: '-' :: cs => atBlankOrEnd cs
  | _ => false

/-- The mark that ends a document: three points and nothing else. -/
def isDocumentEnd : List Char → Bool
  | '.' :: '.' :: '.' :: cs => atBlankOrEnd cs
  | _ => false

/-- A mark between documents. -/
def isDocumentMark (cs : List Char) : Bool := isDocumentStart cs || isDocumentEnd cs

/-- What is left of a text, and the place where it starts. -/
structure Cursor where
  rest : List Char
  index : Nat := 0
  line : Nat := 0
  column : Nat := 0

namespace Cursor

/-- A character in front of some others ends a line; a carriage return in front of a line feed
leaves that to the line feed. -/
def endsLine (c : Char) (cs : List Char) : Bool :=
  isBreak c && !(c = '\r' && cs.head? = some '\n')

/-- One character further. -/
def advance (c : Cursor) : Cursor :=
  match c.rest with
  | [] => c
  | ch :: cs =>
    if endsLine ch cs then ⟨cs, c.index + 1, c.line + 1, 0⟩
    else if ch = '\uFEFF' then ⟨cs, c.index + 1, c.line, c.column⟩
    else ⟨cs, c.index + 1, c.line, c.column + 1⟩

@[simp] theorem rest_advance (c : Cursor) : c.advance.rest = c.rest.tail := by
  unfold advance
  split
  · rename_i h; simp [h]
  · rename_i h
    split
    · simp [h]
    · split <;> simp [h]

/-- Some characters further. -/
def skip : Nat → Cursor → Cursor
  | 0, c => c
  | n + 1, c => skip n c.advance

@[simp] theorem rest_skip (n : Nat) (c : Cursor) : (skip n c).rest = c.rest.drop n := by
  induction n generalizing c with
  | zero => rfl
  | succ n ih => simp [skip, ih]

/-- The longest run of characters of a class, and the place behind it. -/
def span (p : Char → Bool) (c : Cursor) : List Char × Cursor :=
  let run := c.rest.takeWhile p
  (run, skip run.length c)

/-- The place behind the longest run of characters of a class. -/
def skipWhile (p : Char → Bool) (c : Cursor) : Cursor := (c.span p).2

@[simp] theorem rest_skipWhile (p : Char → Bool) (c : Cursor) :
    (c.skipWhile p).rest = c.rest.dropWhile p := by
  simp only [skipWhile, span, rest_skip]
  induction c.rest with
  | nil => rfl
  | cons ch cs ih => by_cases h : p ch <;> simp [h, ih]

/-- The place behind the spaces. -/
def skipSpaces (c : Cursor) : Cursor := c.skipWhile (· = ' ')

/-- The end of the line, in front of its break. -/
def skipLine (c : Cursor) : Cursor := c.skipWhile fun ch => !isBreak ch

/-- Spaces up to a column. -/
def skipIndentation (column : Nat) (c : Cursor) : Cursor :=
  skip (min (column - c.column) (c.rest.takeWhile (· = ' ')).length) c

/-- The break at a place, and the place behind it.  The two separators beyond Latin are kept, and
all other breaks are a line feed. -/
def lineBreak? (c : Cursor) : Option (Char × Cursor) :=
  match c.rest with
  | '\r' :: '\n' :: _ => some ('\n', c.skip 2)
  | ch :: _ =>
    if ch = '\u2028' || ch = '\u2029' then some (ch, c.advance)
    else if isBreak ch then some ('\n', c.advance)
    else none
  | [] => none

theorem length_rest_of_lineBreak? {c d : Cursor} {ch : Char} (h : c.lineBreak? = some (ch, d)) :
    d.rest.length < c.rest.length := by
  unfold lineBreak? at h
  split at h
  · rename_i cs heq
    cases h
    simp only [rest_skip, heq, List.drop_succ_cons, List.drop_zero, List.length_cons]
    omega
  · rename_i heq
    split at h
    · cases h
      simp [heq]
    · split at h
      · cases h
        simp [heq]
      · simp at h
  · simp at h

end Cursor
end Yaml
end ServiceCatalog
