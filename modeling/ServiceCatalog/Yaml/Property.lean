import ServiceCatalog.Text.Hex
import ServiceCatalog.Yaml.Cursor
import ServiceCatalog.Yaml.Fault
import ServiceCatalog.Yaml.Token

/-!
# Anchors, tags and directives

What stands in front of a node, or of a document.  Each function here reads one of them at a place
and returns the place behind it; each also checks what follows, because a name that runs into
something else is a fault and not a shorter name.
-/

namespace ServiceCatalog
namespace Yaml

/-- A character of a name. -/
def isNameChar (c : Char) : Bool := c.isAlphanum || c = '-' || c = '_'

/-- A name of at least one character. -/
def name (cause : Malformed) (c : Cursor) : Except Fault (String × Cursor) :=
  match c.span isNameChar with
  | ([], _) => malformed cause
  | (cs, d) => .ok (String.ofList cs, d)

/-! ## Anchors and aliases -/

/-- The text goes on with something that may follow the name of an anchor. -/
def isAfterAnchor : List Char → Bool
  | [] => true
  | c :: _ => isGap c || isBreak c || "?:,]\x7d%@\x60".toList.contains c

/-- The name of the anchor or alias at a place. -/
def anchorName (c : Cursor) : Except Fault (String × Cursor) := do
  let (n, d) ← name .anchorName c.advance
  if isAfterAnchor d.rest then return (n, d) else malformed .anchorName

/-! ## Tags -/

/-- A character of a tag; a percent sign starts an escape. -/
def isTagChar (c : Char) : Bool :=
  c.isAlphanum || "-;/?:@&=+$,_.!~*'()[]".toList.contains c

/-- The bytes of the escapes at the start of a text, each a percent sign and two digits. -/
def escapedBytes : List Char → Except Fault (List UInt8)
  | '%' :: a :: b :: cs =>
    match Text.hexValue? [a, b] with
    | some n => (escapedBytes cs).map (n.toUInt8 :: ·)
    | none => malformed .tag
  | '%' :: _ => malformed .tag
  | _ => .ok []

/-- The parts of a tag; a run of escapes is the encoding of a text.  The text that was
left at its start bounds the number of parts, since every part takes a character of it. -/
def tagParts : (bound : List Char) → Cursor → Except Fault (List Char × Cursor)
  | [], c => .ok ([], c)
  | _ :: bound, c =>
    let (run, d) := c.span isTagChar
    if d.rest.head? = some '%' then do
      let bytes ← escapedBytes d.rest
      match String.fromUTF8? ⟨bytes.toArray⟩ with
      | none => malformed .tag
      | some s =>
        let (others, e) ← tagParts bound (d.skip (3 * bytes.length))
        return (run ++ s.toList ++ others, e)
    else return (run, d)

/-- The name of a tag, of at least one character. -/
def tagName (c : Cursor) : Except Fault (String × Cursor) := do
  let (cs, d) ← tagParts c.rest c
  if cs.isEmpty then malformed .tag else return (String.ofList cs, d)

/-- A handle: an exclamation mark, or a name between two of them. -/
def tagHandle (c : Cursor) : Except Fault (String × Cursor) :=
  match c.rest with
  | '!' :: cs =>
    if cs.head? = some ' ' then .ok ("!", c.advance)
    else
      let (n, d) := c.advance.span isNameChar
      if d.rest.head? = some '!' then .ok (String.ofList ('!' :: n ++ ['!']), d.advance)
      else malformed .tag
  | _ => malformed .tag

/-- A second exclamation mark stands before the next blank. -/
def hasHandle (cs : List Char) : Bool :=
  (cs.takeWhile fun c => c ≠ ' ' && !isBreak c).contains '!'

/-- The tag at a place. -/
def writtenTag (c : Cursor) : Except Fault (WrittenTag × Cursor) := do
  let cs := c.rest.tail
  let (t, d) ← show Except Fault (WrittenTag × Cursor) from
    if cs.head? = some '<' then do
      let (n, d) ← tagName (c.skip 2)
      if d.rest.head? = some '>' then return (⟨none, n⟩, d.advance) else malformed .tag
    else if atBlankOrEnd cs then return (⟨none, "!"⟩, c.advance)
    else if hasHandle cs then do
      let (h, d) ← tagHandle c
      let (n, e) ← tagName d
      return (⟨some h, n⟩, e)
    else do
      let (n, d) ← tagName c.advance
      return (⟨some "!", n⟩, d)
  if atSpaceOrEnd d.rest then return (t, d) else malformed .tag

/-! ## Directives -/

/-- A number of at least one digit. -/
def versionNumber (c : Cursor) : Except Fault (Nat × Cursor) :=
  match c.span Char.isDigit with
  | ([], _) => malformed .directive
  | (ds, d) => .ok (ds.foldl (fun n c => 10 * n + (c.toNat - 48)) 0, d)

/-- The version that a directive names. -/
def versionDirective (c : Cursor) : Except Fault (Directive × Cursor) := do
  let (major, d) ← versionNumber c.skipSpaces
  if d.rest.head? ≠ some '.' then malformed .directive
  else
    let (minor, e) ← versionNumber d.advance
    if atSpaceOrEnd e.rest then return (.version major minor, e) else malformed .directive

/-- The handle that a directive declares. -/
def handleDirective (c : Cursor) : Except Fault (Directive × Cursor) := do
  let (h, d) ← tagHandle c.skipSpaces
  if d.rest.head? ≠ some ' ' then malformed .directive
  else
    let (n, e) ← tagName d.skipSpaces
    if atSpaceOrEnd e.rest then return (.handle h n, e) else malformed .directive

/-- The directive at a place, and the place in front of the rest of its line. -/
def directive (c : Cursor) : Except Fault (Directive × Cursor) := do
  let (n, d) ← name .directive c.advance
  if !atSpaceOrEnd d.rest then malformed .directive
  else if n = "YAML" then versionDirective d
  else if n = "TAG" then handleDirective d
  else return (.other n, d.skipLine)

end Yaml
end ServiceCatalog
