import ServiceCatalog.Terminal.Action
import ServiceCatalog.Terminal.Emoji
import ServiceCatalog.Terminal.Style
import ServiceCatalog.Text.Quoted

/-!
# Marked-up remarks

A remark may hold marks in square brackets: `[bold]` opens a style, `[/bold]` closes it again, and
`[/]` closes the one that was opened last.  What is shown is the text without the marks, with
pictures for the names of emoji and without the control characters that would move the cursor.

A backslash in front of a mark makes it an ordinary text, and two backslashes there stand for one.
Words in brackets that are no style are marks as well and disappear; but a mark that closes what is
not open is a mistake (`MarkupFault`), and then nothing is shown at all.
-/

namespace ServiceCatalog
namespace Terminal

/-- What can be wrong with the marks of a remark. -/
inductive MarkupFault where
  /-- A mark at a position closes a style that is not open. -/
  | notOpen (mark : String) (position : Nat)
  /-- A mark at a position closes the last style, and none is open. -/
  | nothingOpen (position : Nat)
  /-- The arguments of an action cannot be read. -/
  | action (arguments parameters : String)
  /-- A number of a colour is missing. -/
  | missingNumber
  deriving DecidableEq, Repr

/-- What is said about a fault. -/
def MarkupFault.message : MarkupFault → String
  | .notOpen mark position =>
    s!"closing tag '{mark}' at position {position} doesn't match any open tag"
  | .nothingOpen position => s!"closing tag '[/]' at position {position} has nothing to close"
  | .action arguments parameters =>
    "error parsing " ++ String.ofList (Text.quoted arguments.toList) ++ " in " ++
      String.ofList (Text.quoted parameters.toList) ++ "; invalid syntax"
  | .missingNumber => "invalid literal for int() with base 10: ''"

/-- A mark: its name, and what stands behind an equals sign. -/
structure Mark where
  name : List Char
  parameters : Option (List Char)

namespace Mark

/-- The mark with some words between its brackets. -/
def ofInside (inside : List Char) : Mark :=
  let name := inside.takeWhile (· ≠ '=')
  ⟨name, if name.length < inside.length then some (inside.drop (name.length + 1)) else none⟩

/-- A mark as it is written. -/
def written (m : Mark) : List Char :=
  '[' :: m.name ++ (m.parameters.map fun p => '=' :: p).getD [] ++ [']']

/-- The words of the style that a mark opens. -/
def style (m : Mark) : List Char := m.name ++ (m.parameters.map fun p => ' ' :: p).getD []

end Mark

/-- A part of a remark: a text, or a mark at a position. -/
inductive RemarkPart where
  | text (cs : List Char)
  | mark (position : Nat) (m : Mark)

/-- A mark starts like this. -/
def startsMark (c : Char) : Bool := ('a' ≤ c && c ≤ 'z') || c = '#' || c = '/' || c = '@'

/-- The words of the mark whose opening bracket stands before the text. -/
def markInside? : List Char → Option (List Char)
  | [] => none
  | c :: cs =>
    let inside := cs.takeWhile fun d => d ≠ '[' && d ≠ ']'
    if startsMark c && cs[inside.length]? = some ']' then some (c :: inside) else none

/-- The texts that end in front of a mark, and the mark.  The text before it is given in reverse
order; of the backslashes at its end half are kept, and an odd one makes the mark a text. -/
def partsAt (position : Nat) (before inside : List Char) : List RemarkPart :=
  let slashes := (before.takeWhile (· = '\\')).length
  let plain := (before.drop slashes).reverse
  [.text plain, .text (List.replicate (slashes / 2) '\\'),
    if slashes % 2 = 0 then .mark position (.ofInside inside) else .text ('[' :: inside ++ [']'])]

/-- The parts of a text at a position, with the characters before it that belong to a text, the last
one first. -/
def remarkParts (position : Nat) (before : List Char) (cs : List Char) : List RemarkPart :=
  match cs with
  | [] => [.text before.reverse]
  | c :: rest =>
    match if c = '[' then markInside? rest else none with
    | some inside =>
      partsAt position before inside ++
        remarkParts (position + inside.length + 2) [] (rest.drop (inside.length + 1))
    | none => remarkParts (position + 1) (c :: before) rest
termination_by cs.length
decreasing_by
  all_goals simp only [List.length_drop, List.length_cons]
  all_goals omega

/-- The control characters that would move the cursor or ring a bell. -/
def isMotion (c : Char) : Bool :=
  c = '\x07' || c = '\x08' || c = '\x0b' || c = '\x0c' || c = '\r'

/-- A text in which a bracket that is no mark may have a backslash. -/
def unescaped : List Char → List Char
  | [] => []
  | '\\' :: '[' :: cs => '[' :: unescaped cs
  | c :: cs => c :: unescaped cs

/-- What is shown of a text without marks. -/
def shown (cs : List Char) : List Char := (withEmoji cs).filter fun c => !isMotion c

/-- The form of a style's name, or the fault in it. -/
def markName (cs : List Char) : Except MarkupFault (List Char) :=
  match styleName cs with
  | .ok name => .ok name
  | .error _ => .error .missingNumber

/-- The words of a mark's style hold no fault. -/
def checkStyle (m : Mark) : Except MarkupFault Unit :=
  match Style.ofText m.style with
  | .error .missingNumber => .error .missingNumber
  | _ => .ok ()

/-- A mark can be closed: if it names an action, then the arguments can be read. -/
def checkClosed (m : Mark) : Except MarkupFault Unit :=
  match m.name, m.parameters with
  | '@' :: _, some (p :: ps) =>
    if Action.isReadable (p :: ps) then .ok ()
    else .error (.action (String.ofList (Action.arguments (p :: ps))) (String.ofList (p :: ps)))
  | _, _ => .ok ()

/-- Removes the mark that a closing one closes from the open ones, the last one first. -/
def closing (position : Nat) (m : Mark) (opened : List Mark) :
    Except MarkupFault (Mark × List Mark) := do
  match Text.trim (m.name.drop 1) with
  | [] =>
    match opened with
    | last :: others => return (last, others)
    | [] => .error (.nothingOpen position)
  | words =>
    let name ← markName words
    match opened.find? fun o => o.name = name with
    | some o => return (o, opened.eraseP fun o => o.name = name)
    | none => .error (.notOpen (String.ofList m.written) position)

/-- What is shown of the parts of a remark, given the open marks, the last one first. -/
def shownParts (opened : List Mark) : List RemarkPart → Except MarkupFault (List Char)
  | [] => .ok []
  | .text cs :: parts => do
    let rest ← shownParts opened parts
    return shown (unescaped cs) ++ rest
  | .mark position m :: parts =>
    if m.name.head? = some '/' then do
      let (closed, others) ← closing position m opened
      checkClosed closed
      shownParts others parts
    else do
      let name ← markName m.name
      shownParts ({ m with name := name } :: opened) parts

/-- The styles of the marks that open something. -/
def checkStyles (parts : List RemarkPart) : Except MarkupFault Unit :=
  parts.forM fun
    | .text _ => .ok ()
    | .mark _ m => if m.name.head? = some '/' then .ok () else checkStyle m

/-- What is shown of a remark. -/
def markedUp (cs : List Char) : Except MarkupFault (List Char) :=
  if '[' ∈ cs then do
    let parts := remarkParts 0 [] cs
    let text ← shownParts [] parts
    checkStyles parts
    return text
  else .ok (shown cs)

/-- Without a bracket there is nothing that could be wrong. -/
theorem markedUp_of_notMem {cs : List Char} (h : '[' ∉ cs) : markedUp cs = .ok (shown cs) := by
  simp [markedUp, h]

end Terminal
end ServiceCatalog
