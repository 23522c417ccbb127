import ServiceCatalog.Text.Blank
import ServiceCatalog.Text.Digit
import ServiceCatalog.Text.Hex

/-!
# Actions

A mark that starts with `@` ties a remark to an action: `[@click=open('file', 1)]`.  What stands
behind the equals sign is the name of the action and its arguments between parentheses, or only the
name, or only the arguments.  Arguments are literals: numbers, texts, and collections of literals.
Nothing is ever done with an action, but one whose arguments cannot be read is a mistake.

`literal?` reads a literal at the start of a text.  Only a fixed literal may be a key or a member of
a set, and a literal is fixed if it holds no list, no set and no mapping.
-/

namespace ServiceCatalog
namespace Terminal
namespace Action

/-- A character of a name. -/
def isNameChar (c : Char) : Bool := c.isAlphanum || c = '_' || 0x80 ≤ c.toNat

/-- The text behind its blanks. -/
def skip (cs : List Char) : List Char := cs.dropWhile Text.isBlank

/-- The text behind some digits with single underscores between them. -/
def digits? (isDigit : Char → Bool) : List Char → Option (List Char)
  | [] => none
  | c :: cs =>
    if !isDigit c then none
    else match cs with
      | '_' :: d :: ds => if isDigit d then digits? isDigit (d :: ds) else none
      | d :: ds => if isDigit d then digits? isDigit (d :: ds) else some cs
      | [] => some []

/-- The text behind an exponent, if there is one. -/
def exponent (cs : List Char) : Option (List Char) :=
  match cs with
  | e :: rest =>
    if e = 'e' || e = 'E' then
      match rest with
      | sign :: ds => if sign = '+' || sign = '-' then digits? Char.isDigit ds
        else digits? Char.isDigit rest
      | [] => none
    else some cs
  | [] => some []

/-- The base of a number that names it, by the letter behind the zero. -/
def based? (letter : Char) : Option (Char → Bool) :=
  if letter = 'x' || letter = 'X' then some fun c => (Text.hexDigitValue? c).isSome
  else if letter = 'o' || letter = 'O' then some fun c => '0' ≤ c && c ≤ '7'
  else if letter = 'b' || letter = 'B' then some fun c => c = '0' || c = '1'
  else none

/-- The text behind a number without a sign, and whether the number is imaginary.  A name may not
follow it. -/
def number? (cs : List Char) : Option (Bool × List Char) :=
  let ended (imaginary : Bool) (rest : List Char) : Option (Bool × List Char) :=
    match rest with
    | c :: _ => if isNameChar c then none else some (imaginary, rest)
    | [] => some (imaginary, [])
  let fraction (rest : List Char) : Option (List Char) :=
    match rest with
    | c :: _ => if c.isDigit then digits? Char.isDigit rest else some rest
    | [] => some []
  let base := match cs with
    | '0' :: letter :: rest => (based? letter).map fun isDigit => (isDigit, rest)
    | _ => none
  match base with
  | some (isDigit, rest) =>
    (digits? isDigit (match rest with | '_' :: ds => ds | ds => ds)).bind (ended false)
  | none => do
    let whole ← match cs with
      | '.' :: _ => some cs
      | _ => digits? Char.isDigit cs
    let taken := cs.take (cs.length - whole.length)
    let plain := !whole.head?.any fun c => c = '.' || c = 'e' || c = 'E' || c = 'j' || c = 'J'
    if plain && taken.head? = some '0' && taken.any (fun c => c ≠ '0' && c ≠ '_') then none
    else
      let behind ← match whole with
        | '.' :: rest =>
          if taken.isEmpty then digits? Char.isDigit rest else fraction rest
        | rest => some rest
      let rest ← exponent behind
      match rest with
      | c :: after => if c = 'j' || c = 'J' then ended true after else ended false rest
      | [] => some (false, [])

/-- The text behind the inside of a text literal, up to its closing quotes. -/
def closed? (quote : List Char) (long : Bool) : List Char → Option (List Char)
  | [] => none
  | '\\' :: _ :: cs => closed? quote long cs
  | c :: cs =>
    if quote.isPrefixOf (c :: cs) then some (cs.drop (quote.length - 1))
    else if c = '\n' && !long then none
    else closed? quote long cs

/-- The text behind a text literal, and whether it is one of bytes. -/
def text? (cs : List Char) : Option (Bool × List Char) :=
  let letters := cs.takeWhile Char.isAlpha
  let mark := letters.map Char.toLower
  let known := [[], ['r'], ['b'], ['u'], ['b', 'r'], ['r', 'b']]
  match cs.drop letters.length with
  | q :: rest =>
    if !known.contains mark || (q ≠ '\'' && q ≠ '"') then none
    else
      let long := [q, q].isPrefixOf rest
      let behind :=
        if [q, q, q].isPrefixOf (q :: rest) then closed? [q, q, q] true (rest.drop 2)
        else if long then some (rest.drop 2)
        else closed? [q] false rest
      behind.map fun r => (mark.contains 'b', r)
  | [] => none

/-- The text behind text literals that stand side by side and are all of one kind. -/
def texts? : (fuel : Nat) → (bytes : Bool) → List Char → Option (List Char)
  | 0, _, cs => some cs
  | fuel + 1, bytes, cs =>
    match text? (skip cs) with
    | some (b, rest) => if b = bytes then texts? fuel bytes rest else none
    | none => some cs

/-- The text behind a number with an optional sign, to which an imaginary part may be added. -/
def signed? (cs : List Char) : Option (List Char) := do
  let sign (c : Char) : Bool := c = '+' || c = '-'
  let unsigned := match cs with
    | c :: rest => if sign c then skip rest else cs
    | [] => []
  let (imaginary, rest) ← number? unsigned
  match skip rest with
  | c :: more =>
    if sign c && !imaginary then
      match number? (skip more) with
      | some (true, after) => some after
      | _ => none
    else some rest
  | [] => some rest

/-- The words that are literals. -/
def words : List String := ["True", "False", "None"]

/-- The shapes of collections, by their brackets. -/
inductive Shape where
  /-- Values in parentheses, or one literal there. -/
  | round
  | list
  /-- A set or a mapping, whose first member says which. -/
  | curly
  | set
  | mapping

/-- The shape of the collection that a bracket opens, and the bracket that closes it. -/
def shape? (c : Char) : Option (Shape × Char) :=
  if c = '(' then some (.round, ')')
  else if c = '[' then some (.list, ']')
  else if c = '\x7b' then some (.curly, '\x7d')
  else none

mutual

/-- Reads a literal: the text behind it, and whether it is fixed. -/
def literal? : (fuel : Nat) → List Char → Option (Bool × List Char)
  | 0, _ => none
  | fuel + 1, cs =>
    match skip cs with
    | [] => none
    | c :: rest =>
      match shape? c with
      | some (shape, stop) => members? fuel shape stop true (skip rest)
      | none =>
        let name := (c :: rest).takeWhile isNameChar
        let behind := (c :: rest).drop name.length
        if words.contains (String.ofList name) then some (true, behind)
        else if name = ['s', 'e', 't'] then
          match skip behind with
          | '(' :: inside =>
            match skip inside with
            | ')' :: after => some (false, after)
            | _ => none
          | _ => none
        else if ['.', '.', '.'].isPrefixOf (c :: rest) then some (true, rest.drop 2)
        else
          match text? (c :: rest) with
          | some (bytes, after) => (texts? fuel bytes after).map fun r => (true, r)
          | none => (signed? (c :: rest)).map fun r => (true, r)

/-- Reads the members of a collection up to its closing bracket.  The flag says that all members so
far are fixed. -/
def members? : (fuel : Nat) → Shape → (stop : Char) → (fixed : Bool) → List Char →
    Option (Bool × List Char)
  | 0, _, _, _, _ => none
  | fuel + 1, shape, stop, fixed, cs => do
    let result (all : Bool) : Bool := match shape with
      | .round => all
      | _ => false
    if cs.head? = some stop then return (result fixed, cs.drop 1)
    let (first, rest) ← literal? fuel cs
    let (next, behind) ← match shape, skip rest with
      | .round, _ => some (shape, rest)
      | .list, _ => some (shape, rest)
      | .set, _ => if first then some (shape, rest) else none
      | _, ':' :: more =>
        if first then (literal? fuel more).map fun r => (Shape.mapping, r.2) else none
      | .curly, _ => if first then some (.set, rest) else none
      | .mapping, _ => none
    match skip behind with
    | ',' :: more => members? fuel next stop (fixed && first) (skip more)
    | c :: more => if c = stop then some (result (fixed && first), more) else none
    | [] => none

end

/-- The text is one literal, or several with commas between them. -/
def isLiteral (cs : List Char) : Bool :=
  (members? (2 * cs.length + 2) .round ')' true (skip (cs ++ [')']))).any fun r => r.2.isEmpty

/-- The arguments among the parameters of an action: those behind its name, or all parameters if
they are no call. -/
def arguments (parameters : List Char) : List Char :=
  let plain := Text.trim parameters
  match plain.dropWhile fun c => isNameChar c || c = '.' with
  | [] => ['(', ')']
  | call =>
    if call.head? = some '(' && call.getLast? = some ')' && !call.contains '\n' then call
    else plain

/-- The parameters of an action can be read. -/
def isReadable (parameters : List Char) : Bool := isLiteral (arguments parameters)

end Action
end Terminal
end ServiceCatalog
