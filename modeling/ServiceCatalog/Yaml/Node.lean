import ServiceCatalog.Yaml.Tag
import ServiceCatalog.Yaml.Token

/-!
# The nodes of a document

A node is a scalar, a sequence or a mapping, with its tag and a number that tells it from all other
nodes.  The grammar is read from the list of tokens by functions that follow it: each reads one
construct at the front of the list and leaves the rest.

## Names

An anchor names the node behind it, from there on and once only.  An alias is the node that it
names.  While a list or a mapping is being read its name is known, but there is no node yet: an
alias inside of it is kept as a name (`Node.enclosing`), and what the name stands for is found in
the graph of the whole document (`Graph`).

## Why the fuel never runs out

Every second step at the latest takes a token off the list, so three times as many steps as there
are tokens are enough.
-/

namespace ServiceCatalog
namespace Yaml

/-- A node of a document. -/
inductive Node where
  | scalar (place : Nat) (tag : Tag) (text : String)
  | sequence (place : Nat) (tag : Tag) (items : List Node)
  | mapping (place : Nat) (tag : Tag) (entries : List (Node × Node))
  /-- A list or a mapping around this place, by its name. -/
  | enclosing (name : String)

namespace Node

/-- The node where nothing is written. -/
def empty : Node := .scalar 0 .null ""

instance : Inhabited Node := ⟨empty⟩

/-- The tag of a node. -/
def tag : Node → Tag
  | .scalar _ t _ => t
  | .sequence _ t _ => t
  | .mapping _ t _ => t
  | .enclosing _ => .mapping

/-- The number of a node. -/
def place : Node → Nat
  | .scalar p _ _ => p
  | .sequence p _ _ => p
  | .mapping p _ _ => p
  | .enclosing _ => 0

end Node

/-- The node of a document, and the nodes that stand inside of themselves, by their names. -/
structure Graph where
  root : Node
  loops : List (String × Node)

/-- The state of reading nodes. -/
structure Composer where
  /-- The tokens that are left. -/
  tokens : List Token
  /-- What is wrong behind the last token. -/
  fault : Option Fault
  /-- What stands for a handle. -/
  handles : List (String × String)
  /-- The named nodes; one that is still being read has no node. -/
  anchors : List (String × Option Node) := []
  /-- The names of the nodes that stand inside of themselves. -/
  loops : List String := []
  /-- The number of nodes. -/
  size : Nat := 0

/-- Reading something from tokens. -/
abbrev Compose (α : Type) : Type := StateT Composer (Except Fault) α

namespace Compose

/-- The document is malformed. -/
def fail {α : Type} (cause : Malformed) : Compose α := fun _ => malformed cause

/-- The next token, which is left in place. -/
def peek : Compose (Option Token) := fun s =>
  match s.tokens, s.fault with
  | [], some f => .error f
  | ts, _ => .ok (ts.head?, s)

/-- Takes the next token off. -/
def skip : Compose Unit := fun s => .ok ((), { s with tokens := s.tokens.tail })

/-- The next token is one of some. -/
def sees (ts : List Token) : Compose Bool :=
  peek.map fun t => t.any fun t => ts.contains t

/-! ## Properties of a node -/

/-- An anchor, if one comes next. -/
def anchor? : Compose (Option String) := do
  match ← peek with
  | some (.anchor name) => skip; return some name
  | _ => return none

/-- A tag, if one comes next. -/
def tag? : Compose (Option WrittenTag) := do
  match ← peek with
  | some (.tag t) => skip; return some t
  | _ => return none

/-- The anchor and the tag of a node, which may stand in any order. -/
def properties : Compose (Option String × Option WrittenTag) := do
  match ← anchor? with
  | some name => return (some name, ← tag?)
  | none =>
    let t ← tag?
    return (← anchor?, t)

/-- The full name of a written tag. -/
def fullName (t : WrittenTag) : Compose String := do
  match t.handle with
  | none => return t.suffix
  | some handle =>
    match (← get).handles.lookup handle with
    | some lead => return lead ++ t.suffix
    | none => fail (.unknownHandle handle)

/-- The tag that is meant by the name of a tag.  A single exclamation mark means that no tag is
written. -/
def meant (name : Option String) (implied : Tag) : Tag :=
  match name with
  | none => implied
  | some "!" => implied
  | some n => Tag.ofName n

/-- Names a node that is about to be read. -/
def open? (name : Option String) : Compose Unit := do
  match name with
  | none => return
  | some n =>
    let s ← get
    if (s.anchors.lookup n).isSome then fail (.repeatedAnchor n)
    else set { s with anchors := (n, none) :: s.anchors }

/-- Names a node that has been read. -/
def close? (name : Option String) (node : Node) : Compose Node := do
  match name with
  | none => return node
  | some n =>
    modify fun s => { s with anchors := (n, some node) :: s.anchors }
    return node

/-- The node that an alias stands for. -/
def named (n : String) : Compose Node := do
  match (← get).anchors.lookup n with
  | some (some node) => return node
  | some none =>
    modify fun s => { s with loops := n :: s.loops }
    return .enclosing n
  | none => fail (.undefinedAlias n)

/-- The number of a new node. -/
def fresh : Compose Nat := fun s => .ok (s.size + 1, { s with size := s.size + 1 })

/-! ## Nodes -/

/-- Where a node stands: inside of brackets, in a block, or as part of a mapping in a block, where
the entries of a sequence need no indentation. -/
inductive Place where
  | flow
  | block
  | part
  deriving DecidableEq

mutual

/-- A node. -/
def node (place : Place) : (fuel : Nat) → Compose Node
  | 0 => fail .unexpectedToken
  | fuel + 1 => do
    match ← peek with
    | some (.alias n) => skip; named n
    | _ =>
      let (name, written) ← properties
      let tag ← match written with
        | none => pure none
        | some t => some <$> fullName t
      let next ← peek
      open? name
      let number ← fresh
      match next, place with
      | some .entry, .part =>
        close? name (.sequence number (meant tag .sequence) (← bareItems fuel))
      | some (.scalar text plain), _ =>
        skip
        let implied := if plain || tag = some "!" then Tag.ofPlain text.toList else .text
        close? name (.scalar number (meant tag implied) text)
      | some .openSequence, _ =>
        skip
        close? name (.sequence number (meant tag .sequence) (← flowItems true fuel))
      | some .openMapping, _ =>
        skip
        close? name (.mapping number (meant tag .mapping) (← flowEntries true fuel))
      | some .blockSequence, .block | some .blockSequence, .part =>
        skip
        close? name (.sequence number (meant tag .sequence) (← blockItems fuel))
      | some .blockMapping, .block | some .blockMapping, .part =>
        skip
        close? name (.mapping number (meant tag .mapping) (← blockEntries fuel))
      | _, _ =>
        if name.isSome || tag.isSome then
          close? name (.scalar number (meant tag .null) "")
        else fail .unexpectedToken

/-- A node, or nothing in front of some tokens. -/
def nodeUnless (ends : List Token) (place : Place) : (fuel : Nat) → Compose Node
  | 0 => fail .unexpectedToken
  | fuel + 1 => do
    if ← sees ends then return .empty else node place fuel

/-- What may stand behind a mark: a node, or nothing in front of some tokens or without the mark. -/
def marked (t : Token) (ends : List Token) (place : Place) : (fuel : Nat) → Compose Node
  | 0 => fail .unexpectedToken
  | fuel + 1 => do
    if ← sees [t] then
      skip
      nodeUnless ends place fuel
    else return .empty

/-- The items of a sequence in a block. -/
def blockItems : (fuel : Nat) → Compose (List Node)
  | 0 => fail .unexpectedToken
  | fuel + 1 => do
    match ← peek with
    | some .entry =>
      skip
      let item ← nodeUnless [.entry, .blockEnd] .block fuel
      let items ← blockItems fuel
      return item :: items
    | some .blockEnd => skip; return []
    | _ => fail .unexpectedToken

/-- The items of a sequence that has no block of its own. -/
def bareItems : (fuel : Nat) → Compose (List Node)
  | 0 => fail .unexpectedToken
  | fuel + 1 => do
    match ← peek with
    | some .entry =>
      skip
      let item ← nodeUnless [.entry, .key, .value, .blockEnd] .block fuel
      let items ← bareItems fuel
      return item :: items
    | _ => return []

/-- The entries of a mapping in a block. -/
def blockEntries : (fuel : Nat) → Compose (List (Node × Node))
  | 0 => fail .unexpectedToken
  | fuel + 1 => do
    match ← peek with
    | some .key =>
      skip
      let ends := [Token.key, .value, .blockEnd]
      let key ← nodeUnless ends .part fuel
      let value ← marked .value ends .part fuel
      let entries ← blockEntries fuel
      return (key, value) :: entries
    | some .blockEnd => skip; return []
    | _ => fail .unexpectedToken

/-- The items of a sequence in brackets.  A key makes a mapping of one entry. -/
def flowItems (first : Bool) : (fuel : Nat) → Compose (List Node)
  | 0 => fail .unexpectedToken
  | fuel + 1 => do
    if ← sees [.closeSequence] then
      skip
      return []
    else if !first && !(← sees [.comma]) then fail .unexpectedToken
    else
      if !first then skip
      match ← peek with
      | some .closeSequence => skip; return []
      | some .key =>
        skip
        let key ← nodeUnless [.value, .comma, .closeSequence] .flow fuel
        let value ← marked .value [.comma, .closeSequence] .flow fuel
        let items ← flowItems false fuel
        return .mapping (← fresh) .mapping [(key, value)] :: items
      | _ =>
        let item ← node .flow fuel
        let items ← flowItems false fuel
        return item :: items

/-- The entries of a mapping in braces.  A node that is no key has no value. -/
def flowEntries (first : Bool) : (fuel : Nat) → Compose (List (Node × Node))
  | 0 => fail .unexpectedToken
  | fuel + 1 => do
    if ← sees [.closeMapping] then
      skip
      return []
    else if !first && !(← sees [.comma]) then fail .unexpectedToken
    else
      if !first then skip
      match ← peek with
      | some .closeMapping => skip; return []
      | some .key =>
        skip
        let key ← nodeUnless [.value, .comma, .closeMapping] .flow fuel
        let value ← marked .value [.comma, .closeMapping] .flow fuel
        let entries ← flowEntries false fuel
        return (key, value) :: entries
      | _ =>
        let key ← node .flow fuel
        let entries ← flowEntries false fuel
        return (key, .empty) :: entries

end

/-! ## Documents -/

/-- The handles that need no declaration. -/
def defaultHandles : List (String × String) := [("!", "!"), ("!!", Tag.home)]

/-- The handles that directives declare.  Only one of them may name the version, which has to be the
first one, and none may declare a handle twice. -/
def declared : (fuel : Nat) → (versioned : Bool) → List (String × String) →
    Compose (List (String × String))
  | 0, _, _ => fail .directive
  | fuel + 1, versioned, hs => do
    match ← peek with
    | some (.directive d) =>
      skip
      match d with
      | .version major _ =>
        if versioned || major ≠ 1 then fail .directive else declared fuel true hs
      | .handle n lead =>
        if (hs.lookup n).isSome then fail .directive else declared fuel versioned ((n, lead) :: hs)
      | .other _ => declared fuel versioned hs
    | _ => return hs

/-- The node of a document. -/
def document : Compose Node := do
  let fuel := 3 * (← get).tokens.length + 3
  match ← peek with
  | some (.directive _) | some .documentStart =>
    let hs ← declared fuel false []
    if !(← sees [.documentStart]) then fail .unexpectedToken
    else
      skip
      modify fun s => { s with handles := hs ++ defaultHandles }
      match ← peek with
      | none | some (.directive _) | some .documentStart | some .documentEnd => return .empty
      | _ => node .block fuel
  | _ => node .block fuel

/-- The node of a text with one document; a text without any has none. -/
def single : Compose (Option Node) := do
  match ← peek with
  | none => return none
  | _ =>
    let n ← document
    modify fun s => { s with tokens := s.tokens.dropWhile (· = .documentEnd) }
    match ← peek with
    | none => return some n
    | _ => fail .severalDocuments

end Compose

/-- The graph that tokens describe, if they describe one. -/
def Graph.ofTokens? (ts : Tokens) : Except Fault (Option Graph) := do
  let (root, s) ←
    Compose.single { tokens := ts.tokens, fault := ts.fault, handles := Compose.defaultHandles }
  return root.map fun n =>
    { root := n
      loops := s.loops.eraseDups.filterMap fun name =>
        ((s.anchors.lookup name).bind id).map fun body => (name, body) }

end Yaml
end ServiceCatalog
