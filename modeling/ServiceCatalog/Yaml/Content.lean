import ServiceCatalog.Document.Value
import ServiceCatalog.Number.Written
import ServiceCatalog.Text.Base64
import ServiceCatalog.Text.Casing
import ServiceCatalog.Yaml.Node

/-!
# The value of a node

A scalar becomes the value that its tag says and its text writes, and a sequence a list.  A mapping
becomes entries with scalar keys; of two entries with the same key the first keeps its place and the
last gives the value.

## Merging

A merge key puts the entries of another mapping, or of several, in front of the entries that the
mapping has itself, so that its own entries win.  Of several mappings the first one wins, which is
why they are put down in reverse order.  What is merged may merge in turn.

## Several faults

Only one fault is reported.  A document is looked through level by level: first what stands in the
document itself, then what stands in the lists and mappings there, and so on.  So a fault further
out counts before one that is written earlier but further in, and of two faults on one level the
first one counts (`Built`).
-/

namespace ServiceCatalog
namespace Yaml

/-! ## Numbers -/

/-- A number without the underscores in it. -/
def withoutGaps (cs : List Char) : List Char := cs.filter (· ≠ '_')

/-- The value of digits in base sixty, the last one first. -/
def sixtieths : List Int → Int
  | [] => 0
  | d :: ds => d + 60 * sixtieths ds

/-- The integer that a text writes in a base.  In base ten there is a limit to its digits. -/
def integerIn (base : Nat) (cs : List Char) : Except Fault Int :=
  let digits := cs.countP Text.isDigit
  match Text.integerInBase? base cs with
  | some n =>
    if base = 10 ∧ digitLimit < digits then unsuitable (.overlong (.read digits)) else .ok n
  | none => unsuitable (.integer base (String.ofList cs))

/-- The integer that a text without a sign and without underscores writes.  What comes first decides
the base. -/
def writtenMagnitude (cs : List Char) : Except Fault Int :=
  match cs with
  | [] => unsuitable .noNumber
  | ['0'] => .ok 0
  | '0' :: 'b' :: ds => integerIn 2 ds
  | '0' :: 'x' :: ds => integerIn 16 ds
  | '0' :: _ => integerIn 8 cs
  | _ =>
    if cs.contains ':' then
      ((Text.split ':' cs).mapM (integerIn 10)).map fun ds => sixtieths ds.reverse
    else integerIn 10 cs

/-- The integer that a text writes. -/
def writtenInteger (cs : List Char) : Except Fault Scalar :=
  match withoutGaps cs with
  | '-' :: ds => (writtenMagnitude ds).map fun n => .int (-n)
  | '+' :: ds => (writtenMagnitude ds).map .int
  | ds => (writtenMagnitude ds).map .int

/-- The sum of parts in base sixty, the last one first, from some power of sixty on. -/
def sumSixtieths (sum : Double) (power : Nat) : List Double → Except Fault Double
  | [] => .ok sum
  | x :: xs =>
    match x.scale? power with
    | some y => sumSixtieths (sum.add y) (60 * power) xs
    | none => unsuitable .power

/-- The double that a text is. -/
def doubleOf (cs : List Char) : Except Fault Double :=
  match Double.ofText? cs with
  | some x => .ok x
  | none => unsuitable (.number (String.ofList cs))

/-- The name of what is not a number. -/
def nanName : List Char := ".nan".toList

/-- The double that a text without a sign and without underscores writes. -/
def writtenDoubleMagnitude (cs : List Char) : Except Fault Double :=
  if cs = ".inf".toList then .ok (.infinite false)
  else if cs = nanName then .ok .nan
  else if cs.contains ':' then
    ((Text.split ':' cs).mapM doubleOf).bind fun xs => sumSixtieths .zero 1 xs.reverse
  else doubleOf cs

/-- The double that a text writes. -/
def writtenNumber (cs : List Char) : Except Fault Scalar :=
  match Text.lower (withoutGaps cs) with
  | [] => unsuitable .noNumber
  | '-' :: ds => (writtenDoubleMagnitude ds).map fun x => .float x.negate
  | '+' :: ds => (writtenDoubleMagnitude ds).map .float
  | ds => (writtenDoubleMagnitude ds).map .float

/-! ## Other scalars -/

/-- The truth value that a text names, in any case. -/
def writtenTruth (cs : List Char) : Except Fault Scalar :=
  let s := String.ofList (Text.lower cs)
  if s ∈ ["yes", "true", "on"] then .ok (.bool true)
  else if s ∈ ["no", "false", "off"] then .ok (.bool false)
  else unsuitable (.truthValue s)

/-- The date or the moment that a text writes. -/
def writtenTime (cs : List Char) : Except Fault Scalar :=
  match WrittenTime.ofText? cs with
  | some t => t.scalar.mapError fun fault => .unsuitable (.calendar fault)
  | none => unsuitable .noDate

/-- The bytes that a text writes. -/
def writtenBytes (cs : List Char) : Except Fault Scalar :=
  if cs.all fun c => c.toNat < 128 then
    match Text.decodeBase64? cs with
    | some bs => .ok (.bytes bs)
    | none => malformed .bytes
  else malformed .bytes

/-- The scalar with a tag and a text. -/
def scalarOf (tag : Tag) (s : String) : Except Fault Scalar :=
  match tag with
  | .null => .ok .null
  | .bool => writtenTruth s.toList
  | .int => writtenInteger s.toList
  | .float => writtenNumber s.toList
  | .binary => writtenBytes s.toList
  | .date => writtenTime s.toList
  | .text => .ok (.text s)
  | .merge => malformed (.unknownTag tag.fullName)
  | .default => malformed (.unknownTag tag.fullName)
  | .other name => malformed (.unknownTag name)
  | _ => malformed (.kind tag.fullName)

/-- The tag of a list, of a mapping or of a set. -/
def Tag.isCollection : Tag → Bool
  | .sequence => true
  | .mapping => true
  | .set => true
  | .orderedMapping => true
  | .pairs => true
  | _ => false

/-! ## Depth -/

/-- A fault, and the number of lists and mappings around the node that has it. -/
structure Nested where
  depth : Nat := 0
  fault : Fault

/-- What comes of a node: something, or the first of the outermost faults in it. -/
abbrev Built := Except Nested

namespace Built

/-- Something that is right or wrong on the spot. -/
def here {α : Type} (x : Except Fault α) : Built α := x.mapError fun f => { fault := f }

/-- Something that is a level further down. -/
def inside {α : Type} (x : Built α) : Built α :=
  x.mapError fun e => { e with depth := e.depth + 1 }

/-- Two things, one behind the other; of two faults on one level the first one counts. -/
def both {α β γ : Type} (f : α → β → γ) : Built α → Built β → Built γ
  | .ok a, .ok b => .ok (f a b)
  | .error e, .ok _ => .error e
  | .ok _, .error e => .error e
  | .error e, .error e' => .error (if e'.depth < e.depth then e' else e)

end Built

/-! ## Keys -/

/-- A key.  What is not a number is the same key only as itself, so it has a place, unless it is
written by its name; all other keys have the place zero. -/
structure Key where
  scalar : Scalar
  place : Nat := 0

namespace Key

/-- Two keys are the same. -/
def same (a b : Key) : Bool := a.place = b.place && a.scalar.sameKey b.scalar

/-- A text is the name of what is not a number. -/
def isNanName (s : String) : Bool :=
  match Text.lower (withoutGaps s.toList) with
  | '-' :: cs => cs = nanName
  | '+' :: cs => cs = nanName
  | cs => cs = nanName

/-- The key that a scalar is, at some place and written as some text. -/
def ofScalar (scalar : Scalar) (place : Nat) (text : String) : Key :=
  ⟨scalar, if scalar = .float .nan && !isNanName text then place else 0⟩

/-- Sets the value of a key: in place if the key is there, at the end otherwise. -/
def put (key : Key) (value : Value) : List (Key × Value) → List (Key × Value)
  | [] => [(key, value)]
  | (k, v) :: es => if k.same key then (k, value) :: es else (k, v) :: put key value es

/-- The entries that remain when every key has been set in turn. -/
def entries (es : List (Key × Value)) : Entries :=
  (es.foldl (fun acc e => put e.1 e.2 acc) []).map fun e => (e.1.scalar, e.2)

end Key

/-! ## Nodes -/

/-- What the name of a node stands for inside of the node: its value after some rounds, if it has
one. -/
structure Loop where
  node : Node
  value : Option Value := none

/-- What the names of nodes stand for inside of them; without any there are no such nodes. -/
abbrev Environment : Type := List (String × Loop)

namespace Environment

/-- The value of a name. -/
def value? (env : Environment) (name : String) : Option Value := (env.lookup name).bind Loop.value

/-- The node with a name. -/
def node? (env : Environment) (name : String) : Option Node := (env.lookup name).map Loop.node

/-- A list or a mapping, marked by its place if nodes stand inside of themselves. -/
def mark (env : Environment) (place : Nat) (v : Value) : Value :=
  if env.isEmpty then v else .knot place v

end Environment

namespace Node

mutual

/-- The text of a scalar, or of the value that stands for a whole mapping. -/
def text? : Node → Option String
  | .scalar _ _ s => some s
  | .sequence _ _ _ => none
  | .mapping _ _ entries => textOfEntries? entries
  | .enclosing _ => none

/-- The text of the entry whose key says that it stands for all. -/
def textOfEntries? : List (Node × Node) → Option String
  | [] => none
  | (k, v) :: es => if k.tag = .default then text? v else textOfEntries? es

end

/-- A node as a scalar with some tag.  A date has to be written, and nothing can stand for it. -/
def scalarAs (t : Tag) (n : Node) : Except Fault Scalar :=
  match n, n.text? with
  | .scalar _ _ _, some s => scalarOf t s
  | _, some s => if t = .date then unsuitable .compoundDate else scalarOf t s
  | _, none => malformed (.kind t.fullName)

/-- The key that a node is.  The mark of the value that stands for a whole mapping is a text where
it is a key itself; a list or a mapping is none. -/
def key (n : Node) : Except Fault Key :=
  if n.tag.isCollection then malformed .compoundKey
  else
    (n.scalarAs (if n.tag = .default then .text else n.tag)).map fun s =>
      Key.ofScalar s n.place (n.text?.getD "")

/-- The value of a node that has no parts of its own: one that is not of the kind that its tag
says is found out when its parts are looked for. -/
def leaf (n : Node) : Built Value :=
  if n.tag.isCollection then Built.inside (Built.here (malformed (.kind n.tag.fullName)))
  else Built.here ((n.scalarAs n.tag).map .scalar)

/-- The node is a mapping. -/
def isMapping : Node → Bool
  | .mapping _ _ _ => true
  | _ => false

/-- The node is a mapping with a single entry. -/
def isSingle : Node → Bool
  | .mapping _ _ [_] => true
  | _ => false

/-- The entries of a finished value as those of a mapping. -/
def keyed (v : Value) : List (Key × Value) := v.entries.map fun e => (⟨e.1, 0⟩, e.2)

/-- The entries that a mapping around a place contributes when it is merged. -/
def mergedMapping (env : Environment) (name : String) : Except Fault (List (Key × Value)) :=
  if (env.node? name).any isMapping then .ok (((env.value? name).map keyed).getD [])
  else malformed .merge

/-- The entries that a mapping or a list of mappings around a place contributes when it is merged.
-/
def mergedAround (env : Environment) (name : String) : Except Fault (List (Key × Value)) :=
  match env.node? name with
  | some (.sequence _ _ items) =>
    if items.all isMapping then
      .ok ((((env.value? name).bind Value.items?).getD []).reverse.flatMap keyed)
    else malformed .merge
  | _ => mergedMapping env name

/-- The pair that a node around a place is. -/
def pairAround (env : Environment) (name : String) : Except Fault Value :=
  if (env.node? name).any isSingle then
    match (env.value? name).map Value.entries with
    | some ((k, v) :: _) => .ok (.pair (.scalar k) v)
    | _ => .ok (.pair .null .null)
  else malformed (.kind Tag.pairs.fullName)

open Built in
mutual

/-- The value of a node. -/
def build (env : Environment) : Node → Built Value
  | .scalar p t s => leaf (.scalar p t s)
  | .sequence p t items =>
    if t = .sequence then inside ((buildAll env items).map fun vs => env.mark p (.list vs))
    else if t = .orderedMapping ∨ t = .pairs then
      inside ((buildPairs env items).map fun vs => env.mark p (.list vs))
    else leaf (.sequence p t items)
  | .mapping p t es =>
    if t = .mapping ∨ t = .set then
      match parts env es with
      | .ok (merged, own) =>
        inside ((both (· ++ ·) merged own).map fun all =>
          if t = .set then .set ((Key.entries all).map Prod.fst)
          else env.mark p (.mapping (Key.entries all)))
      | .error f => inside (here (.error f))
    else leaf (.mapping p t es)
  | .enclosing name => .ok ((env.value? name).getD .null)

/-- The values of nodes. -/
def buildAll (env : Environment) : List Node → Built (List Value)
  | [] => .ok []
  | n :: ns => both (· :: ·) (build env n) (buildAll env ns)

/-- The pairs that nodes are. -/
def buildPairs (env : Environment) : List Node → Built (List Value)
  | [] => .ok []
  | n :: ns => both (· :: ·) (buildPair env n) (buildPairs env ns)

/-- The pair that a node is: a mapping with a single entry. -/
def buildPair (env : Environment) : Node → Built Value
  | .mapping _ _ es => buildEntry env es
  | .enclosing name => here (pairAround env name)
  | n => here (malformed (.kind n.tag.fullName))

/-- The pair that a single entry is. -/
def buildEntry (env : Environment) : List (Node × Node) → Built Value
  | [] => here (malformed (.kind Tag.pairs.fullName))
  | (k, v) :: es =>
    if es.isEmpty then both Value.pair (build env k) (build env v)
    else here (malformed (.kind Tag.pairs.fullName))

/-- The entries that a mapping merges, and those that it has itself, in order.  What is merged has
to be known before any entry is built. -/
def parts (env : Environment) :
    List (Node × Node) → Except Fault (Built (List (Key × Value)) × Built (List (Key × Value)))
  | [] => .ok (.ok [], .ok [])
  | (k, v) :: es =>
    if k.tag = .merge then do
      let first ← merged env v
      let (others, own) ← parts env es
      return (both (· ++ ·) first others, own)
    else do
      let (others, own) ← parts env es
      return (others, both (· :: ·) (both Prod.mk (here k.key) (build env v)) own)

/-- The entries that a node contributes when it is merged. -/
def merged (env : Environment) : Node → Except Fault (Built (List (Key × Value)))
  | .mapping _ _ es => (parts env es).map fun p => both (· ++ ·) p.1 p.2
  | .sequence _ _ items => mergedItems env items
  | .scalar _ _ _ => malformed .merge
  | .enclosing name => (mergedAround env name).map .ok

/-- The entries that several mappings contribute: the first mapping comes last. -/
def mergedItems (env : Environment) : List Node → Except Fault (Built (List (Key × Value)))
  | [] => .ok (.ok [])
  | n :: ns =>
    match n with
    | .mapping _ _ es => do
      let (others, own) ← parts env es
      let later ← mergedItems env ns
      return both (· ++ ·) later (both (· ++ ·) others own)
    | .enclosing name => do
      let around ← mergedMapping env name
      let later ← mergedItems env ns
      return both (· ++ ·) later (.ok around)
    | _ => malformed .merge

end

end Node

/-! ## Graphs -/

namespace Graph

/-- How many rounds deep a node is unrolled that stands inside of itself. -/
def rounds : Nat := 16

/-- The environment after a round.  A node that has a fault keeps the value that it had. -/
def nextEnvironment (env : Environment) : Environment :=
  env.map fun (name, loop) =>
    (name,
      match loop.node.build env with
      | .ok v => { loop with value := some v }
      | .error _ => loop)

/-- The environment after some rounds. -/
def environment (g : Graph) : (rounds : Nat) → Environment
  | 0 => g.loops.map fun (name, node) => (name, { node := node })
  | n + 1 => nextEnvironment (g.environment n)

/-- The value of a document, or the first of the outermost faults in it. -/
def value (g : Graph) : Except Fault Value :=
  (g.root.build (g.environment rounds)).mapError (·.fault)

end Graph
end Yaml
end ServiceCatalog
