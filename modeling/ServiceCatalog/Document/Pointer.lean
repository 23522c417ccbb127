import ServiceCatalog.Document.Literal
import ServiceCatalog.Text.Digit
import ServiceCatalog.Text.Pieces

/-!
# Pointers into a document

A reference names a place in its own document by a pointer `#/components/schemas/Pet`: a path of
keys and list indices from the root, separated by slashes.  A slash inside a key is written `~1` and
a tilde `~0`, and `unescape` undoes both in one pass from left to right.

## What a segment means

It depends on the value it is applied to.  In a mapping a segment is a textual key, and no other key
can be reached.  In a list it is an index in any written form of an integer (`Text.integer?`),
counted from the end if it is negative; one of too many digits is not read, and is no index.  Every
other value is the end of all paths.

## One level at a time

`dereference` follows a reference once.  If the target is a reference itself, it is returned as
such: whether a second step is wanted depends on where the reference stood.

A reference that leads nowhere is one of two ways in which a part of a document may defy its
description (`DescriptionError`).  The other is an integer that would have to be written out, or
read from a text, and is too long for either.
-/

namespace ServiceCatalog

/-- Why a pointer leads nowhere.  Each cause carries the whole reference. -/
inductive PointerError where
  /-- The reference leaves the document. -/
  | external (ref : String)
  /-- A mapping has no such key. -/
  | missingKey (ref key : String)
  /-- A list has no such index, or the segment is no index. -/
  | badIndex (ref segment : String)
  /-- The path goes on below a value without parts. -/
  | notAContainer (ref kind : String)
  deriving DecidableEq

/-- What is said about a pointer that leads nowhere. -/
def PointerError.message : PointerError → String
  | .external ref =>
    s!"External $ref not supported: {ref}. Bundle the document before extracting services."
  | .missingKey ref key => s!"Cannot resolve $ref '{ref}': key '{key}' not found"
  | .badIndex ref segment => s!"Cannot resolve $ref '{ref}': invalid array index '{segment}'"
  | .notAContainer ref kind => s!"Cannot resolve $ref '{ref}': cannot navigate into {kind}"

namespace Pointer

/-- The key that a segment stands for. -/
def unescape : List Char → List Char
  | [] => []
  | '~' :: '1' :: cs => '/' :: unescape cs
  | '~' :: '0' :: cs => '~' :: unescape cs
  | c :: cs => c :: unescape cs

/-- The segment that stands for a key. -/
def escape : List Char → List Char
  | [] => []
  | c :: cs =>
    if c = '~' then '~' :: '0' :: escape cs
    else if c = '/' then '~' :: '1' :: escape cs
    else c :: escape cs

@[simp] theorem unescape_escape (cs : List Char) : unescape (escape cs) = cs := by
  induction cs with
  | nil => rfl
  | cons c cs ih =>
    unfold escape
    split
    · rename_i h; subst h; simp [unescape, ih]
    · split
      · rename_i h; subst h; simp [unescape, ih]
      · rename_i h _
        rw [unescape.eq_4 _ _ (fun _ hc _ => h hc) (fun _ hc _ => h hc), ih]

/-- An escaped key holds no slash. -/
theorem slash_notMem_escape (cs : List Char) : '/' ∉ escape cs := by
  induction cs with
  | nil => simp [escape]
  | cons c cs ih =>
    unfold escape
    split
    · simp [ih]
    · split
      · simp [ih]
      · rename_i h
        simp [ih, Ne.symm h]

/-- The segments of a reference into the document it stands in; `#` alone is the root. -/
def segments? (ref : String) : Option (List String) :=
  match ref.toList with
  | ['#'] => some []
  | '#' :: '/' :: path => some ((Text.split '/' path).map fun s => String.ofList (unescape s))
  | _ => none

/-- The item of a list at an index, counted from the end if the index is negative. -/
def item? (items : List Value) (index : Int) : Option Value :=
  if 0 ≤ index then items[index.toNat]?
  else if -index ≤ items.length then items[(items.length + index).toNat]? else none

/-- The index that a segment is in a list of some length.  It may have as many digits as any integer
that is read, or as the length itself if that has more, so that every item has an index. -/
def index? (length : Nat) (segment : List Char) : Option Int :=
  if segment.countP Text.isDigit ≤ max digitLimit (Nat.toDigits 10 length).length then
    Text.integer? segment
  else none

/-- One step of a path. -/
def step (ref : String) (current : Value) (segment : String) : Except PointerError Value :=
  match current with
  | .mapping es =>
    match Entries.get? segment es with
    | some v => .ok v
    | none => .error (.missingKey ref segment)
  | .list items =>
    match (index? items.length segment.toList).bind (item? items) with
    | some v => .ok v
    | none => .error (.badIndex ref segment)
  | .knot _ v => step ref v segment
  | other => .error (.notAContainer ref other.kindName)

/-- The value at the end of a path. -/
def follow (ref : String) : Value → List String → Except PointerError Value
  | v, [] => .ok v
  | v, s :: ss => (step ref v s).bind fun w => follow ref w ss

/-- The value that a reference names in a document. -/
def resolve (doc : Value) (ref : String) : Except PointerError Value :=
  match segments? ref with
  | some ss => follow ref doc ss
  | none => .error (.external ref)

/-- The name at the end of a pointer, as it is written there. -/
def name (ref : String) : String := String.ofList (Text.afterLast '/' ref.toList)

end Pointer

/-- Why a part of a document is not described. -/
inductive DescriptionError where
  /-- A reference leads nowhere. -/
  | pointer (cause : PointerError)
  /-- An integer is too long to be read or written. -/
  | overlong (cause : Overlong)
  deriving DecidableEq

/-- What is said about a part of a document that is not described. -/
def DescriptionError.message : DescriptionError → String
  | .pointer cause => cause.message
  | .overlong cause => cause.message

namespace Value

/-- The pointer of a reference: a mapping with a text under `$ref`. -/
def reference? (v : Value) : Option String := (v.field "$ref").text?

@[simp] theorem reference?_null : reference? .null = none := rfl

/-- The value itself, or what it refers to: one step, and no more. -/
def dereference (doc v : Value) : Except DescriptionError Value :=
  match v.reference? with
  | some ref => (Pointer.resolve doc ref).mapError .pointer
  | none => .ok v

/-- The value itself, or what it refers to if its pointer starts like a home. -/
def dereferenceFrom (home : String) (doc v : Value) : Except DescriptionError Value :=
  match v.reference? with
  | some ref => if ref.startsWith home then (Pointer.resolve doc ref).mapError .pointer else .ok v
  | none => .ok v

/-- Some values can be written out. -/
def ensureWritable (vs : List Value) : Except DescriptionError Unit :=
  if vs.all isWritable then .ok () else .error (.overlong .written)

/-- An integer can be read from so many digits. -/
def ensureReadable (digits : Nat) : Except DescriptionError Unit :=
  if digits ≤ digitLimit then .ok () else .error (.overlong (.read digits))

/-- The keys of a mapping; no other value has any. -/
def keys (v : Value) : List Value := v.entries.map fun e => .scalar e.1

end Value
end ServiceCatalog
