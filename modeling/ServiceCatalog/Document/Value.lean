import ServiceCatalog.Document.Moment
import ServiceCatalog.Number.Double

/-!
# Documents as trees

An interface description is a tree of mappings, lists and scalars, and most of it may be anything:
only what the library looks for has a type, and everything else is carried along.  So there is one
dynamic type, `Value`, and every reading of it is a total function with a default.

## Keys

A document written by hand has keys that are not texts: a status code `200:` is an integer, and
`yes:` is a truth value.  Keys are therefore scalars, and a mapping is a list of entries in the
order in which they were written.  Two scalars are *the same key* when they are equal as numbers, so
that `1`, `1.0` and `true` are one key; of two entries with the same key the first one keeps its
place and its spelling, and the last one gives the value.

## Values that hold themselves

A list or a mapping may be written so that it stands inside of itself.  Such a value is unrolled
some rounds deep, and every list and every mapping in it is marked by a number that tells it from
all others (`Value.knot`).  The mark matters only where a value is written out as a whole;
everything else looks behind it.
-/

namespace ServiceCatalog

/-- A value without parts.  Bytes are what a document holds in base sixty-four. -/
inductive Scalar where
  | null
  | bool (b : Bool)
  | int (n : Int)
  | float (x : Double)
  | text (s : String)
  | date (d : Date)
  | moment (m : Moment)
  | bytes (bs : List UInt8)
  deriving DecidableEq

/-- A document, or a part of one.  Pairs and sets only come from where they are asked for. -/
inductive Value where
  | scalar (s : Scalar)
  | list (items : List Value)
  | mapping (entries : List (Scalar × Value))
  | pair (first second : Value)
  | set (members : List Scalar)
  /-- A value that may stand inside of itself, and the number that tells it from others. -/
  | knot (place : Nat) (v : Value)

/-- The entries of a mapping, in order. -/
abbrev Entries : Type := List (Scalar × Value)

namespace Scalar

/-- The representative of a scalar as a key: numbers that are equal have the same one. -/
def asKey : Scalar → Scalar
  | .bool b => .int (if b then 1 else 0)
  | .float x =>
    match x.toInt? with
    | some n => .int n
    | none => .float x
  | s => s

/-- Whether two scalars are the same key.  Moments are if they are the same point in time, or the
same reading of a clock. -/
def sameKey (a b : Scalar) : Bool :=
  match a, b with
  | .moment m, .moment n => m.instant = n.instant
  | a, b => a.asKey = b.asKey

end Scalar

namespace Entries

/-- The value of the first entry with a textual key. -/
def get? (name : String) : Entries → Option Value
  | [] => none
  | (k, v) :: es => if k = .text name then some v else get? name es

@[simp] theorem get?_nil (name : String) : get? name [] = none := rfl

theorem sizeOf_get?_lt {name : String} {es : Entries} {v : Value} (h : get? name es = some v) :
    sizeOf v < sizeOf es := by
  induction es with
  | nil => simp at h
  | cons e es ih =>
    obtain ⟨k, w⟩ := e
    simp only [get?] at h
    split at h
    · cases h
      simp
      omega
    · have := ih h
      simp
      omega

end Entries

namespace Value

/-- The value of nothing. -/
@[match_pattern] abbrev null : Value := .scalar .null

/-- A text as a document. -/
@[match_pattern] abbrev text (s : String) : Value := .scalar (.text s)

/-- A truth value as a document. -/
@[match_pattern] abbrev bool (b : Bool) : Value := .scalar (.bool b)

instance : Inhabited Value := ⟨null⟩

/-- The empty mapping. -/
def empty : Value := .mapping []

/-- The entries of a mapping, if the value is one. -/
def entries? : Value → Option Entries
  | .mapping es => some es
  | .knot _ v => v.entries?
  | _ => none

/-- The items of a list, if the value is one. -/
def items? : Value → Option (List Value)
  | .list items => some items
  | .knot _ v => v.items?
  | _ => none

/-- The entries of a mapping; no other value has any. -/
def entries (v : Value) : Entries := v.entries?.getD []

/-- The value under a textual key of a mapping, if there is one. -/
def field? (v : Value) (name : String) : Option Value := Entries.get? name v.entries

/-- The value under a textual key of a mapping; a missing one counts as null. -/
def field (v : Value) (name : String) : Value := (v.field? name).getD null

/-- A mapping has an entry under a textual key. -/
def has (v : Value) (name : String) : Bool := (v.field? name).isSome

/-- The text that a value is. -/
def text? : Value → Option String
  | .text s => some s
  | _ => none

/-- The text that a value is, if it is not the empty one. -/
def nonemptyText? : Value → Option String
  | .text s => if s = "" then none else some s
  | _ => none

/-- The value is the truth value `true`, and not merely something like it. -/
def isTrue : Value → Bool
  | .bool b => b
  | _ => false

/-- The value is a mapping. -/
def isMapping (v : Value) : Bool := v.entries?.isSome

/-- The value is null. -/
def isNull : Value → Bool
  | .null => true
  | _ => false

/-- The value is null, false, zero or empty: what stands there says nothing. -/
def isVacant : Value → Bool
  | .scalar .null => true
  | .scalar (.bool b) => !b
  | .scalar (.int n) => n = 0
  | .scalar (.float x) => x.toInt? = some 0
  | .scalar (.text s) => s = ""
  | .scalar (.date _) => false
  | .scalar (.moment _) => false
  | .scalar (.bytes bs) => bs.isEmpty
  | .list items => items.isEmpty
  | .mapping es => es.isEmpty
  | .pair _ _ => false
  | .set members => members.isEmpty
  | .knot _ v => v.isVacant

@[simp] theorem entries_mapping (es : Entries) : (Value.mapping es).entries = es := rfl

@[simp] theorem entries?_mapping (es : Entries) : (Value.mapping es).entries? = some es := rfl

@[simp] theorem items?_list (items : List Value) : (Value.list items).items? = some items := rfl

@[simp] theorem field?_mapping (es : Entries) (name : String) :
    (Value.mapping es).field? name = es.get? name := rfl

@[simp] theorem field_null (name : String) : null.field name = null := rfl

theorem nonemptyText?_ne_empty (v : Value) : v.nonemptyText? ≠ some "" := by
  unfold nonemptyText?
  split
  · split <;> simp_all
  · simp

/-- A mapping is larger than its entries. -/
theorem sizeOf_entries?_lt {v : Value} {es : Entries} (h : v.entries? = some es) :
    sizeOf es < sizeOf v := by
  induction v using entries?.induct with
  | case1 es' =>
    cases h
    simp
  | case2 place v ih =>
    have := ih h
    simp
    omega
  | case3 v hm hk =>
    cases v <;> simp_all [entries?]

/-- A list is larger than its items. -/
theorem sizeOf_items?_lt {v : Value} {items : List Value} (h : v.items? = some items) :
    sizeOf items < sizeOf v := by
  induction v using items?.induct with
  | case1 items' =>
    cases h
    simp
  | case2 place v ih =>
    have := ih h
    simp
    omega
  | case3 v hl hk =>
    cases v <;> simp_all [items?]

end Value
end ServiceCatalog
