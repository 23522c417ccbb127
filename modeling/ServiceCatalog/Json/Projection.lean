import ServiceCatalog.Json.Writer
import ServiceCatalog.Text.Halves

/-!
# Documents as JSON

A document may hold what JSON cannot: dates, bytes, infinities, pairs, sets, and keys that are not
texts.  In the printed result a date becomes its ISO text, bytes become the text they encode, a
number that is not finite becomes null, a pair or a set becomes an array, and a key becomes a text.
Two keys may become the same text; then the first keeps its place and the last gives the value.

There are four obstacles (`Unwritable`): bytes that encode no text, a value that stands inside of
itself, an integer beyond the limit, and half of a pair of code units in a key.  Such an integer is
in the way as a key at once, but as a value only when the JSON is written (`Json.ensureWritable`);
and a text that is no key may hold halves, which matter when the written text is encoded.
-/

namespace ServiceCatalog

/-- Why a document cannot be written as JSON. -/
inductive Unwritable where
  /-- Bytes are not the encoding of a text. -/
  | undecodable (bytes : List UInt8)
  /-- A value stands inside of itself. -/
  | circular
  /-- An integer has too many digits. -/
  | overlong
  /-- A key cannot be encoded. -/
  | unencodable (cause : Text.Unencodable)
  deriving DecidableEq

/-- The number of bytes up to the first that continues no text.  The bytes bound the number of
rounds, since every round takes one of them off. -/
def decodableLength : (bound : List UInt8) → List UInt8 → Nat
  | [], _ => 0
  | _ :: bound, bs =>
    match [1, 2, 3, 4].find? fun k =>
      k ≤ bs.length && (String.fromUTF8? ⟨(bs.take k).toArray⟩).isSome with
    | some k => k + decodableLength bound (bs.drop k)
    | none => 0

/-- What is said about a document that cannot be written as JSON. -/
def Unwritable.message : Unwritable → String
  | .undecodable bytes =>
    let place := decodableLength bytes bytes
    let byte := String.ofList (Text.hexDigits 2 ((bytes[place]?.getD 0).toNat))
    s!"'utf-8' codec can't decode byte 0x{byte} in position {place}: invalid utf-8"
  | .circular => "Circular reference detected (id repeated)"
  | .overlong => Overlong.written.message
  | .unencodable cause => cause.message

/-- The text that bytes encode. -/
def decodeBytes (bs : List UInt8) : Except Unwritable String :=
  match String.fromUTF8? ⟨bs.toArray⟩ with
  | some s => .ok (String.ofList (Text.spelling s.toList))
  | none => .error (.undecodable bs)

namespace Scalar

/-- A scalar as a key of a JSON object. -/
def asJsonKey : Scalar → Except Unwritable String
  | .bool b => .ok (if b then "true" else "false")
  | .float x => .ok (if x.isFinite then (Scalar.float x).plainText else Scalar.null.plainText)
  | .moment m => .ok (String.ofList m.iso)
  | .bytes bs => decodeBytes bs
  | .int n => if isShortInt n then .ok (Scalar.int n).plainText else .error .overlong
  | .text s =>
    match Text.unencodable? s with
    | none => .ok s
    | some cause => .error (.unencodable cause)
  | s => .ok s.plainText

/-- A scalar as a JSON value. -/
def asJson : Scalar → Except Unwritable Json
  | .null => .ok .null
  | .bool b => .ok (.bool b)
  | .int n => .ok (.int n)
  | .float x => .ok (if x.isFinite then .float x else .null)
  | .text s => .ok (.text s)
  | .date d => .ok (.text (String.ofList d.iso))
  | .moment m => .ok (.text (String.ofList m.iso))
  | .bytes bs => (decodeBytes bs).map Json.text

end Scalar

namespace Value

mutual

/-- A document inside of some marked values as a JSON value. -/
def asJsonWithin (around : List Nat) : Value → Except Unwritable Json
  | .scalar s => s.asJson
  | .list items => (itemsAsJson around items).map Json.array
  | .mapping es => (entriesAsJson around es).map fun ms => .object (Json.distinct ms)
  | .pair first second => do
    let j ← asJsonWithin around first
    let k ← asJsonWithin around second
    return .array [j, k]
  | .set members => (members.mapM Scalar.asJson).map Json.array
  | .knot place v =>
    if place ∈ around then .error .circular else asJsonWithin (place :: around) v

/-- The items of a list as JSON values. -/
def itemsAsJson (around : List Nat) : List Value → Except Unwritable (List Json)
  | [] => .ok []
  | v :: vs => do
    let j ← asJsonWithin around v
    let js ← itemsAsJson around vs
    return j :: js

/-- The entries of a mapping as members of an object. -/
def entriesAsJson (around : List Nat) :
    List (Scalar × Value) → Except Unwritable (List (String × Json))
  | [] => .ok []
  | (k, v) :: es => do
    let name ← k.asJsonKey
    let j ← asJsonWithin around v
    let ms ← entriesAsJson around es
    return (name, j) :: ms

end

/-- A document as a JSON value. -/
def asJson (v : Value) : Except Unwritable Json := v.asJsonWithin []

end Value

namespace Json

/-- A JSON value that can be written. -/
def ensureWritable (j : Json) : Except Unwritable Json :=
  if j.isShort then .ok j else .error .overlong

theorem eq_of_ensureWritable {j k : Json} (h : j.ensureWritable = .ok k) : k = j := by
  unfold ensureWritable at h
  split at h
  · exact (Except.ok.inj h).symm
  · cases h

end Json
end ServiceCatalog
