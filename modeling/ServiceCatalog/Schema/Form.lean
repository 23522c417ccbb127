import ServiceCatalog.Document.Pointer
import ServiceCatalog.Schema.Model

/-!
# What a schema is about

A schema is a mapping of keywords, and several of them may say what it describes.  This module
settles which of them wins, apart from all that follows from it: `effectiveType` reads the type, and
`Form.of` reads the form, with the parts that have to be looked into.

## Two spellings of "or null"

A type may be one name next to `nullable: true`, or a list of names that includes `null`.  Both give
the same name and the same answer to whether null is allowed.

## Which keyword wins

An enum, unless the schema is an array; then an array; then a dictionary, which is an object with a
schema for its values and no declared properties; then the first non-empty of `oneOf`, `anyOf` and
`allOf`; then declared properties.  What is left is a primitive.
-/

namespace ServiceCatalog
namespace Schema

/-- The name of the type when none is given: properties make an object, and items an array. -/
def impliedType (schema : Value) : Option String :=
  if schema.has "properties" then some "object"
  else if schema.has "items" then some "array"
  else none

/-- The type of a schema, and whether it allows null.  Of a list of names the first that is not
`null` counts. -/
def effectiveType (schema : Value) : Option String × Bool :=
  let nullable := (schema.field "nullable").isTrue
  let type := schema.field "type"
  match type.text?, type.items? with
  | some s, _ => (some s, nullable)
  | none, some names =>
    let others := names.filter fun n => n.text? ≠ some "null"
    let nullable := nullable || others.length < names.length
    match others, names with
    | n :: _, _ => (n.text?.or (impliedType schema), nullable)
    | [], _ :: _ => (some "null", nullable)
    | [], [] => (impliedType schema, nullable)
  | none, none => (impliedType schema, nullable)

/-- What a schema describes, with the parts that describe the rest. -/
inductive Form where
  | enumeration (values : List Value)
  | array (element : Option Value)
  | dictionary (element : Value)
  | composition (shape : Shape) (members : List Value)
  | interface (properties : Entries)
  | primitive

/-- The items of a list that is not empty. -/
def nonemptyItems? (v : Option Value) : Option (List Value) :=
  match v.bind Value.items? with
  | some (v :: vs) => some (v :: vs)
  | _ => none

/-- The values of an enum: a list that is not empty, on anything but an array. -/
def enumValues? (kind : Option String) (es : Entries) : Option (List Value) :=
  if kind = some "array" then none else nonemptyItems? (es.get? "enum")

/-- The schema of the values of a dictionary: an object without declared properties. -/
def dictionaryElement? (kind : Option String) (es : Entries) : Option Value :=
  match es.get? "additionalProperties" with
  | some additional =>
    if additional.isMapping ∧ kind = some "object" ∧ (es.get? "properties").isNone then
      some additional
    else none
  | none => none

/-- The members of a composition. -/
def composition? (es : Entries) : Option (Shape × List Value) :=
  match nonemptyItems? (es.get? "oneOf") with
  | some vs => some (.oneOf, vs)
  | none =>
    match nonemptyItems? (es.get? "anyOf") with
    | some vs => some (.anyOf, vs)
    | none =>
      match nonemptyItems? (es.get? "allOf") with
      | some vs => some (.allOf, vs)
      | none => none

/-- The declared properties of an object. -/
def properties? (kind : Option String) (es : Entries) : Option Entries :=
  match (es.get? "properties").bind Value.entries? with
  | some properties => if kind = some "object" then some properties else none
  | none => none

/-- The form of a schema that is not a reference. -/
def Form.of (es : Entries) : Form :=
  let kind := (effectiveType (.mapping es)).1
  match enumValues? kind es with
  | some values => .enumeration values
  | none =>
    if kind = some "array" then .array (es.get? "items")
    else match dictionaryElement? kind es with
      | some element => .dictionary element
      | none =>
        match composition? es with
        | some (shape, members) => .composition shape members
        | none =>
          match properties? kind es with
          | some properties => .interface properties
          | none => .primitive

/-! ## The parts of a form are smaller than the schema -/

/-- The schemas inside a form. -/
def Form.parts : Form → List Value
  | .array element => element.toList
  | .dictionary element => [element]
  | .composition _ members => members
  | .interface properties => properties.map Prod.snd
  | _ => []

/-- The values that are written out for a form itself: those of an enum, except null, and the names
of properties. -/
def Form.written : Form → List Value
  | .enumeration values => values.filter fun v => !v.isNull
  | .interface properties => properties.map fun p => .scalar p.1
  | _ => []

/-- What stands in a mapping under some key. -/
def Within (v : Value) (es : Entries) : Prop :=
  ∃ name w, es.get? name = some w ∧ sizeOf v ≤ sizeOf w

theorem Within.sizeOf_lt {v : Value} {es : Entries} (h : Within v es) : sizeOf v < sizeOf es := by
  obtain ⟨name, w, hw, hv⟩ := h
  exact Nat.lt_of_le_of_lt hv (Entries.sizeOf_get?_lt hw)

theorem within_of_nonemptyItems? {es : Entries} {name : String} {vs : List Value} {v : Value}
    (h : nonemptyItems? (es.get? name) = some vs) (hv : v ∈ vs) : Within v es := by
  unfold nonemptyItems? at h
  split at h
  · rename_i w ws hw
    cases h
    obtain ⟨u, hu, hi⟩ := Option.bind_eq_some_iff.1 hw
    have h₁ := List.sizeOf_lt_of_mem hv
    have h₂ := Value.sizeOf_items?_lt hi
    exact ⟨name, u, hu, by omega⟩
  · cases h

theorem within_of_dictionaryElement? {kind : Option String} {es : Entries} {v : Value}
    (h : dictionaryElement? kind es = some v) : Within v es := by
  unfold dictionaryElement? at h
  split at h
  · rename_i additional ha
    split at h
    · cases h
      exact ⟨_, _, ha, Nat.le_refl _⟩
    · cases h
  · cases h

theorem within_of_composition? {es : Entries} {shape : Shape} {vs : List Value} {v : Value}
    (h : composition? es = some (shape, vs)) (hv : v ∈ vs) : Within v es := by
  unfold composition? at h
  split at h
  · cases h
    exact within_of_nonemptyItems? ‹_› hv
  · split at h
    · cases h
      exact within_of_nonemptyItems? ‹_› hv
    · split at h
      · cases h
        exact within_of_nonemptyItems? ‹_› hv
      · cases h

theorem within_of_properties? {kind : Option String} {es ps : Entries} {v : Value}
    (h : properties? kind es = some ps) (hv : v ∈ ps.map Prod.snd) : Within v es := by
  unfold properties? at h
  split at h
  · rename_i declared hd
    split at h
    · cases h
      obtain ⟨w, hw, hi⟩ := Option.bind_eq_some_iff.1 hd
      obtain ⟨e, he, rfl⟩ := List.mem_map.1 hv
      have h₁ := List.sizeOf_lt_of_mem he
      have h₂ : sizeOf e.2 < sizeOf e := by
        cases e
        simp only [Prod.mk.sizeOf_spec]
        omega
      have h₃ := Value.sizeOf_entries?_lt hi
      exact ⟨_, w, hw, by omega⟩
    · cases h
  · cases h

/-- Every schema inside the form of a schema stands in it. -/
theorem Form.within_of_mem_parts {es : Entries} {v : Value} (h : v ∈ (Form.of es).parts) :
    Within v es := by
  unfold Form.of at h
  simp only at h
  split at h
  · simp [parts] at h
  · split at h
    · simp only [parts, Option.mem_toList] at h
      exact ⟨_, _, h, Nat.le_refl _⟩
    · split at h
      · simp only [parts, List.mem_singleton] at h
        subst h
        exact within_of_dictionaryElement? ‹_›
      · split at h
        · exact within_of_composition? ‹_› h
        · split at h
          · exact within_of_properties? ‹_› h
          · simp [parts] at h

theorem Form.sizeOf_lt_of_mem_parts {es : Entries} {v : Value} (h : v ∈ (Form.of es).parts) :
    sizeOf v < sizeOf es :=
  (within_of_mem_parts h).sizeOf_lt

end Schema
end ServiceCatalog
