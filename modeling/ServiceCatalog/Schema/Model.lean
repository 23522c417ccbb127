import ServiceCatalog.Document.Value

/-!
# Models

A model describes the type that generated code uses for one schema.  Three names say which type it
is: `type` is the whole of it, `base` the named part, and `template` the argument of a generic.  An
array and a dictionary are described by their element: they carry its three names, and `link` leads
to its model unless the element is a reference.

The imports of a model are the named types that its code has to import, in the order in which they
occur, repetitions included.
-/

namespace ServiceCatalog

/-- The forms a model can have. -/
inductive Shape where
  | reference
  | generic
  | enumeration
  | array
  | dictionary
  | interface
  | oneOf
  | anyOf
  | allOf
  deriving DecidableEq, Repr

/-- The name of a form in the result. -/
def Shape.name : Shape → String
  | .reference => "reference"
  | .generic => "generic"
  | .enumeration => "enum"
  | .array => "array"
  | .dictionary => "dictionary"
  | .interface => "interface"
  | .oneOf => "one-of"
  | .anyOf => "any-of"
  | .allOf => "all-of"

/-- A member of an enum: its name, and its value as a literal of generated code. -/
structure EnumMember where
  name : String
  literal : String
  isNumber : Bool
  deriving DecidableEq

/-- The constraints of a schema.  Each keyword is carried along as it stands in the document; a
missing one is null.  Only the pattern has to be a text. -/
structure Constraints where
  format : Value := .null
  maximum : Value := .null
  exclusiveMaximum : Value := .null
  minimum : Value := .null
  exclusiveMinimum : Value := .null
  multipleOf : Value := .null
  maxLength : Value := .null
  minLength : Value := .null
  maxItems : Value := .null
  minItems : Value := .null
  uniqueItems : Value := .null
  maxProperties : Value := .null
  minProperties : Value := .null
  pattern : Option String := none

/-- The description of a type for one schema. -/
structure Model where
  name : String := ""
  shape : Shape := .generic
  type : String := "any"
  base : String := "any"
  template : Option String := none
  link : Option Model := none
  description : Option String := none
  deprecated : Bool := false
  default : Value := .null
  isDefinition : Bool := false
  isReadOnly : Bool := false
  isRequired : Bool := false
  isNullable : Bool := false
  constraints : Constraints := {}
  imports : List String := []
  members : List EnumMember := []
  enums : List Model := []
  properties : List Model := []

namespace Model

instance : Inhabited Model := ⟨{}⟩

/-- What a model links to is smaller than the model. -/
theorem sizeOf_link_lt {m l : Model} (h : m.link = some l) : sizeOf l < sizeOf m := by
  cases m
  simp only at h
  subst h
  simp
  omega

/-- Two models have the same three names. -/
def sameNames (a b : Model) : Bool :=
  a.type = b.type && a.base = b.base && a.template = b.template

/-- Whether two models describe the same type: they have the same names level by level, and links of
the same length.  Their form, their properties and their constraints play no part. -/
def sameType (a b : Model) : Bool :=
  a.sameNames b &&
    match _ha : a.link, b.link with
    | none, none => true
    | some l, some r => sameType l r
    | _, _ => false
termination_by sizeOf a
decreasing_by exact sizeOf_link_lt ‹a.link = some l›

theorem sameType_of_links_eq_none {a b : Model} (ha : a.link = none) (hb : b.link = none) :
    a.sameType b = a.sameNames b := by
  rw [sameType]
  split <;> simp_all

theorem sameType_of_links_eq_some {a b l r : Model} (ha : a.link = some l)
    (hb : b.link = some r) : a.sameType b = (a.sameNames b && l.sameType r) := by
  rw [sameType]
  split <;> simp_all

theorem sameType_of_isSome_link_ne {a b : Model} (h : a.link.isSome ≠ b.link.isSome) :
    a.sameType b = false := by
  rw [sameType]
  split <;> simp_all

end Model
end ServiceCatalog
