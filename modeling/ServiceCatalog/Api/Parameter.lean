import ServiceCatalog.Api.Settings
import ServiceCatalog.Naming.ParameterName
import ServiceCatalog.Schema.Assignment
import ServiceCatalog.Schema.Resolve

/-!
# Parameters

A parameter is a model that knows where it is sent and what it is called there.  `prop` is the name
in the document, which goes over the wire, and the name of the model is its identifier in a
generated signature.

## From a declaration to a parameter

A declaration without a known location is no parameter, and is passed over without a word.  Its
schema is a type by name if it is a reference, and is resolved otherwise.  One kind of reference is
looked up first: one into the declared parameters themselves, because what stands there is no type.
Its name is written out before that, and what its schema has to have written out behind it.

## The order of a signature

A generated signature lists what a caller has to supply before what may be left out, and keeps the
order of the declarations otherwise.
-/

namespace ServiceCatalog

/-- Where a parameter is sent. -/
inductive Location where
  | path
  | query
  | header
  | cookie
  | formData
  | body
  deriving DecidableEq, Repr

namespace Location

/-- The name of a location in documents and in the result. -/
def name : Location → String
  | .path => "path"
  | .query => "query"
  | .header => "header"
  | .cookie => "cookie"
  | .formData => "formData"
  | .body => "body"

/-- All locations. -/
def all : List Location := [.path, .query, .header, .cookie, .formData, .body]

/-- The location that a value names. -/
def ofValue? (v : Value) : Option Location :=
  v.text?.bind fun s => all.find? fun l => l.name = s

end Location

/-- One input of an operation. -/
structure Parameter extends Model where
  location : Location
  prop : String
  mediaType : Option String := none

namespace Parameter

/-- Makes a parameter a handle on the named type that a reference describes. -/
def refer (p : Parameter) (reference : Model) : Parameter :=
  { p with toModel := p.toModel.refer reference }

/-- Gives a parameter the type of a model. -/
def adopt (p : Parameter) (m : Model) (merge : Bool := true) : Parameter :=
  { p with toModel := p.toModel.adopt m merge }

/-- Gives a parameter a default. -/
def withDefault (p : Parameter) (v : Value) : Parameter :=
  { p with toModel := { p.toModel with default := v } }

@[simp] theorem location_refer (p : Parameter) (reference : Model) :
    (p.refer reference).location = p.location := rfl

@[simp] theorem mediaType_refer (p : Parameter) (reference : Model) :
    (p.refer reference).mediaType = p.mediaType := rfl

@[simp] theorem location_adopt (p : Parameter) (m : Model) (merge : Bool) :
    (p.adopt m merge).location = p.location := rfl

@[simp] theorem mediaType_adopt (p : Parameter) (m : Model) (merge : Bool) :
    (p.adopt m merge).mediaType = p.mediaType := rfl

@[simp] theorem mediaType_withDefault (p : Parameter) (v : Value) :
    (p.withDefault v).mediaType = p.mediaType := rfl

/-- References that start like this lead to declared parameters. -/
def declaredHome : String := "#/components/parameters/"

/-- The schema of a declaration, looked up if it is a reference to a declared parameter. -/
def schemaOf (doc declaration : Value) : Except DescriptionError Value :=
  Value.dereferenceFrom declaredHome doc (declaration.field "schema")

/-- What a parameter is before its schema is looked at. -/
def outline (location : Location) (declaration : Value) (reserved : List String) : Parameter :=
  let prop := ((declaration.field? "name").map Value.plainText).getD ""
  { location := location
    prop := prop
    name := Naming.parameterName prop reserved
    shape := .interface
    description := (declaration.field "description").nonemptyText?
    deprecated := (declaration.field "deprecated").isTrue
    isRequired := (declaration.field "required").isTrue }

/-- Gives a parameter the type and the default of a schema; what is no mapping says nothing. -/
def withSchema (p : Parameter) (schema : Value) : Parameter :=
  match schema.reference? with
  | some ref => (p.refer (Schema.ofReference ref)).withDefault (Schema.defaultValue schema)
  | none =>
    if schema.isMapping then
      let m := Schema.resolve "" false schema
      (p.adopt m).withDefault m.default
    else p

/-- The parameter that a declaration describes, if it names a known location. -/
def ofDeclaration? (doc declaration : Value)
    (reserved : List String := Naming.reservedParameterNames) :
    Except DescriptionError (Option Parameter) :=
  match Location.ofValue? (declaration.field "in") with
  | none => .ok none
  | some location => do
    Value.ensureWritable (declaration.field? "name").toList
    let schema ← schemaOf doc declaration
    Value.ensureWritable (Schema.written schema)
    return some ((outline location declaration reserved).withSchema schema)

/-- A caller has to supply the parameter. -/
def isMandatory (p : Parameter) : Bool := p.isRequired && p.default.isNull

/-- The place of a parameter in a signature: what a caller has to supply comes first. -/
def rank (p : Parameter) : Nat := if p.isMandatory then 0 else 1

/-- Parameters in the order of a signature: by rank, and in their old order otherwise. -/
def mandatoryFirst (ps : List Parameter) : List Parameter :=
  ps.mergeSort fun a b => a.rank ≤ b.rank

end Parameter
end ServiceCatalog
