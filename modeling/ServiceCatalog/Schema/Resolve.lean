import ServiceCatalog.Naming.TypeName
import ServiceCatalog.Schema.Form

/-!
# Models of schemas

`resolve` describes any value as a model, and never fails: what is not a mapping, or says nothing
that is understood, is a generic model of type `any`.  It writes out the values of enums and the
names of properties; `written` lists them, for whoever has to know that this can be done.

A reference is not looked up.  It is described by its name alone (`Model.ofReference`), which is
also the reason why the model of a schema does not depend on the document around it.  Everything
else follows `Form.of`: an array and a dictionary take the names of their element, a composition and
an interface collect the models of their parts, and an enum lists its members.
-/

namespace ServiceCatalog
namespace Schema

open Naming

/-- The model of a reference: the type named at the end of the pointer.  A name `Outer[Inner]` gives
a generic type and imports both names. -/
def ofReference (ref : String) : Model :=
  let name := Text.afterLast '/' ref.toList
  match generic? name with
  | some (outer, inner) =>
    let base := String.ofList (cleanTypeName outer)
    let template := String.ofList (cleanTypeName inner)
    { shape := .reference
      type := s!"{base}<{template}>"
      base := base
      template := some template
      imports := [base, template] }
  | none =>
    let base := String.ofList (cleanTypeName name)
    { shape := .reference, type := base, base := base, imports := [base] }

/-- A pattern inside a string literal: every backslash is doubled. -/
def escapePattern (pattern : String) : String :=
  String.ofList (pattern.toList.flatMap fun c => if c = '\\' then ['\\', '\\'] else [c])

/-- The default that a schema declares. -/
def defaultValue (schema : Value) : Value := schema.field "default"

/-- The constraints that a schema declares. -/
def constraints (schema : Value) : Constraints where
  format := schema.field "format"
  maximum := schema.field "maximum"
  exclusiveMaximum := schema.field "exclusiveMaximum"
  minimum := schema.field "minimum"
  exclusiveMinimum := schema.field "exclusiveMinimum"
  multipleOf := schema.field "multipleOf"
  maxLength := schema.field "maxLength"
  minLength := schema.field "minLength"
  maxItems := schema.field "maxItems"
  minItems := schema.field "minItems"
  uniqueItems := schema.field "uniqueItems"
  maxProperties := schema.field "maxProperties"
  minProperties := schema.field "minProperties"
  pattern := (schema.field "pattern").text?.map escapePattern

/-- What the model of a schema has whatever its form. -/
def outline (name : String) (isDefinition : Bool) (schema : Value) : Model where
  name := name
  isDefinition := isDefinition
  description := (schema.field "description").text?
  deprecated := (schema.field "deprecated").isTrue
  default := defaultValue schema
  isReadOnly := (schema.field "readOnly").isTrue
  isNullable := (effectiveType schema).2
  constraints := constraints schema

/-- The type of a primitive. -/
def primitiveType (kind : Option String) (format : Value) : String :=
  match kind with
  | some "string" => if format.text? = some "binary" then "binary" else "string"
  | some "integer" => "number"
  | some "number" => "number"
  | some "boolean" => "boolean"
  | some "null" => "null"
  | some "file" => "binary"
  | _ => "any"

/-- A value is a number, and not a truth value. -/
def isNumber : Value → Bool
  | .scalar (.int _) => true
  | .scalar (.float _) => true
  | _ => false

/-- The member of an enum for a value. -/
def enumMember (v : Value) : EnumMember :=
  if isNumber v then
    { name := String.ofList (enumNumberName v.plain), literal := v.plainText, isNumber := true }
  else
    { name := String.ofList (enumMemberName v.plain)
      literal := String.ofList (enumTextLiteral v.plain)
      isNumber := false }

/-- The names of the properties that an object requires. -/
def requiredNames (schema : Value) : List String :=
  match (schema.field "required").items? with
  | some names => names.filterMap Value.text?
  | none => []

/-- A key is among the names that an object requires. -/
def isRequiredKey (required : List String) : Scalar → Bool
  | .text s => required.contains s
  | _ => false

/-! ## Completing an outline -/

/-- An enum of some values.  A null among them makes it nullable and has no member; if all others
are numbers, the enum is one of numbers. -/
def asEnum (m : Model) (values : List Value) : Model :=
  let present := values.filter fun v => !v.isNull
  let type := if present.all isNumber then "number" else "string"
  { m with
    shape := .enumeration
    type := type
    base := type
    isNullable := m.isNullable || values.any Value.isNull
    members := m.members ++ present.map enumMember }

/-- An array or a dictionary of a named type. -/
def asContainerOfReference (m : Model) (shape : Shape) (ref : String) : Model :=
  let element := ofReference ref
  { m with
    shape := shape
    type := element.type
    base := element.base
    template := element.template
    imports := m.imports ++ element.imports }

/-- An array or a dictionary of what a model describes. -/
def asContainer (m : Model) (shape : Shape) (element : Model) : Model :=
  { m with
    shape := shape
    type := element.type
    base := element.base
    template := element.template
    link := some element
    imports := m.imports ++ element.imports }

/-- A composition of models. -/
def asComposition (m : Model) (shape : Shape) (members : List Model) : Model :=
  { m with
    shape := shape
    imports := m.imports ++ members.flatMap Model.imports
    properties := m.properties ++ members }

/-- An interface with properties; those that are enums are listed again. -/
def asInterface (m : Model) (properties : List Model) : Model :=
  { m with
    shape := .interface
    imports := m.imports ++ properties.flatMap Model.imports
    properties := m.properties ++ properties
    enums := m.enums ++ properties.filter fun p => p.shape = .enumeration }

/-- A primitive. -/
def asPrimitive (m : Model) (type : String) : Model :=
  { m with shape := .generic, type := type, base := type }

/-! ## The model of a value -/

/-- The model of a value as a schema. -/
def resolve (name : String) (isDefinition : Bool) (schema : Value) : Model :=
  match _hs : schema.entries? with
  | some es =>
    match schema.reference? with
    | some ref => { ofReference ref with name := name, isDefinition := isDefinition }
    | none =>
      let m := outline name isDefinition schema
      match _h : Form.of es with
      | .enumeration values => asEnum m values
      | .array none => asContainer m .array { name := name }
      | .array (some element) =>
        match element.reference? with
        | some ref => asContainerOfReference m .array ref
        | none => asContainer m .array (resolve name false element)
      | .dictionary element =>
        match element.reference? with
        | some ref => asContainerOfReference m .dictionary ref
        | none => asContainer m .dictionary (resolve name false element)
      | .composition shape members =>
        asComposition m shape (members.attach.map fun v => resolve name false v.1)
      | .interface properties =>
        let required := requiredNames schema
        asInterface m (properties.attach.map fun p =>
          { resolve p.1.1.plainText false p.1.2 with isRequired := isRequiredKey required p.1.1 })
      | .primitive =>
        asPrimitive m (primitiveType (effectiveType schema).1 (schema.field "format"))
  | none => { name := name, isDefinition := isDefinition }
termination_by sizeOf schema
decreasing_by
  all_goals
    refine Nat.lt_trans (Form.sizeOf_lt_of_mem_parts ?_) (Value.sizeOf_entries?_lt _hs)
    rw [_h]
  · simp [Form.parts]
  · simp [Form.parts]
  · exact v.2
  · exact List.mem_map.2 ⟨p.1, p.2, rfl⟩

/-- The values that are written out for the model of a schema. -/
@[semireducible]
def written (schema : Value) : List Value :=
  match _hs : schema.entries? with
  | some es =>
    if schema.reference?.isSome then []
    else (Form.of es).written ++ (Form.of es).parts.attach.flatMap fun v => written v.1
  | none => []
termination_by sizeOf schema
decreasing_by
  exact Nat.lt_trans (Form.sizeOf_lt_of_mem_parts v.2) (Value.sizeOf_entries?_lt _hs)

/-- The model of an element: by its name if it is a reference, and linked to otherwise. -/
def contain (m : Model) (shape : Shape) (element : Value) : Model :=
  match element.reference? with
  | some ref => asContainerOfReference m shape ref
  | none => asContainer m shape (resolve m.name false element)

/-- A property of an interface. -/
def property (required : List String) (p : Scalar × Value) : Model :=
  { resolve p.1.plainText false p.2 with isRequired := isRequiredKey required p.1 }

/-- The outline of a schema, completed as its form says. -/
def complete (m : Model) (schema : Value) : Form → Model
  | .enumeration values => asEnum m values
  | .array element => contain m .array (element.getD .null)
  | .dictionary element => contain m .dictionary element
  | .composition shape members => asComposition m shape (members.map (resolve m.name false))
  | .interface properties => asInterface m (properties.map (property (requiredNames schema)))
  | .primitive =>
    asPrimitive m (primitiveType (effectiveType schema).1 (schema.field "format"))

theorem resolve_of_not_mapping {name : String} {isDefinition : Bool} {schema : Value}
    (h : schema.isMapping = false) :
    resolve name isDefinition schema = { name := name, isDefinition := isDefinition } := by
  rw [resolve]
  split
  · rename_i hs
    simp [Value.isMapping, hs] at h
  · rfl

theorem resolve_of_reference {name ref : String} {isDefinition : Bool} {schema : Value}
    (h : schema.reference? = some ref) :
    resolve name isDefinition schema =
      { ofReference ref with name := name, isDefinition := isDefinition } := by
  rw [resolve]
  split
  · simp [h]
  · rename_i hs
    simp [Value.reference?, Value.field, Value.field?, Value.entries, hs, Value.text?] at h

/-- A schema that is no reference is its outline, completed as its form says. -/
theorem resolve_of_not_reference {name : String} {isDefinition : Bool} {schema : Value}
    {es : Entries} (hs : schema.entries? = some es) (h : schema.reference? = none) :
    resolve name isDefinition schema =
      complete (outline name isDefinition schema) schema (Form.of es) := by
  rw [resolve]
  split
  · rename_i es' hs'
    cases hs.symm.trans hs'
    simp only [h]
    split <;> rename_i hf <;> simp only [hf, complete]
    · rw [Option.getD_none, contain, Value.reference?_null, resolve_of_not_mapping rfl]
      rfl
    · simp [contain, outline]
    · simp [contain, outline]
    · simp [outline]
    · congr 1
      exact List.attach_map_val (f := property (requiredNames schema))
  · rename_i hs'
    simp [hs] at hs'

end Schema
end ServiceCatalog
