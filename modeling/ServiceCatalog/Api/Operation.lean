import ServiceCatalog.Api.Content
import ServiceCatalog.Api.Inputs
import ServiceCatalog.Api.Response
import ServiceCatalog.Naming.OperationName

/-!
# Operations

An operation is one method of one path.  Its inputs are those of the path, then its own, then its
body; its results and its errors are read from its responses.  When all inputs are known their list
is brought into the order of a signature, while the lists by location keep the order of the
document.

A body is filed as the body and nowhere else, although one that is sent as form fields says of
itself that it is form data.
-/

namespace ServiceCatalog

/-- One method of one path. -/
structure Operation extends Inputs where
  id : String
  name : String
  summary : Option String
  description : Option String
  deprecated : Bool
  method : String
  path : String
  errors : List ResponseError
  results : List Response
  responseHeader : Option String

/-- The body parameter of a body declaration.  A body that is sent as form fields is a form
parameter. -/
def requestBody (declaration : Value) (mediaTypes : List String := defaultMediaTypes) : Parameter :=
  let p : Parameter :=
    { location := .body
      prop := "body"
      name := "body"
      shape := .interface
      description := (declaration.field "description").nonemptyText?
      isRequired := (declaration.field "required").isTrue }
  match Content.select (declaration.field "content") mediaTypes with
  | none => p
  | some content =>
    let placed : Parameter :=
      if isFormMediaType content.mediaType then
        { p with
          location := .formData
          prop := "formData"
          toModel := { p.toModel with name := "formData" }
          mediaType := some content.mediaType }
      else { p with mediaType := some content.mediaType }
    match content.schema.reference? with
    | some ref => placed.refer (Schema.ofReference ref)
    | none => placed.adopt (Schema.resolve "" false content.schema)

namespace Operation

/-- The body parameter of a body declaration.  The media types of the body are written out for it,
and what the chosen schema needs written out. -/
def describedBody (declaration : Value) (mediaTypes : List String := defaultMediaTypes) :
    Except DescriptionError Parameter := do
  let content ← Content.choose (declaration.field "content") mediaTypes
  Value.ensureWritable (content.toList.flatMap fun c => Schema.written c.schema)
  return requestBody declaration mediaTypes

/-- The body that an operation declares.  Something vacant is no declaration. -/
def bodyOf (doc operation : Value) (settings : Settings) :
    Except DescriptionError (Option Parameter) :=
  let declaration := operation.field "requestBody"
  if declaration.isVacant then .ok none
  else do
    let v ← Value.dereference doc declaration
    (describedBody v settings.mediaTypes).map some

/-- An operation from its inputs and its responses, with what the mapping says of it besides. -/
def assemble (path method : String) (operation : Value) (inputs : Inputs)
    (responses : List Response) (settings : Settings) : Operation :=
  let results := Response.results responses
  let declaredId := (operation.field "operationId").text?
  { inputs with
    imports := inputs.imports ++ results.flatMap fun r => r.imports
    parameters := Parameter.mandatoryFirst inputs.parameters
    id := Naming.operationId path method declaredId
    name := Naming.operationName path method declaredId settings.reservedOperationNames
      settings.versionPlaceholder
    summary := (operation.field "summary").nonemptyText?
    description := (operation.field "description").nonemptyText?
    deprecated := (operation.field "deprecated").isTrue
    method := String.ofList (Text.upper method.toList)
    path := path
    errors := Response.errors responses
    results := results
    responseHeader := Response.header? results }

/-- The operation that a mapping describes, with the inputs of its path in front of its own. -/
def ofDeclaration (doc : Value) (path method : String) (operation : Value)
    (inherited : Inputs) (settings : Settings := {}) : Except DescriptionError Operation := do
  let own ← Inputs.declared doc settings (operation.field "parameters")
  let body ← bodyOf doc operation settings
  let responses ← Response.declared doc (operation.field "responses") settings.mediaTypes
  return assemble path method operation ((inherited.extend own).withBody? body) responses settings

end Operation
end ServiceCatalog
