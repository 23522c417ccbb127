import ServiceCatalog.Api.Operation
import ServiceCatalog.Json.Projection

/-!
# Services

A service collects the operations of one declared tag.  The paths are visited in the order of the
document, and the methods of a path in the order of the settings; the parameters of a path are read
once, and also when none of its operations carries the tag.

A path is a text.  Any other key is harmless as long as nothing on it carries the tag, and an error
otherwise, with one exception: bytes may encode a text, and are good enough for an operation that
declares an id, because its name is not made from the path then.
-/

namespace ServiceCatalog

/-- Why the services of a document cannot be listed. -/
inductive ExtractionError where
  /-- A part of the document is not described. -/
  | description (cause : DescriptionError)
  /-- An operation without an id stands on a path that is not a text. -/
  | unnamedPath (key : Scalar)
  /-- An operation with an id stands on a path that is not a text. -/
  | untypedPath (key : Scalar)
  deriving DecidableEq

/-- What is said about a path of which no name can be made. -/
def unnamedPathMessage (key : Scalar) : String :=
  match key with
  | .bytes _ => "cannot use a string pattern on a bytes-like object"
  | key =>
    let home := match key with
      | .date _ => "datetime."
      | .moment _ => "datetime."
      | _ => ""
    s!"expected string or bytes-like object, got '{home}{(Value.scalar key).kindName}'"

/-- What is said when the services of a document cannot be listed. -/
def ExtractionError.message : ExtractionError → String
  | .description cause => cause.message
  | .unnamedPath key => unnamedPathMessage key
  | .untypedPath _ => "an operation stands on a path that is not a text"

/-- The operations of one tag, and what they import. -/
structure Service where
  name : String
  description : Option String
  operations : List Operation := []
  imports : List String := []

namespace Service

/-- The name of a tag: the text under `name` of a mapping. -/
def tagName? (tag : Value) : Option String := (tag.field "name").text?

/-- An operation lists a tag. -/
def carries (operation : Value) (tag : String) : Bool :=
  match (operation.field "tags").items? with
  | some tags => tags.any fun t => t.text? = some tag
  | none => false

/-- The text of a path, given by its key, for an operation that declares an id or does not. -/
def pathOf (key : Scalar) (hasId : Bool) : Except ExtractionError String :=
  match key with
  | .text path => .ok path
  | .bytes bs =>
    if hasId then (decodeBytes bs).mapError fun _ => .untypedPath key
    else .error (.unnamedPath key)
  | _ => .error (if hasId then .untypedPath key else .unnamedPath key)

/-- The operation of a method on a path, given by its key. -/
def operationAt (doc : Value) (settings : Settings) (key : Scalar) (method : String)
    (operation : Value) (inherited : Inputs) : Except ExtractionError Operation := do
  let path ← pathOf key (operation.field "operationId").nonemptyText?.isSome
  (Operation.ofDeclaration doc path method operation inherited settings).mapError .description

/-- A service with one more operation. -/
def add (s : Service) (o : Operation) : Service :=
  { s with operations := s.operations ++ [o], imports := s.imports ++ o.imports }

/-- Adds the operation of a method, if it carries the tag of the service. -/
def visitMethod (doc : Value) (settings : Settings) (key : Scalar) (item : Value)
    (inherited : Inputs) (s : Service) (method : String) : Except ExtractionError Service :=
  let operation := item.field method
  if operation.isMapping && carries operation s.name then
    (operationAt doc settings key method operation inherited).map s.add
  else .ok s

/-- Adds the operations of a path that carry the tag of the service.  An empty path has none, and
neither has one that is no mapping. -/
def visitPath (doc : Value) (settings : Settings) (s : Service) (e : Scalar × Value) :
    Except ExtractionError Service :=
  if e.2.entries.isEmpty then .ok s
  else do
    let inherited ← (Inputs.declared doc settings (e.2.field "parameters")).mapError .description
    settings.methods.foldlM (visitMethod doc settings e.1 e.2 inherited) s

/-- The service of a tag. -/
def ofTag (doc tag : Value) (settings : Settings := {}) : Except ExtractionError Service :=
  (doc.field "paths").entries.foldlM (visitPath doc settings)
    { name := (tagName? tag).getD "", description := (tag.field "description").nonemptyText? }

/-- The services of tags; a tag without a name has none. -/
def ofTags (doc : Value) (settings : Settings) : List Value → Except ExtractionError (List Service)
  | [] => .ok []
  | tag :: tags =>
    if (tagName? tag).isSome then do
      let first ← ofTag doc tag settings
      let others ← ofTags doc settings tags
      return first :: others
    else ofTags doc settings tags

/-- The services of a document, in the order of its tags. -/
def ofDocument (doc : Value) (settings : Settings := {}) : Except ExtractionError (List Service) :=
  match (doc.field "tags").items? with
  | some tags => ofTags doc settings tags
  | none => .ok []

end Service
end ServiceCatalog
