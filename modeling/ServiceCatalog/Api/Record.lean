import ServiceCatalog.Api.Service
import ServiceCatalog.Schema.Record

/-!
# Services as JSON records

The printed form of what was extracted.  The names and the order of the fields are those on which
templates rely.
-/

namespace ServiceCatalog

/-- The record of a chosen content. -/
def Content.record (c : Content) : Except Unwritable Json := do
  let schema ← c.schema.asJson
  return .object [("mediaType", .text c.mediaType), ("schema", schema)]

/-- The record of a parameter. -/
def Parameter.record (p : Parameter) : Except Unwritable Json := do
  let fields ← p.toModel.fields
  return .object (fields ++
    [("in", .text p.location.name), ("prop", .text p.prop),
      ("mediaType", Json.ofText? p.mediaType)])

/-- The record of a response. -/
def Response.record (r : Response) : Except Unwritable Json := do
  let fields ← r.toModel.fields
  return .object (fields ++ [("in", .text r.source.name), ("code", .int r.code)])

/-- The record of an error. -/
def ResponseError.record (e : ResponseError) : Json :=
  .object [("code", .int e.code), ("description", .text e.description)]

/-- The records of parameters. -/
def Parameter.records (ps : List Parameter) : Except Unwritable Json :=
  (ps.mapM Parameter.record).map Json.array

/-- The records of responses. -/
def Response.records (rs : List Response) : Except Unwritable Json :=
  (rs.mapM Response.record).map Json.array

/-- The fields that say what inputs are: the imports, the list of all, the lists by location, and
the body. -/
def Inputs.fields (i : Inputs) : Except Unwritable (List (String × Json)) := do
  return [
    ("imports", .array (i.imports.map .text)),
    ("parameters", ← Parameter.records i.parameters),
    ("parametersPath", ← Parameter.records i.pathParameters),
    ("parametersQuery", ← Parameter.records i.queryParameters),
    ("parametersForm", ← Parameter.records i.formParameters),
    ("parametersCookie", ← Parameter.records i.cookieParameters),
    ("parametersHeader", ← Parameter.records i.headerParameters),
    ("parametersBody", ← match i.body with
      | none => pure .null
      | some p => p.record)]

/-- The record of inputs without an operation. -/
def Inputs.record (i : Inputs) : Except Unwritable Json := i.fields.map Json.object

/-- The record of an operation. -/
def Operation.record (o : Operation) : Except Unwritable Json := do
  let inputs ← o.toInputs.fields
  let results ← Response.records o.results
  return .object (inputs ++ [
    ("id", .text o.id),
    ("name", .text o.name),
    ("summary", Json.ofText? o.summary),
    ("description", Json.ofText? o.description),
    ("deprecated", .bool o.deprecated),
    ("method", .text o.method),
    ("path", .text o.path),
    ("errors", .array (o.errors.map ResponseError.record)),
    ("results", results),
    ("responseHeader", Json.ofText? o.responseHeader)])

/-- The record of a service. -/
def Service.record (s : Service) : Except Unwritable Json := do
  let operations ← s.operations.mapM Operation.record
  return .object [
    ("name", .text s.name),
    ("description", Json.ofText? s.description),
    ("operations", .array operations),
    ("imports", .array (s.imports.map .text))]

/-- The records of services. -/
def Service.records (ss : List Service) : Except Unwritable Json :=
  (ss.mapM Service.record).map Json.array

end ServiceCatalog
