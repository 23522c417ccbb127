import ServiceCatalog.Api.Parameter

/-!
# The inputs of a path and of an operation

Parameters are declared in two places, on a path and on an operation, and a generator wants to see
them in two ways: all of them in one list, and those of each location in a list of its own.  Inputs
hold both, together with what the parameters import.

## Filing

`declared` reads a list of declarations from front to back.  Every reference in it is looked up
once, and every parameter is filed under its location (`file`), unless the settings ignore its name.
There is no list for bodies: a declaration that calls itself a body is dropped, because a body has a
declaration of its own (`withBody`).
-/

namespace ServiceCatalog

/-- Parameters in one list and by location, with what they import. -/
structure Inputs where
  imports : List String := []
  parameters : List Parameter := []
  pathParameters : List Parameter := []
  queryParameters : List Parameter := []
  formParameters : List Parameter := []
  cookieParameters : List Parameter := []
  headerParameters : List Parameter := []
  body : Option Parameter := none

namespace Inputs

/-- Files a parameter under its location. -/
def file (i : Inputs) (p : Parameter) : Inputs :=
  let listed : Inputs :=
    { i with imports := i.imports ++ p.imports, parameters := i.parameters ++ [p] }
  match p.location with
  | .path => { listed with pathParameters := i.pathParameters ++ [p] }
  | .query => { listed with queryParameters := i.queryParameters ++ [p] }
  | .formData => { listed with formParameters := i.formParameters ++ [p] }
  | .cookie => { listed with cookieParameters := i.cookieParameters ++ [p] }
  | .header => { listed with headerParameters := i.headerParameters ++ [p] }
  | .body => i

/-- Files the parameter that a declaration describes, unless its name is ignored. -/
def fileDeclaration (doc : Value) (settings : Settings) (i : Inputs) (v : Value) :
    Except DescriptionError Inputs := do
  let declaration ← Value.dereference doc v
  match ← Parameter.ofDeclaration? doc declaration settings.reservedParameterNames with
  | none => return i
  | some p => return if settings.ignoredParameters.contains p.prop then i else i.file p

/-- The inputs that a list of declarations describes; what is no list describes none. -/
def declared (doc : Value) (settings : Settings) (v : Value) : Except DescriptionError Inputs :=
  match v.items? with
  | some declarations => declarations.foldlM (fileDeclaration doc settings) {}
  | none => .ok {}

/-- Inputs with further ones behind them, list by list.  The body stays. -/
def extend (i own : Inputs) : Inputs where
  imports := i.imports ++ own.imports
  parameters := i.parameters ++ own.parameters
  pathParameters := i.pathParameters ++ own.pathParameters
  queryParameters := i.queryParameters ++ own.queryParameters
  formParameters := i.formParameters ++ own.formParameters
  cookieParameters := i.cookieParameters ++ own.cookieParameters
  headerParameters := i.headerParameters ++ own.headerParameters
  body := i.body

/-- Inputs with a body, which also closes the list of all parameters. -/
def withBody (i : Inputs) (b : Parameter) : Inputs :=
  { i with
    imports := i.imports ++ b.imports
    parameters := i.parameters ++ [b]
    body := some b }

/-- Inputs with a body if there is one. -/
def withBody? (i : Inputs) : Option Parameter → Inputs
  | some b => i.withBody b
  | none => i

/-- The list of a location; a body is in none. -/
def bucket (i : Inputs) : Location → List Parameter
  | .path => i.pathParameters
  | .query => i.queryParameters
  | .formData => i.formParameters
  | .cookie => i.cookieParameters
  | .header => i.headerParameters
  | .body => []

end Inputs
end ServiceCatalog
