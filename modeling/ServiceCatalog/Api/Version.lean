import ServiceCatalog.Api.Service

/-!
# The version of a document

Only documents of version 3 are read.  A document says its version under `openapi`, and one of the
format's predecessor is known by its `swagger` entry, whatever that holds.  A version is compared by
its text, so a document that writes it as the number `3.1` is accepted too.  What stands under
either name is written out for that, and for the message.
-/

namespace ServiceCatalog

/-- Why a document is not read. -/
inductive VersionError where
  | predecessor (version : String)
  | missing
  | unsupported (version : String)
  /-- What should be a version is an integer too long to be written, or holds one. -/
  | overlong
  deriving DecidableEq

/-- What is said about a document that is not read. -/
def VersionError.message : VersionError → String
  | .predecessor version =>
    s!"Swagger {version} is not supported. Only OpenAPI 3.x documents can be extracted. " ++
      "Consider converting with https://converter.swagger.io"
  | .missing => "Missing 'openapi' field. Is this an OpenAPI 3.x document?"
  | .unsupported version =>
    s!"Unsupported OpenAPI version: {version}. Only OpenAPI 3.x documents can be extracted."
  | .overlong => Overlong.written.message

/-- The version of a document. -/
def documentVersion (doc : Value) : Except VersionError String :=
  match doc.field? "swagger" with
  | some version =>
    .error (if version.isWritable then .predecessor version.plainText else .overlong)
  | none =>
    match doc.field "openapi" with
    | .scalar .null => .error .missing
    | version =>
      if !version.isWritable then .error .overlong
      else if version.plainText.startsWith "3." then .ok version.plainText
      else .error (.unsupported version.plainText)

/-- A version and the services that were found. -/
structure Extraction where
  version : String
  services : List Service

/-- Why nothing is extracted from a document. -/
inductive DocumentError where
  | version (cause : VersionError)
  | extraction (cause : ExtractionError)
  deriving DecidableEq

/-- What is said when nothing is extracted from a document. -/
def DocumentError.message : DocumentError → String
  | .version cause => cause.message
  | .extraction cause => cause.message

/-- The services of a document whose version is supported. -/
def extract (doc : Value) (settings : Settings := {}) : Except DocumentError Extraction := do
  let version ← (documentVersion doc).mapError .version
  let services ← (Service.ofDocument doc settings).mapError .extraction
  return ⟨version, services⟩

/-- The number of operations that were found. -/
def Extraction.operationCount (e : Extraction) : Nat :=
  (e.services.flatMap fun s => s.operations).length

end ServiceCatalog
