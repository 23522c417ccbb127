import ServiceCatalog.Naming.Reserved

/-!
# Settings of an extraction

What a project may choose.  Three of the settings are sets of words, of which only membership
counts; the media types and the methods are lists, and the methods also say in which order the
operations of a path are listed.
-/

namespace ServiceCatalog

/-- Media types that a generated client knows how to send, the preferred ones first. -/
def defaultMediaTypes : List String :=
  ["application/json-patch+json", "application/json", "application/x-www-form-urlencoded",
   "text/json", "text/plain", "multipart/form-data", "multipart/mixed", "multipart/related",
   "multipart/batch"]

/-- The methods of a path that are operations, in the order in which they are listed. -/
def defaultMethods : List String :=
  ["get", "post", "put", "delete", "patch", "options", "head"]

/-- Parameters that the transport supplies. -/
def defaultIgnoredParameters : List String := ["api-version"]

/-- The choices of a project. -/
structure Settings where
  reservedOperationNames : List String := Naming.reservedOperationNames
  reservedParameterNames : List String := Naming.reservedParameterNames
  ignoredParameters : List String := defaultIgnoredParameters
  versionPlaceholder : String := Naming.defaultVersionPlaceholder
  mediaTypes : List String := defaultMediaTypes
  methods : List String := defaultMethods
  deriving DecidableEq

instance : Inhabited Settings := ⟨{}⟩

end ServiceCatalog
