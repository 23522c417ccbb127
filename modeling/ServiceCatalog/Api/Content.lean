import ServiceCatalog.Api.Settings
import ServiceCatalog.Document.Pointer
import ServiceCatalog.Text.Blank
import ServiceCatalog.Text.Pieces

/-!
# Choosing the content of a body

A body may be documented in several media types, and a generated client sends and reads exactly one.
`select` chooses it: the first entry with a listed media type that carries a schema, or else the
first entry that carries one.  The list decides only *whether* an entry is preferred; among the
preferred ones the order of the document counts.

A media type is compared without its parameters, so that `text/plain; charset=utf-8` counts as
`text/plain`, and it is reported as it stands in the document.  Every key is written out to be
compared, so there is a choice only where all of them can be (`choose`).
-/

namespace ServiceCatalog

/-- The name of a media type, without parameters and without the blanks around it. -/
def baseMediaType (mediaType : String) : String :=
  String.ofList (Text.trim (Text.before ';' mediaType.toList))

/-- Media types of bodies that are sent as form fields. -/
def formMediaTypes : List String :=
  ["application/x-www-form-urlencoded", "multipart/form-data"]

/-- A body of this media type is sent as form fields. -/
def isFormMediaType (mediaType : String) : Bool :=
  formMediaTypes.contains (baseMediaType mediaType)

/-- The media type and the schema chosen for a body. -/
structure Content where
  mediaType : String
  schema : Value

namespace Content

/-- The schema that an entry carries: anything but null and the empty text. -/
def schema? (entry : Value) : Option Value :=
  match entry.field "schema" with
  | .scalar .null => none
  | .scalar (.text s) => if s = "" then none else some (.text s)
  | schema => some schema

/-- An entry as a choice, if it carries a schema. -/
def ofEntry? (e : Scalar × Value) : Option Content :=
  (schema? e.2).map fun schema => ⟨e.1.plainText, schema⟩

/-- An entry has a listed media type. -/
def isListed (mediaTypes : List String) (e : Scalar × Value) : Bool :=
  mediaTypes.contains (baseMediaType e.1.plainText)

/-- The content chosen among those of a body. -/
def select (content : Value) (mediaTypes : List String := defaultMediaTypes) : Option Content :=
  let listed := content.entries.filter (isListed mediaTypes)
  let others := content.entries.filter fun e => !isListed mediaTypes e
  (listed ++ others).findSome? ofEntry?

/-- Chooses the content among those of a body, whose keys are written out for it. -/
def choose (content : Value) (mediaTypes : List String := defaultMediaTypes) :
    Except DescriptionError (Option Content) :=
  (Value.ensureWritable content.keys).map fun _ => select content mediaTypes

end Content
end ServiceCatalog
