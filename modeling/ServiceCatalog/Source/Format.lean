import ServiceCatalog.Document.Literal
import ServiceCatalog.Json.Reader
import ServiceCatalog.Text.Casing
import ServiceCatalog.Yaml.Reader

/-!
# The text of a document

A document is written in JSON or in YAML, and its label, a file suffix or a content type, may say in
which.  A label is a hint and no more: without one the text is read as JSON first and then as YAML.
With a hint only the hinted format is tried, so that a broken file is reported for what it is meant
to be.  A text that is JSON but for an integer beyond the limit is not tried as YAML.

Whatever the format, a document is a mapping.
-/

namespace ServiceCatalog

/-- The formats of documents. -/
inductive Format where
  | json
  | yaml
  deriving DecidableEq, Repr

namespace Format

/-- The name of a format. -/
def name : Format → String
  | .json => "json"
  | .yaml => "yaml"

/-- Some characters occur in others, one after the other. -/
def occursIn (word : List Char) : List Char → Bool
  | [] => word.isEmpty
  | c :: cs => word.isPrefixOf (c :: cs) || occursIn word cs

/-- What a label has to contain, in any case, to name a format; the first one counts. -/
def marks : List (String × Format) := [("json", .json), ("yaml", .yaml), ("yml", .yaml)]

/-- The format that a label names. -/
def hint? (label : String) : Option Format :=
  let lowered := Text.lower label.toList
  (marks.find? fun m => occursIn m.1.toList lowered).map Prod.snd

end Format

/-- Why a text is no document. -/
inductive ReadError where
  /-- The text should be JSON. -/
  | json (cause : Json.SyntaxError)
  /-- The text is not YAML, and not JSON either if that was tried. -/
  | neither (json : Option Json.SyntaxError) (yaml : Yaml.Malformed)
  /-- The text is a value of another kind. -/
  | notAMapping (v : Value)
  /-- A scalar in the text does not suit its tag. -/
  | unsuitable (cause : Yaml.Unsuitable)
  /-- An integer in the text is too long. -/
  | overlong (cause : Overlong)

/-- What a message calls the kind of a value that should be a document. -/
def rootKind : Value → String
  | .null => "empty document"
  | v => v.kindName

/-- What is said about a text that is no document. -/
def ReadError.message : ReadError → String
  | .json cause => "Invalid JSON: " ++ cause.message
  | .neither tried cause =>
    let first := (tried.map fun e => "JSON error: " ++ e.message ++ "\n  ").getD ""
    "Failed to parse document as JSON or YAML\n  " ++ first ++ "YAML error: " ++ cause.message
  | .notAMapping v => "Document must be a JSON/YAML object (got " ++ rootKind v ++ ")"
  | .unsuitable cause => cause.message
  | .overlong cause => cause.message

namespace Document

/-- A value as a document. -/
def ofValue (v : Value) : Except ReadError Value :=
  if v.isMapping then .ok v else .error (.notAMapping v)

/-- The document that a YAML text is, after it may have been tried as JSON. -/
def ofYaml (tried : Option Json.SyntaxError) (text : String) : Except ReadError Value :=
  match Yaml.parse text with
  | .ok v => ofValue v
  | .error (.malformed cause) => .error (.neither tried cause)
  | .error (.unsuitable cause) => .error (.unsuitable cause)

/-- The document that a text is, given the hint of its label. -/
def ofText (text : String) (hint : Option Format := none) : Except ReadError Value :=
  match hint with
  | some .yaml => ofYaml none text
  | _ =>
    match Json.parse text with
    | .ok j => ofValue j.toValue
    | .error (.overlong cause) => .error (.overlong cause)
    | .error (.malformed cause) =>
      match hint with
      | some .json => .error (.json cause)
      | _ => ofYaml (some cause) text

end Document
end ServiceCatalog
