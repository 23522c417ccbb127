import ServiceCatalog.Api.Content
import ServiceCatalog.Schema.Assignment
import ServiceCatalog.Schema.Resolve

/-!
# Responses

The responses of an operation are a mapping from status codes to descriptions.  `declared` turns
every usable entry into a `Response`, in ascending order of codes; the results, the errors and the
response header are views of that one list.

## Status codes

A code is read from the text of its key: `default` counts as 200, and otherwise the digits at the
start count, of whatever script and whatever sign.  `2XX` is therefore 2, which is neither a result
nor an error, and a code of zero is none.

## Results and errors

Results are the responses from 200 to 299 without 204.  Of several that describe the same type the
first is kept, and an operation without any has one result of type `void`.  Errors are the responses
from 300 on that say what they are, a described 304 included.
-/

namespace ServiceCatalog

/-- Where the value of a response is read from. -/
inductive ResponseSource where
  | body
  | header
  deriving DecidableEq, Repr

/-- The name of a source in the result. -/
def ResponseSource.name : ResponseSource → String
  | .body => "response"
  | .header => "header"

/-- One documented response.  The name is that of the header that is read, if one is. -/
structure Response extends Model where
  source : ResponseSource := .body
  code : Int

/-- A status code that stands for a failure, and what it means. -/
structure ResponseError where
  code : Int
  description : String
  deriving DecidableEq

/-- The text without a sign in front. -/
def withoutSign : List Char → List Char
  | '-' :: cs => cs
  | '+' :: cs => cs
  | cs => cs

/-- The status code at the start of a text. -/
def statusCode? (cs : List Char) : Option Nat :=
  if cs = "default".toList then some 200
  else
    let digits := withoutSign (cs.dropWhile Text.isBlank)
    if digits.head?.any Text.isDigit then
      let code := (Text.leadingDigits 0 digits).1
      if code = 0 then none else some code
    else none

/-- The number of digits at the start of a text of which a status code is made. -/
def statusDigits (cs : List Char) : Nat :=
  ((withoutSign (cs.dropWhile Text.isBlank)).takeWhile Text.isDigit).length

/-- No status code is zero. -/
theorem statusCode?_ne_zero {cs : List Char} {n : Nat} (h : statusCode? cs = some n) : n ≠ 0 := by
  unfold statusCode? at h
  simp only at h
  split at h
  · cases h
    decide
  · split at h
    · split at h
      · cases h
      · rename_i hne
        rwa [← Option.some.inj h]
    · cases h

namespace Response

/-- References that start like this lead to declared responses. -/
def declaredHome : String := "#/components/responses/"

/-- The schema of a content, looked up if it is a reference to a declared response. -/
def schemaOf (doc schema : Value) : Except DescriptionError Value :=
  Value.dereferenceFrom declaredHome doc schema

/-- Gives a response the type of a schema. -/
def withSchema (r : Response) (schema : Value) : Response :=
  match schema.reference? with
  | some ref => { r with toModel := r.toModel.refer (Schema.ofReference ref) }
  | none => { r with toModel := r.toModel.adopt (Schema.resolve "" false schema) false }

/-- Makes a response without a body one that reads its first header, which is always a text. -/
def withHeaders (r : Response) (headers : Value) : Response :=
  match headers.entries with
  | (k, _) :: _ =>
    { r with
      source := .header
      toModel := { r.toModel with name := k.plainText, type := "string", base := "string" } }
  | [] => r

@[simp] theorem code_withSchema (r : Response) (schema : Value) :
    (r.withSchema schema).code = r.code := by
  unfold withSchema
  split <;> rfl

@[simp] theorem description_withSchema (r : Response) (schema : Value) :
    (r.withSchema schema).description = r.description := by
  unfold withSchema
  split <;> rfl

@[simp] theorem code_withHeaders (r : Response) (headers : Value) :
    (r.withHeaders headers).code = r.code := by
  unfold withHeaders
  split <;> rfl

@[simp] theorem description_withHeaders (r : Response) (headers : Value) :
    (r.withHeaders headers).description = r.description := by
  unfold withHeaders
  split <;> rfl

/-- The response that a declaration describes. -/
def ofDeclaration (doc declaration : Value) (code : Int)
    (mediaTypes : List String := defaultMediaTypes) : Except DescriptionError Response := do
  let r : Response :=
    { code := code, description := (declaration.field "description").nonemptyText? }
  match ← Content.choose (declaration.field "content") mediaTypes with
  | some content =>
    let schema ← schemaOf doc content.schema
    Value.ensureWritable (Schema.written schema)
    return r.withSchema schema
  | none =>
    Value.ensureWritable ((declaration.field "headers").keys.take 1)
    return r.withHeaders (declaration.field "headers")

/-- The status code of a key, which is written out, and whose digits are then read. -/
def codeOf? (key : Value) : Except DescriptionError (Option Nat) := do
  Value.ensureWritable [key]
  Value.ensureReadable (statusDigits key.plain)
  return statusCode? key.plain

/-- The responses of the usable entries of a mapping, in the order of the document. -/
def ofEntries (doc : Value) (mediaTypes : List String) :
    Entries → Except DescriptionError (List Response)
  | [] => .ok []
  | (k, v) :: es => do
    match ← codeOf? (.scalar k) with
    | none => ofEntries doc mediaTypes es
    | some code =>
      let declaration ← Value.dereference doc v
      let response ← ofDeclaration doc declaration code mediaTypes
      let others ← ofEntries doc mediaTypes es
      return response :: others

/-- The responses of an operation, in ascending order of codes; entries with the same code keep
their order. -/
def declared (doc responses : Value) (mediaTypes : List String := defaultMediaTypes) :
    Except DescriptionError (List Response) :=
  (ofEntries doc mediaTypes responses.entries).map fun rs =>
    rs.mergeSort fun a b => a.code ≤ b.code

/-- A response is a result. -/
def isResult (r : Response) : Bool := 200 ≤ r.code && r.code < 300 && r.code ≠ 204

/-- The result of an operation that documents none. -/
def void : Response := { code := 200, description := some "", type := "void", base := "void" }

/-- Keeps a response unless one that is kept already describes the same type. -/
def keepNew (kept : List Response) (r : Response) : List Response :=
  if kept.any fun s => s.sameType r.toModel then kept else kept ++ [r]

/-- The responses without those that describe the same type as an earlier one. -/
def distinctTypes (rs : List Response) : List Response := rs.foldl keepNew []

/-- The results among the responses of an operation; there is always one. -/
def results (rs : List Response) : List Response :=
  match rs.filter isResult with
  | [] => distinctTypes [void]
  | found => distinctTypes found

/-- A response as an error: its code is 300 or more, and it has a description. -/
def error? (r : Response) : Option ResponseError :=
  match r.description with
  | some d => if 300 ≤ r.code ∧ d ≠ "" then some ⟨r.code, d⟩ else none
  | none => none

/-- The errors among the responses of an operation. -/
def errors (rs : List Response) : List ResponseError := rs.filterMap error?

/-- The name of the first header among results. -/
def header? (results : List Response) : Option String :=
  (results.find? fun r => r.source = .header).map fun r => r.name

end Response
end ServiceCatalog
