import ServiceCatalog.Proofs.Descriptions
import ServiceCatalog.Proofs.Visits

/-!
# What an extraction asks of a document

Most of a document may be malformed without harm.  There are two exceptions, and this file lists
where they apply.

## References

A reference that is looked up has to lead somewhere (`Service.Consulted`).  References are looked up

* in the list of parameters of a path that is not empty, whether or not an operation on it carries a
  tag, and in that of an operation that carries a declared tag;
* for the body of such an operation, and for those of its responses that have a status code;
* one level further, where a parameter has a reference into the declared parameters for its schema,
  or a response one into the declared responses.

Everything else that looks like a reference is the name of a type and is never looked up.

## Integers

An integer that is written out, or read from a text, has to be short enough for that
(`Service.Converted`).  In the same places names of parameters and of headers, media types, status
codes, the names of properties and the values of enums are written out if they are no texts, and the
digits of a status code are read.
-/

namespace ServiceCatalog

open Attempt

variable {doc : Value} {settings : Settings}

/-- What is done with integers. -/
inductive Conversion where
  /-- A value is written out. -/
  | written (v : Value)
  /-- An integer is read from so many digits. -/
  | read (digits : Nat)

/-- The integer is too long for what is done with it. -/
def Conversion.fault? : Conversion → Option Overlong
  | .written v => if v.isWritable then none else some .written
  | .read digits => if digits ≤ digitLimit then none else some (.read digits)

/-! ## Parameters -/

namespace Parameter

/-- The references that are consulted for one declaration of a parameter. -/
inductive Consults (doc v : Value) (ref : String) : Prop
  /-- The declaration is a reference itself. -/
  | entry (h : v.reference? = some ref)
  /-- The declaration has a known location, and a reference into the declared parameters for its
  schema. -/
  | schema {declaration : Value} (hd : Value.dereference doc v = .ok declaration)
      (hl : (Location.ofValue? (declaration.field "in")).isSome = true)
      (hs : (declaration.field "schema").reference? = some ref)
      (hh : ref.startsWith declaredHome = true)

/-- The conversions for one declaration of a parameter. -/
inductive Converts (doc v : Value) : Conversion → Prop
  /-- The name of the parameter is written out. -/
  | name {declaration name : Value} (hd : Value.dereference doc v = .ok declaration)
      (hl : (Location.ofValue? (declaration.field "in")).isSome = true)
      (hn : declaration.field? "name" = some name) : Converts doc v (.written name)
  /-- The model of its schema has something written out. -/
  | schema {declaration schema w : Value} (hd : Value.dereference doc v = .ok declaration)
      (hl : (Location.ofValue? (declaration.field "in")).isSome = true)
      (hs : schemaOf doc declaration = .ok schema) (hw : w ∈ Schema.written schema) :
      Converts doc v (.written w)

end Parameter

namespace Inputs

/-- The references that are consulted for what should be a list of declarations. -/
def Consults (doc v : Value) (ref : String) : Prop :=
  ∃ vs, v.items? = some vs ∧ ∃ w ∈ vs, Parameter.Consults doc w ref

/-- The conversions for what should be a list of declarations. -/
def Converts (doc v : Value) (c : Conversion) : Prop :=
  ∃ vs, v.items? = some vs ∧ ∃ w ∈ vs, Parameter.Converts doc w c

end Inputs

/-! ## Responses -/

namespace Response

variable {mediaTypes : List String} {e : Scalar × Value} {ref : String}

/-- The references that are consulted for one entry of the responses of an operation.  An entry
without a status code has none. -/
inductive Consults (doc : Value) (mediaTypes : List String) (e : Scalar × Value) (ref : String) :
    Prop
  /-- The response is a reference itself. -/
  | entry (hc : (statusCode? e.1.plain).isSome = true) (h : e.2.reference? = some ref)
  /-- The schema that is chosen for the response is a reference into the declared responses. -/
  | schema {declaration : Value} {content : Content}
      (hc : (statusCode? e.1.plain).isSome = true)
      (hd : Value.dereference doc e.2 = .ok declaration)
      (hs : Content.select (declaration.field "content") mediaTypes = some content)
      (hr : content.schema.reference? = some ref) (hh : ref.startsWith declaredHome = true)

/-- The conversions for a declaration of a response. -/
inductive DeclarationConverts (doc declaration : Value) (mediaTypes : List String) :
    Conversion → Prop
  /-- Every media type is written out. -/
  | mediaType {k : Value} (hk : k ∈ (declaration.field "content").keys) :
      DeclarationConverts doc declaration mediaTypes (.written k)
  /-- The model of the chosen schema has something written out. -/
  | schema {content : Content} {schema w : Value}
      (hs : Content.select (declaration.field "content") mediaTypes = some content)
      (ht : schemaOf doc content.schema = .ok schema) (hw : w ∈ Schema.written schema) :
      DeclarationConverts doc declaration mediaTypes (.written w)
  /-- Without a schema the name of the first header is written out. -/
  | header {k : Value} (hs : Content.select (declaration.field "content") mediaTypes = none)
      (hk : k ∈ (declaration.field "headers").keys.take 1) :
      DeclarationConverts doc declaration mediaTypes (.written k)

/-- The conversions for one entry of the responses of an operation. -/
inductive Converts (doc : Value) (mediaTypes : List String) (e : Scalar × Value) :
    Conversion → Prop
  /-- Its key is written out. -/
  | key : Converts doc mediaTypes e (.written (.scalar e.1))
  /-- The digits at the start of its key are read. -/
  | code : Converts doc mediaTypes e (.read (statusDigits e.1.plain))
  /-- It has a status code and is described. -/
  | declaration {declaration : Value} {c : Conversion}
      (hc : (statusCode? e.1.plain).isSome = true)
      (hd : Value.dereference doc e.2 = .ok declaration)
      (h : DeclarationConverts doc declaration mediaTypes c) : Converts doc mediaTypes e c

end Response

/-! ## Operations and services -/

namespace Operation

/-- The references that are consulted for one operation. -/
inductive Consults (doc : Value) (settings : Settings) (operation : Value) (ref : String) : Prop
  | parameter (h : Inputs.Consults doc (operation.field "parameters") ref)
  | body (h : (operation.field "requestBody").reference? = some ref)
  | response {e : Scalar × Value} (he : e ∈ (operation.field "responses").entries)
      (h : Response.Consults doc settings.mediaTypes e ref)

/-- The conversions for a declaration of a body. -/
inductive BodyConverts (declaration : Value) (mediaTypes : List String) : Conversion → Prop
  /-- Every media type is written out. -/
  | mediaType {k : Value} (hk : k ∈ (declaration.field "content").keys) :
      BodyConverts declaration mediaTypes (.written k)
  /-- The model of the chosen schema has something written out. -/
  | schema {content : Content} {w : Value}
      (hs : Content.select (declaration.field "content") mediaTypes = some content)
      (hw : w ∈ Schema.written content.schema) : BodyConverts declaration mediaTypes (.written w)

/-- The conversions for one operation. -/
inductive Converts (doc : Value) (settings : Settings) (operation : Value) (c : Conversion) : Prop
  | parameter (h : Inputs.Converts doc (operation.field "parameters") c)
  | body {v : Value} (hv : (operation.field "requestBody").isVacant = false)
      (hd : Value.dereference doc (operation.field "requestBody") = .ok v)
      (h : BodyConverts v settings.mediaTypes c)
  | response {e : Scalar × Value} (he : e ∈ (operation.field "responses").entries)
      (h : Response.Converts doc settings.mediaTypes e c)

end Operation

namespace Service

/-- The references that are consulted for the services of some tags. -/
inductive Consulted (doc : Value) (settings : Settings) (tags : String → Prop) (ref : String) :
    Prop
  /-- On a path that is not empty. -/
  | ofPath {e : Scalar × Value} (he : e ∈ (doc.field "paths").entries) (hne : e.2.entries ≠ [])
      (h : Inputs.Consults doc (e.2.field "parameters") ref)
  /-- In an operation that carries one of the tags. -/
  | ofOperation {tag : String} {key : Scalar} {item : Value} {method : String} (ht : tags tag)
      (hv : Visited doc settings tag key item method)
      (h : Operation.Consults doc settings (item.field method) ref)

/-- The conversions for the services of some tags. -/
inductive Converted (doc : Value) (settings : Settings) (tags : String → Prop) (c : Conversion) :
    Prop
  /-- On a path that is not empty. -/
  | ofPath {e : Scalar × Value} (he : e ∈ (doc.field "paths").entries) (hne : e.2.entries ≠ [])
      (h : Inputs.Converts doc (e.2.field "parameters") c)
  /-- In an operation that carries one of the tags. -/
  | ofOperation {tag : String} {key : Scalar} {item : Value} {method : String} (ht : tags tag)
      (hv : Visited doc settings tag key item method)
      (h : Operation.Converts doc settings (item.field method) c)

end Service
end ServiceCatalog
