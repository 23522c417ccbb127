import ServiceCatalog.Json.Projection
import ServiceCatalog.Schema.Model

/-!
# Models as JSON records

The printed form of a model lists every field, in a fixed order and whether it says something or
not.  Documents inside a model are written by `Value.asJson`.

## Numeric keywords

A keyword that should hold a number is written as one when it holds a truth value: `true` is `1` and
`false` is `0`.  The three keywords that admit fractions keep an infinity as a number, and all
others lose it like any other document does.
-/

namespace ServiceCatalog

/-- A keyword that should hold an integer. -/
def integerKeyword : Value → Except Unwritable Json
  | .bool b => .ok (.int (if b then 1 else 0))
  | v => v.asJson

/-- A keyword that should hold a number. -/
def numberKeyword : Value → Except Unwritable Json
  | .scalar (.float x) => .ok (.float x)
  | v => integerKeyword v

/-- The record of a member of an enum. -/
def EnumMember.record (m : EnumMember) : Json :=
  .object
    [("name", .text m.name), ("value", .text m.literal),
     ("type", .text (if m.isNumber then "number" else "string")), ("description", .null)]

/-- The fields that constraints contribute to a record. -/
def Constraints.fields (c : Constraints) : Except Unwritable (List (String × Json)) := do
  return [
    ("format", ← c.format.asJson),
    ("maximum", ← numberKeyword c.maximum),
    ("exclusiveMaximum", ← c.exclusiveMaximum.asJson),
    ("minimum", ← numberKeyword c.minimum),
    ("exclusiveMinimum", ← c.exclusiveMinimum.asJson),
    ("multipleOf", ← numberKeyword c.multipleOf),
    ("maxLength", ← integerKeyword c.maxLength),
    ("minLength", ← integerKeyword c.minLength),
    ("maxItems", ← integerKeyword c.maxItems),
    ("minItems", ← integerKeyword c.minItems),
    ("uniqueItems", ← c.uniqueItems.asJson),
    ("maxProperties", ← integerKeyword c.maxProperties),
    ("minProperties", ← integerKeyword c.minProperties),
    ("pattern", Json.ofText? c.pattern)]

namespace Model

/-- The fields of the record of a model, given the records of the models in it. -/
def fieldsWith (m : Model) (link : Json) (enums properties : List Json) :
    Except Unwritable (List (String × Json)) := do
  let default ← m.default.asJson
  let constraints ← m.constraints.fields
  return [
    ("name", Json.text m.name),
    ("export", .text m.shape.name),
    ("type", .text m.type),
    ("base", .text m.base),
    ("template", Json.ofText? m.template),
    ("link", link),
    ("description", Json.ofText? m.description),
    ("deprecated", .bool m.deprecated),
    ("default", default),
    ("isDefinition", .bool m.isDefinition),
    ("isReadOnly", .bool m.isReadOnly),
    ("isRequired", .bool m.isRequired),
    ("isNullable", .bool m.isNullable)] ++ constraints ++ [
    ("imports", .array (m.imports.map .text)),
    ("enum", .array (m.members.map EnumMember.record)),
    ("enums", .array enums),
    ("properties", .array properties)]

mutual

/-- The fields of the record of a model, in order. -/
def fields : Model → Except Unwritable (List (String × Json))
  | m@⟨_, _, _, _, _, link, _, _, _, _, _, _, _, _, _, _, enums, properties⟩ => do
    let linked ← linkRecord link
    let enumRecords ← records enums
    let propertyRecords ← records properties
    m.fieldsWith linked enumRecords propertyRecords

/-- The record of what a model links to; null without a link. -/
def linkRecord : Option Model → Except Unwritable Json
  | none => .ok .null
  | some l => do
    let fs ← fields l
    return .object fs

/-- The records of models. -/
def records : List Model → Except Unwritable (List Json)
  | [] => .ok []
  | m :: ms => do
    let fs ← fields m
    let js ← records ms
    return .object fs :: js

end

/-- The record of a model. -/
def record (m : Model) : Except Unwritable Json := (fields m).map Json.object

end Model
end ServiceCatalog
