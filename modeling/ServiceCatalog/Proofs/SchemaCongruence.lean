import ServiceCatalog.Proofs.Related
import ServiceCatalog.Proofs.SchemaInduction

/-!
# Schemas that agree up to their parts

The model of a schema is made from a few keywords and from the models of the parts.  So two schemas
with the same keywords have the same model if their parts have, whatever else distinguishes the
parts.  This file turns that into one statement, `equivalent_of_fieldsRel`.

* `FieldRel R key` compares what two schemas hold under one keyword: it is the same, or it is made
  of schemas that `R` relates.  Which keywords hold schemas, and in which arrangement, is said there
  once.
* `Form.Rel R` compares two forms in the same way, and `Form.rel_of_fieldsRel` passes from fields to
  forms.
* `Equivalent v w` says that two values are described alike wherever they stand as schemas.

A part of a container is looked at twice, first for being a reference and then for its model, which
is why `Equivalent` speaks of both.
-/

namespace ServiceCatalog
namespace Schema

/-! ## Fields -/

/-- The keywords that hold one schema. -/
def elementKeys : List String := ["items", "additionalProperties"]

/-- The keywords that hold a list of schemas. -/
def compositionKeys : List String := ["oneOf", "anyOf", "allOf"]

/-- What two schemas hold under a keyword: the same, or related schemas if the keyword holds
schemas. -/
inductive FieldRel (R : Value → Value → Prop) : String → Option Value → Option Value → Prop
  | same (key : String) (x : Option Value) : FieldRel R key x x
  | element {key : String} {v w : Value} (hkey : key ∈ elementKeys) (h : R v w) :
      FieldRel R key (some v) (some w)
  | members {key : String} {v w : Value} {vs ws : List Value} (hkey : key ∈ compositionKeys)
      (hv : v.items? = some vs) (hw : w.items? = some ws) (h : List.Forall₂ R vs ws) :
      FieldRel R key (some v) (some w)
  | properties {v w : Value} {ps qs : Entries} (hv : v.entries? = some ps)
      (hw : w.entries? = some qs) (h : List.Forall₂ (EntryRel R) ps qs) :
      FieldRel R "properties" (some v) (some w)

variable {R S : Value → Value → Prop} {key : String} {x y : Option Value} {es fs : Entries}

theorem notMem_compositionKeys (h : key ∈ elementKeys) : key ∉ compositionKeys := by
  rcases List.mem_pair.mp h with rfl | rfl <;> decide

theorem ne_properties_of_mem_elementKeys (h : key ∈ elementKeys) : key ≠ "properties" := by
  rcases List.mem_pair.mp h with rfl | rfl <;> decide

theorem ne_properties_of_mem_compositionKeys (h : key ∈ compositionKeys) : key ≠ "properties" :=
  fun heq => absurd (heq ▸ h) (by decide)

theorem FieldRel.isNone_eq (h : FieldRel R key x y) : x.isNone = y.isNone := by
  cases h <;> rfl

/-- Most keywords hold no schema. -/
theorem FieldRel.eq (h : FieldRel R key x y) (helement : key ∉ elementKeys)
    (hmembers : key ∉ compositionKeys) (hproperties : key ≠ "properties") : x = y := by
  cases h with
  | same => rfl
  | element hkey => exact absurd hkey helement
  | members hkey => exact absurd hkey hmembers
  | properties => exact absurd rfl hproperties

theorem FieldRel.elementRel (h : FieldRel R key x y) (hrefl : ∀ v, R v v)
    (hkey : key ∈ elementKeys) : Option.Rel R x y := by
  cases h with
  | same => exact optionRel_refl hrefl x
  | element _ h => exact .some h
  | members hkey' => exact absurd hkey' (notMem_compositionKeys hkey)
  | properties => exact absurd rfl (ne_properties_of_mem_elementKeys hkey)

theorem FieldRel.membersRel (h : FieldRel R key x y) (hrefl : ∀ v, R v v)
    (hkey : key ∈ compositionKeys) :
    Option.Rel (List.Forall₂ R) (nonemptyItems? x) (nonemptyItems? y) := by
  cases h with
  | same => exact optionRel_refl (fun vs => List.forall₂_same.mpr fun v _ => hrefl v) _
  | members _ hv hw h =>
    simp only [nonemptyItems?, Option.bind_some, hv, hw]
    cases h with
    | nil => exact .none
    | cons hhead htail => exact .some (.cons hhead htail)
  | element hkey' => exact absurd hkey (notMem_compositionKeys hkey')
  | properties => exact absurd rfl (ne_properties_of_mem_compositionKeys hkey)

theorem FieldRel.propertiesRel (h : FieldRel R "properties" x y) (hrefl : ∀ v, R v v) :
    Option.Rel (List.Forall₂ (EntryRel R)) (x.bind Value.entries?) (y.bind Value.entries?) := by
  cases h with
  | same =>
    exact optionRel_refl (fun ps => List.forall₂_same.mpr fun p _ => .mk p.1 (hrefl p.2)) _
  | properties hv hw h =>
    simp only [Option.bind_some, hv, hw]
    exact .some h
  | element hkey => exact absurd rfl (ne_properties_of_mem_elementKeys hkey)
  | members hkey => exact absurd rfl (ne_properties_of_mem_compositionKeys hkey)

/-! ## Forms -/

/-- Two forms of one kind with related parts. -/
inductive Form.Rel (R : Value → Value → Prop) : Form → Form → Prop
  | enumeration (values : List Value) : Rel R (.enumeration values) (.enumeration values)
  | array {x y : Option Value} (h : Option.Rel R x y) : Rel R (.array x) (.array y)
  | dictionary {v w : Value} (h : R v w) : Rel R (.dictionary v) (.dictionary w)
  | composition (shape : Shape) {vs ws : List Value} (h : List.Forall₂ R vs ws) :
      Rel R (.composition shape vs) (.composition shape ws)
  | interface {ps qs : Entries} (h : List.Forall₂ (EntryRel R) ps qs) :
      Rel R (.interface ps) (.interface qs)
  | primitive : Rel R .primitive .primitive

/-- Two schemas hold related things under every keyword that is not about their type. -/
def FieldsRel (R : Value → Value → Prop) (es fs : Entries) : Prop :=
  ∀ key, key ≠ "type" → key ≠ "nullable" → FieldRel R key (es.get? key) (fs.get? key)

/-- The keywords that are about the type of a schema or hold schemas. -/
def structuralKeys : List String :=
  "type" :: "nullable" :: "properties" :: (elementKeys ++ compositionKeys)

theorem FieldsRel.nil : FieldsRel R [] [] := fun key _ _ => .same key none

theorem FieldsRel.cons {v w : Value} (h : FieldRel R key (some v) (some w))
    (hrest : FieldsRel R es fs) : FieldsRel R ((.text key, v) :: es) ((.text key, w) :: fs) := by
  intro other htype hnullable
  by_cases hkey : key = other
  · subst hkey
    simpa [Entries.get?] using h
  · simpa [Entries.get?, hkey] using hrest other htype hnullable

/-- Schemas with related fields agree under all other keywords. -/
theorem FieldsRel.get?_eq (h : FieldsRel R es fs) (name : String)
    (hname : name ∉ structuralKeys) : es.get? name = fs.get? name := by
  simp only [structuralKeys, List.mem_cons, List.mem_append, not_or] at hname
  obtain ⟨htype, hnullable, hproperties, helement, hmembers⟩ := hname
  exact (h name htype hnullable).eq helement hmembers hproperties

theorem FieldsRel.dictionaryElement?_rel (h : FieldsRel R es fs) (hrefl : ∀ v, R v v)
    (hmapping : ∀ v w, R v w → v.isMapping = w.isMapping) (kind : Option String) :
    Option.Rel R (dictionaryElement? kind es) (dictionaryElement? kind fs) := by
  have hnone := (h "properties" (by decide) (by decide)).isNone_eq
  have hadditional :=
    (h "additionalProperties" (by decide) (by decide)).elementRel hrefl (by decide)
  unfold dictionaryElement?
  rcases eq_none_or_eq_some_of_rel hadditional with ⟨hx, hy⟩ | ⟨v, w, hx, hy, hvw⟩
  · simp only [hx, hy]
    exact .none
  · simp only [hx, hy, hmapping v w hvw, hnone]
    split
    · exact .some hvw
    · exact .none

theorem FieldsRel.composition?_rel (h : FieldsRel R es fs) (hrefl : ∀ v, R v v) :
    Option.Rel (fun p q => p.1 = q.1 ∧ List.Forall₂ R p.2 q.2) (composition? es)
      (composition? fs) := by
  have hmembers : ∀ key, key ∈ compositionKeys → Option.Rel (List.Forall₂ R)
      (nonemptyItems? (es.get? key)) (nonemptyItems? (fs.get? key)) := by
    intro key hkey
    refine (h key ?_ ?_).membersRel hrefl hkey
    all_goals exact fun heq => absurd (heq ▸ hkey) (by decide)
  unfold composition?
  rcases eq_none_or_eq_some_of_rel (hmembers "oneOf" (by decide)) with
    ⟨hx, hy⟩ | ⟨vs, ws, hx, hy, hvs⟩
  · simp only [hx, hy]
    rcases eq_none_or_eq_some_of_rel (hmembers "anyOf" (by decide)) with
      ⟨hx, hy⟩ | ⟨vs, ws, hx, hy, hvs⟩
    · simp only [hx, hy]
      rcases eq_none_or_eq_some_of_rel (hmembers "allOf" (by decide)) with
        ⟨hx, hy⟩ | ⟨vs, ws, hx, hy, hvs⟩
      · simp only [hx, hy]
        exact .none
      · simp only [hx, hy]
        exact .some ⟨rfl, hvs⟩
    · simp only [hx, hy]
      exact .some ⟨rfl, hvs⟩
  · simp only [hx, hy]
    exact .some ⟨rfl, hvs⟩

theorem FieldsRel.properties?_rel (h : FieldsRel R es fs) (hrefl : ∀ v, R v v)
    (kind : Option String) :
    Option.Rel (List.Forall₂ (EntryRel R)) (properties? kind es) (properties? kind fs) := by
  have hproperties := (h "properties" (by decide) (by decide)).propertiesRel hrefl
  unfold properties?
  rcases eq_none_or_eq_some_of_rel hproperties with ⟨hx, hy⟩ | ⟨ps, qs, hx, hy, hps⟩
  · simp only [hx, hy]
    exact .none
  · simp only [hx, hy]
    split
    · exact .some hps
    · exact .none

/-- **Schemas of one type with related fields have related forms.** -/
theorem Form.rel_of_fieldsRel (h : FieldsRel R es fs) (hrefl : ∀ v, R v v)
    (hmapping : ∀ v w, R v w → v.isMapping = w.isMapping)
    (hkind : (effectiveType (.mapping es)).1 = (effectiveType (.mapping fs)).1) :
    Form.Rel R (Form.of es) (Form.of fs) := by
  have henum : ∀ kind, enumValues? kind es = enumValues? kind fs := by
    intro kind
    rw [enumValues?, enumValues?, h.get?_eq "enum" (by decide)]
  unfold Form.of
  simp only [hkind, henum]
  generalize (effectiveType (.mapping fs)).1 = kind
  split
  · exact .enumeration _
  · split
    · exact .array ((h "items" (by decide) (by decide)).elementRel hrefl (by decide))
    · rcases eq_none_or_eq_some_of_rel (h.dictionaryElement?_rel hrefl hmapping kind) with
        ⟨hx, hy⟩ | ⟨v, w, hx, hy, hvw⟩
      · simp only [hx, hy]
        rcases eq_none_or_eq_some_of_rel (h.composition?_rel hrefl) with
          ⟨hx, hy⟩ | ⟨⟨shape, vs⟩, ⟨shape', ws⟩, hx, hy, rfl, hvs⟩
        · simp only [hx, hy]
          rcases eq_none_or_eq_some_of_rel (h.properties?_rel hrefl kind) with
            ⟨hx, hy⟩ | ⟨ps, qs, hx, hy, hps⟩
          · simp only [hx, hy]
            exact .primitive
          · simp only [hx, hy]
            exact .interface hps
        · simp only [hx, hy]
          exact .composition shape hvs
      · simp only [hx, hy]
        exact .dictionary hvw

/-- Forms are related as closely as their parts are. -/
theorem Form.Rel.imp {f g : Form} (h : Form.Rel R f g)
    (hparts : ∀ v ∈ f.parts, ∀ w, R v w → S v w) : Form.Rel S f g := by
  cases h with
  | enumeration values => exact .enumeration values
  | array h =>
    cases h with
    | none => exact .array .none
    | some h => exact .array (.some (hparts _ (by simp [parts]) _ h))
  | dictionary h => exact .dictionary (hparts _ (by simp [parts]) _ h)
  | composition shape h => exact .composition shape (forall₂_imp_of_mem h hparts)
  | interface h =>
    refine .interface (forall₂_imp_of_mem h fun p hp q hpq => ?_)
    cases hpq with
    | mk key h => exact .mk key (hparts _ (List.mem_map_of_mem hp) _ h)
  | primitive => exact .primitive

/-! ## Models -/

/-- Two values are described alike, wherever they stand as schemas. -/
structure Equivalent (v w : Value) : Prop where
  reference?_eq : v.reference? = w.reference?
  resolve_eq : ∀ name isDefinition, resolve name isDefinition v = resolve name isDefinition w

theorem Equivalent.refl (v : Value) : Equivalent v v := ⟨rfl, fun _ _ => rfl⟩

theorem contain_congr {v w : Value} (h : Equivalent v w) (m : Model) (shape : Shape) :
    contain m shape v = contain m shape w := by
  unfold contain
  rw [h.reference?_eq, h.resolve_eq]

theorem property_congr {p q : Scalar × Value} (h : EntryRel Equivalent p q)
    (required : List String) : property required p = property required q := by
  cases h with
  | mk key h => rw [property, property, h.resolve_eq]

/-- An outline is completed alike by related forms. -/
theorem complete_congr {f g : Form} (h : Form.Rel Equivalent f g) (m : Model) {v w : Value}
    (hrequired : requiredNames v = requiredNames w)
    (hkind : (effectiveType v).1 = (effectiveType w).1)
    (hformat : v.field "format" = w.field "format") : complete m v f = complete m w g := by
  cases h with
  | enumeration values => rfl
  | array h =>
    cases h with
    | none => rfl
    | some h => exact contain_congr h m .array
  | dictionary h => exact contain_congr h m .dictionary
  | composition shape h =>
    exact congrArg (asComposition m shape) (map_eq_of_forall₂ h fun v w h => h.resolve_eq _ _)
  | interface h =>
    rw [complete, complete, hrequired]
    exact congrArg (asInterface m) (map_eq_of_forall₂ h fun p q h => property_congr h _)
  | primitive => rw [complete, complete, hkind, hformat]

/-- The type of a schema is read from two keywords, and from the presence of two others. -/
theorem effectiveType_congr {v w : Value} (htype : v.field? "type" = w.field? "type")
    (hnullable : v.field? "nullable" = w.field? "nullable")
    (hproperties : v.has "properties" = w.has "properties")
    (hitems : v.has "items" = w.has "items") : effectiveType v = effectiveType w := by
  have himplied : impliedType v = impliedType w := by
    rw [impliedType, impliedType, hproperties, hitems]
  rw [effectiveType, effectiveType, Value.field, Value.field, htype, hnullable, himplied]
  rfl

/-- The type of a schema is that of its entries. -/
theorem effectiveType_of_entries? {v : Value} (hv : v.entries? = some es) :
    effectiveType v = effectiveType (.mapping es) := by
  have hfield : ∀ name, v.field? name = (Value.mapping es).field? name := by
    intro name
    rw [Value.field?, Value.entries, hv]
    rfl
  refine effectiveType_congr (hfield _) (hfield _) ?_ ?_
  all_goals rw [Value.has, Value.has, hfield]

section

variable {v w : Value} (hv : v.entries? = some es) (hw : w.entries? = some fs)
  (htype : effectiveType v = effectiveType w) (hfields : FieldsRel R es fs)
include hv hw hfields

/-- What a schema says under a keyword that is neither about the type nor holds a schema. -/
theorem field_congr (name : String) (hname : name ∉ structuralKeys) :
    v.field name = w.field name := by
  simp only [Value.field, Value.field?, Value.entries, hv, hw, Option.getD_some,
    hfields.get?_eq name hname]

include htype

/-- Schemas of one type with related fields have one outline. -/
theorem outline_congr (name : String) (isDefinition : Bool) :
    outline name isDefinition v = outline name isDefinition w := by
  have hf := field_congr hv hw hfields
  have hconstraints : constraints v = constraints w := by
    simp only [constraints, hf "format" (by decide), hf "maximum" (by decide),
      hf "exclusiveMaximum" (by decide), hf "minimum" (by decide),
      hf "exclusiveMinimum" (by decide), hf "multipleOf" (by decide), hf "maxLength" (by decide),
      hf "minLength" (by decide), hf "maxItems" (by decide), hf "minItems" (by decide),
      hf "uniqueItems" (by decide), hf "maxProperties" (by decide),
      hf "minProperties" (by decide), hf "pattern" (by decide)]
  simp only [outline, defaultValue, htype, hconstraints, hf "description" (by decide),
    hf "deprecated" (by decide), hf "default" (by decide), hf "readOnly" (by decide)]

/-- **Schemas of one type with related fields are described alike, if their related parts are.** -/
theorem equivalent_of_fieldsRel (hrefl : ∀ v, R v v)
    (hmapping : ∀ v w, R v w → v.isMapping = w.isMapping)
    (hparts : ∀ a ∈ (Form.of es).parts, ∀ b, R a b → Equivalent a b) : Equivalent v w := by
  have hf := field_congr hv hw hfields
  have href : v.reference? = w.reference? := by
    rw [Value.reference?, Value.reference?, hf "$ref" (by decide)]
  refine ⟨href, fun name isDefinition => ?_⟩
  cases hr : w.reference? with
  | some ref => rw [resolve_of_reference (href.trans hr), resolve_of_reference hr]
  | none =>
    have hkind : (effectiveType (.mapping es)).1 = (effectiveType (.mapping fs)).1 := by
      rw [← effectiveType_of_entries? hv, ← effectiveType_of_entries? hw, htype]
    have hform := (Form.rel_of_fieldsRel hfields hrefl hmapping hkind).imp hparts
    have hrequired : requiredNames v = requiredNames w := by
      rw [requiredNames, requiredNames, hf "required" (by decide)]
    rw [resolve_of_not_reference hv (href.trans hr), resolve_of_not_reference hw hr,
      outline_congr hv hw htype hfields,
      complete_congr hform _ hrequired (congrArg Prod.fst htype) (hf "format" (by decide))]

end

end Schema
end ServiceCatalog
