import ServiceCatalog.Schema.Resolve

/-!
# Induction over schemas

A schema is taken apart by its form, and the model of a schema is put together from the models of
the parts.  A property of all models of schemas is therefore shown form by form
(`resolve_induction`), with the property of the parts at hand.  The induction itself is over the
size of the schema: what a form holds is smaller than the schema (`Form.sizeOf_lt_of_mem_parts`),
although it is not always directly inside of it.
-/

namespace ServiceCatalog
namespace Schema

/-- Induction from the parts of a schema to the schema. -/
@[elab_as_elim] theorem partInduction {P : Value → Prop}
    (whole : ∀ v, (∀ es, v.entries? = some es → ∀ w ∈ (Form.of es).parts, P w) → P v)
    (v : Value) : P v := by
  refine whole v fun es hes w hw => ?_
  have hlt : sizeOf w < sizeOf v :=
    Nat.lt_trans (Form.sizeOf_lt_of_mem_parts hw) (Value.sizeOf_entries?_lt hes)
  exact partInduction whole w
termination_by sizeOf v
decreasing_by exact hlt

/-- An array or a dictionary: what has one element. -/
def IsContainer (s : Shape) : Prop := s = .array ∨ s = .dictionary

/-- A composition: what has members. -/
def IsComposition (s : Shape) : Prop := s = .oneOf ∨ s = .anyOf ∨ s = .allOf

theorem isComposition_of_composition? {es : Entries} {shape : Shape} {members : List Value}
    (h : composition? es = some (shape, members)) : IsComposition shape := by
  unfold composition? at h
  split at h
  · cases h
    exact .inl rfl
  · split at h
    · cases h
      exact .inr (.inl rfl)
    · split at h
      · cases h
        exact .inr (.inr rfl)
      · cases h

/-- The form of a composition is one. -/
theorem Form.isComposition {es : Entries} {shape : Shape} {members : List Value}
    (h : Form.of es = .composition shape members) : IsComposition shape := by
  unfold Form.of at h
  simp only at h
  split at h
  · cases h
  · split at h
    · cases h
    · split at h
      · cases h
      · split at h
        · rename_i hc
          cases h
          exact isComposition_of_composition? hc
        · split at h <;> cases h

/-- **What every form hands on from the parts to the whole holds of the model of every schema.** -/
theorem resolve_induction {P : Model → Prop}
    (nothing : ∀ name isDefinition, P { name := name, isDefinition := isDefinition })
    (reference : ∀ name isDefinition ref,
      P { ofReference ref with name := name, isDefinition := isDefinition })
    (enumeration : ∀ name isDefinition schema values,
      P (asEnum (outline name isDefinition schema) values))
    (containerOfReference : ∀ name isDefinition schema shape ref, IsContainer shape →
      P (asContainerOfReference (outline name isDefinition schema) shape ref))
    (container : ∀ name isDefinition schema shape element, IsContainer shape → P element →
      P (asContainer (outline name isDefinition schema) shape element))
    (composition : ∀ name isDefinition schema shape members, IsComposition shape →
      (∀ m ∈ members, P m) →
      P (asComposition (outline name isDefinition schema) shape members))
    (required : ∀ m isRequired, P m → P { m with isRequired := isRequired })
    (interface : ∀ name isDefinition schema properties, (∀ m ∈ properties, P m) →
      P (asInterface (outline name isDefinition schema) properties))
    (primitive : ∀ name isDefinition schema kind format,
      P (asPrimitive (outline name isDefinition schema) (primitiveType kind format)))
    (name : String) (isDefinition : Bool) (schema : Value) :
    P (resolve name isDefinition schema) := by
  induction schema using partInduction generalizing name isDefinition with
  | whole schema ih =>
    cases hs : schema.entries? with
    | none =>
      rw [resolve_of_not_mapping (by simp [Value.isMapping, hs])]
      exact nothing name isDefinition
    | some es =>
      cases hr : schema.reference? with
      | some ref =>
        rw [resolve_of_reference hr]
        exact reference name isDefinition ref
      | none =>
        have hparts := ih es hs
        have hcontain : ∀ shape element, IsContainer shape →
            (∀ name isDefinition, P (resolve name isDefinition element)) →
            P (contain (outline name isDefinition schema) shape element) := by
          intro shape element hshape helement
          unfold contain
          split
          · exact containerOfReference name isDefinition schema shape _ hshape
          · exact container name isDefinition schema shape _ hshape (helement _ _)
        rw [resolve_of_not_reference hs hr]
        cases hf : Form.of es with
        | enumeration values => exact enumeration name isDefinition schema values
        | array element =>
          refine hcontain .array _ (.inl rfl) ?_
          cases element with
          | none =>
            intro name isDefinition
            rw [Option.getD_none, resolve_of_not_mapping rfl]
            exact nothing name isDefinition
          | some element => exact hparts element (by simp [hf, Form.parts])
        | dictionary element =>
          exact hcontain .dictionary element (.inr rfl) (hparts element (by simp [hf, Form.parts]))
        | composition shape members =>
          refine composition name isDefinition schema shape _ (Form.isComposition hf) ?_
          intro m hm
          obtain ⟨v, hv, rfl⟩ := List.mem_map.mp hm
          exact hparts v (by simpa [hf, Form.parts] using hv) _ _
        | interface properties =>
          refine interface name isDefinition schema _ fun m hm => ?_
          obtain ⟨p, hp, rfl⟩ := List.mem_map.mp hm
          have hpart : p.2 ∈ (Form.of es).parts := by
            rw [hf]
            exact List.mem_map_of_mem hp
          exact required _ _ (hparts p.2 hpart _ _)
        | primitive => exact primitive name isDefinition schema _ _

end Schema
end ServiceCatalog
