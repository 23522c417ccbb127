import ServiceCatalog.Proofs.Imports
import ServiceCatalog.Proofs.Related
import ServiceCatalog.Proofs.SameType

/-!
# What the models of schemas look like

The model of a schema is a tree: a container links to the model of its element, and a composition
or an interface has the models of its parts as properties.  Each model is made in one of eight ways,
and what every node of the tree satisfies is `IsConsistent`.  It speaks of the node together with
the schema it stands for, since the properties are counted and named against what that schema
declares.

* `resolved` says what the model of a schema is made of, form by form, in terms of the schema alone:
  which keyword holds the element and which one holds the parts (`declaredElement`,
  `declaredParts`).
* `IsModelOf.link` and `IsModelOf.properties`: the children of the model of a schema are the models
  of the schemas declared in it.  So every node is the model of some schema (`Node.isModelOf`).
* `IsModelOf.isConsistent`: the model of a schema is consistent.  Only the names of a container need
  an induction, along its links, because a container takes them from its element.
-/

namespace ServiceCatalog
namespace Schema

open Model

/-! ## What a schema declares -/

/-- The schemas under a keyword that holds a list of them. -/
def declaredMembers (schema : Value) (key : String) : List Value :=
  (schema.field key).items?.getD []

/-- The schemas that the properties of a model stand for, each with the name that its model has.  An
interface names its properties, and the members of a composition are named like the whole. -/
def declaredParts (name : String) (schema : Value) : Shape → List (String × Value)
  | .interface => (schema.field "properties").entries.map fun p => (p.1.plainText, p.2)
  | .oneOf => (declaredMembers schema "oneOf").map (Prod.mk name)
  | .anyOf => (declaredMembers schema "anyOf").map (Prod.mk name)
  | .allOf => (declaredMembers schema "allOf").map (Prod.mk name)
  | _ => []

/-- The schema that the element of a container stands for. -/
def declaredElement (schema : Value) : Shape → Value
  | .array => schema.field "items"
  | .dictionary => schema.field "additionalProperties"
  | _ => .null

/-! ## The model of a schema, form by form -/

/-- The ways in which the model of a schema is made. -/
inductive Resolved (name : String) (isDefinition : Bool) (schema : Value) : Model → Prop
  | nothing : Resolved name isDefinition schema { name := name, isDefinition := isDefinition }
  | reference {ref : String} (href : schema.reference? = some ref) :
      Resolved name isDefinition schema
        { ofReference ref with name := name, isDefinition := isDefinition }
  | enumeration (values : List Value) :
      Resolved name isDefinition schema (asEnum (outline name isDefinition schema) values)
  | containerOfReference {shape : Shape} {ref : String} (hshape : IsContainer shape)
      (href : (declaredElement schema shape).reference? = some ref) :
      Resolved name isDefinition schema
        (asContainerOfReference (outline name isDefinition schema) shape ref)
  | container {shape : Shape} (hshape : IsContainer shape)
      (href : (declaredElement schema shape).reference? = none) :
      Resolved name isDefinition schema
        (asContainer (outline name isDefinition schema) shape
          (resolve name false (declaredElement schema shape)))
  | composition {shape : Shape} (hshape : IsComposition shape) :
      Resolved name isDefinition schema
        (asComposition (outline name isDefinition schema) shape
          ((declaredParts name schema shape).map fun p => resolve p.1 false p.2))
  | interface :
      Resolved name isDefinition schema
        (asInterface (outline name isDefinition schema)
          ((schema.field "properties").entries.map (property (requiredNames schema))))
  | primitive (type : String) :
      Resolved name isDefinition schema (asPrimitive (outline name isDefinition schema) type)

section forms

variable {schema : Value} {es : Entries} {key name : String} {isDefinition : Bool}

theorem field_eq_getD (hs : schema.entries? = some es) (key : String) :
    schema.field key = (es.get? key).getD .null := by
  rw [Value.field, Value.field?, Value.entries, hs, Option.getD_some]

theorem declaredMembers_of_nonemptyItems? (hs : schema.entries? = some es) {vs : List Value}
    (h : nonemptyItems? (es.get? key) = some vs) : declaredMembers schema key = vs := by
  unfold nonemptyItems? at h
  split at h
  · rename_i w ws hw
    cases h
    obtain ⟨v, hv, hitems⟩ := Option.bind_eq_some_iff.mp hw
    rw [declaredMembers, field_eq_getD hs, hv, Option.getD_some, hitems, Option.getD_some]
  · cases h

theorem declaredParts_of_composition? (hs : schema.entries? = some es) {shape : Shape}
    {vs : List Value} (h : composition? es = some (shape, vs)) (name : String) :
    declaredParts name schema shape = vs.map (Prod.mk name) := by
  unfold composition? at h
  split at h
  · cases h
    rw [declaredParts, declaredMembers_of_nonemptyItems? hs ‹_›]
  · split at h
    · cases h
      rw [declaredParts, declaredMembers_of_nonemptyItems? hs ‹_›]
    · split at h
      · cases h
        rw [declaredParts, declaredMembers_of_nonemptyItems? hs ‹_›]
      · cases h

theorem entries_of_properties? (hs : schema.entries? = some es) {kind : Option String}
    {ps : Entries} (h : properties? kind es = some ps) :
    (schema.field "properties").entries = ps := by
  unfold properties? at h
  split at h
  · rename_i declared hd
    split at h
    · cases h
      obtain ⟨v, hv, hentries⟩ := Option.bind_eq_some_iff.mp hd
      rw [field_eq_getD hs, hv, Option.getD_some, Value.entries, hentries, Option.getD_some]
    · cases h
  · cases h

theorem field_of_dictionaryElement? (hs : schema.entries? = some es) {kind : Option String}
    {element : Value} (h : dictionaryElement? kind es = some element) :
    schema.field "additionalProperties" = element := by
  unfold dictionaryElement? at h
  split at h
  · rename_i additional ha
    split at h
    · cases h
      rw [field_eq_getD hs, ha, Option.getD_some]
    · cases h
  · cases h

theorem resolved_contain {shape : Shape} (hshape : IsContainer shape) :
    Resolved name isDefinition schema
      (contain (outline name isDefinition schema) shape (declaredElement schema shape)) := by
  unfold contain
  split
  · exact .containerOfReference hshape ‹_›
  · exact .container hshape ‹_›

/-- The outline of a schema, completed by its form, is made from what the schema declares. -/
theorem resolved_complete (hs : schema.entries? = some es) :
    Resolved name isDefinition schema
      (complete (outline name isDefinition schema) schema (Form.of es)) := by
  unfold Form.of
  simp only
  split
  · exact .enumeration _
  · split
    · have harray := @resolved_contain schema name isDefinition .array (.inl rfl)
      rw [declaredElement, field_eq_getD hs] at harray
      exact harray
    · split
      · have hdictionary := @resolved_contain schema name isDefinition .dictionary (.inr rfl)
        rw [declaredElement, field_of_dictionaryElement? hs ‹_›] at hdictionary
        exact hdictionary
      · split
        · rename_i shape vs hc
          have hcomposition : Resolved name isDefinition schema _ :=
            .composition (isComposition_of_composition? hc)
          rw [declaredParts_of_composition? hs hc, List.map_map] at hcomposition
          exact hcomposition
        · split
          · have hinterface : Resolved name isDefinition schema _ := .interface
            rw [entries_of_properties? hs ‹_›] at hinterface
            exact hinterface
          · exact .primitive _

end forms

/-- **What the model of a schema is made of.** -/
theorem resolved (name : String) (isDefinition : Bool) (schema : Value) :
    Resolved name isDefinition schema (resolve name isDefinition schema) := by
  cases hs : schema.entries? with
  | none =>
    rw [resolve_of_not_mapping (by rw [Value.isMapping, hs]; rfl)]
    exact .nothing
  | some es =>
    cases hr : schema.reference? with
    | some ref =>
      rw [resolve_of_reference hr]
      exact .reference hr
    | none =>
      rw [resolve_of_not_reference hs hr]
      exact resolved_complete hs

/-! ## Children -/

/-- A model is that of a schema under a name, or differs from it in being required. -/
def IsModelOf (name : String) (schema : Value) (m : Model) : Prop :=
  ∃ isDefinition isRequired, m = { resolve name isDefinition schema with isRequired := isRequired }

theorem isModelOf_resolve (name : String) (isDefinition : Bool) (schema : Value) :
    IsModelOf name schema (resolve name isDefinition schema) :=
  ⟨isDefinition, (resolve name isDefinition schema).isRequired, by
    cases resolve name isDefinition schema
    rfl⟩

section children

variable {name : String} {schema : Value} {m l : Model}

theorem IsModelOf.exists_resolved (h : IsModelOf name schema m) :
    ∃ isDefinition isRequired n, Resolved name isDefinition schema n ∧
      m = { n with isRequired := isRequired } := by
  obtain ⟨isDefinition, isRequired, hm⟩ := h
  exact ⟨isDefinition, isRequired, _, resolved name isDefinition schema, hm⟩

/-- Only a reference gives a handle on a named type. -/
theorem IsModelOf.shape_ne_reference (h : IsModelOf name schema m)
    (href : schema.reference? = none) : m.shape ≠ .reference := by
  obtain ⟨isDefinition, isRequired, n, hn, rfl⟩ := h.exists_resolved
  cases hn with
  | reference href' => rw [href] at href'; cases href'
  | containerOfReference hshape => exact hshape.ne_reference
  | container hshape => exact hshape.ne_reference
  | composition hshape => exact hshape.ne.1
  | _ => exact nofun

/-- The link of a container leads to the model of its element, which is no reference, and the
container has the names of that model. -/
theorem IsModelOf.link (h : IsModelOf name schema m) (hl : m.link = some l) :
    IsContainer m.shape ∧ (declaredElement schema m.shape).reference? = none ∧
      IsModelOf name (declaredElement schema m.shape) l ∧ m.names = l.names := by
  obtain ⟨isDefinition, isRequired, n, hn, rfl⟩ := h.exists_resolved
  cases hn with
  | container hshape href =>
    cases hl
    exact ⟨hshape, href, isModelOf_resolve name false _, rfl⟩
  | @reference ref => rw [(ofReference_handle ref).2.1] at hl; cases hl
  | _ => cases hl

/-- The properties are the models of the declared parts. -/
theorem IsModelOf.properties (h : IsModelOf name schema m) :
    List.Forall₂ (fun p c => IsModelOf p.1 p.2 c) (declaredParts name schema m.shape)
      m.properties := by
  obtain ⟨isDefinition, isRequired, n, hn, rfl⟩ := h.exists_resolved
  cases hn with
  | composition hshape =>
    refine List.forall₂_map_right_iff.mpr (List.forall₂_same.mpr fun p _ => ?_)
    exact isModelOf_resolve p.1 false p.2
  | interface =>
    refine List.forall₂_map_left_iff.mpr (List.forall₂_map_right_iff.mpr ?_)
    exact List.forall₂_same.mpr fun p _ => ⟨false, _, rfl⟩
  | @reference ref =>
    obtain ⟨hshape, -, hproperties, -⟩ := ofReference_handle ref
    simp only [hshape, hproperties, declaredParts]
    exact .nil
  | containerOfReference hshape => rcases hshape with rfl | rfl <;> exact .nil
  | container hshape => rcases hshape with rfl | rfl <;> exact .nil
  | _ => exact .nil

end children

/-! ## Consistent models -/

/-- A type is its base, or its base applied to its template. -/
def typeText (base : String) : Option String → String
  | none => base
  | some template => s!"{base}<{template}>"

/-- The element of a container is a reference, or a container whose element is one, and so on. -/
inductive EndsAtReference : Value → Model → Prop
  | element {schema : Value} {m : Model} {ref : String} (hshape : IsContainer m.shape)
      (hl : m.link = none) (href : (declaredElement schema m.shape).reference? = some ref) :
      EndsAtReference schema m
  | link {schema : Value} {m l : Model} (hshape : IsContainer m.shape) (hl : m.link = some l)
      (h : EndsAtReference (declaredElement schema m.shape) l) : EndsAtReference schema m

/-- **The invariant of a model** for a schema under a name. -/
structure IsConsistent (name : String) (schema : Value) (m : Model) : Prop where
  name_eq : m.name = name
  type_eq : m.type = typeText m.base m.template
  /-- Only containers link, to an element of their own name and type. -/
  link : ∀ l, m.link = some l → IsContainer m.shape ∧ l.name = name ∧ m.names = l.names
  /-- Only a generic type that is referred to has a template. -/
  template : m.template ≠ none → m.shape = .reference ∨ EndsAtReference schema m
  members : m.members ≠ [] → m.shape = .enumeration
  properties : m.properties ≠ [] → m.shape = .interface ∨ IsComposition m.shape
  /-- There is one property for each declared part, in order and under its name. -/
  names_eq : m.properties.map Model.name = (declaredParts name schema m.shape).map Prod.fst
  enums_eq : m.enums =
    if m.shape = .interface then m.properties.filter fun p => p.shape = .enumeration else []
  any : m.shape = .interface ∨ IsComposition m.shape → m.type = "any" ∧ m.base = "any"

theorem members_and_enums_ofReference (ref : String) :
    (ofReference ref).members = [] ∧ (ofReference ref).enums = [] := by
  unfold ofReference
  simp only
  split <;> exact ⟨rfl, rfl⟩

theorem type_ofReference (ref : String) :
    (ofReference ref).type = typeText (ofReference ref).base (ofReference ref).template := by
  unfold ofReference
  simp only
  split <;> rfl

section consistent

variable {name : String} {schema : Value} {m : Model}

theorem IsModelOf.name_eq (h : IsModelOf name schema m) : m.name = name := by
  obtain ⟨isDefinition, isRequired, n, hn, rfl⟩ := h.exists_resolved
  cases hn <;> rfl

/-- A type is made of its base and its template, in a container because it is in the element. -/
theorem IsModelOf.type_eq (h : IsModelOf name schema m) : m.type = typeText m.base m.template := by
  induction m using linkInduction generalizing schema with
  | unlinked m hl =>
    obtain ⟨isDefinition, isRequired, n, hn, rfl⟩ := h.exists_resolved
    cases hn with
    | @reference ref => exact type_ofReference ref
    | @containerOfReference shape ref => exact type_ofReference ref
    | container => cases hl
    | _ => rfl
  | linked m l hl ih =>
    obtain ⟨-, -, hmodel, hnames⟩ := h.link hl
    simp only [names, Prod.mk.injEq] at hnames
    rw [hnames.1, hnames.2.1, hnames.2.2]
    exact ih hmodel

/-- A template comes from a reference, at the node or at the end of its links. -/
theorem IsModelOf.template (h : IsModelOf name schema m) (htemplate : m.template ≠ none) :
    m.shape = .reference ∨ EndsAtReference schema m := by
  induction m using linkInduction generalizing schema with
  | unlinked m hl =>
    obtain ⟨isDefinition, isRequired, n, hn, rfl⟩ := h.exists_resolved
    cases hn with
    | @reference ref => exact .inl (ofReference_handle ref).1
    | containerOfReference hshape href => exact .inr (.element hshape rfl href)
    | container => cases hl
    | _ => exact absurd rfl htemplate
  | linked m l hl ih =>
    obtain ⟨hshape, href, hmodel, hnames⟩ := h.link hl
    simp only [names, Prod.mk.injEq] at hnames
    rw [hnames.2.2] at htemplate
    have hend := (ih hmodel htemplate).resolve_left (hmodel.shape_ne_reference href)
    exact .inr (.link hshape hl hend)

theorem IsModelOf.members (h : IsModelOf name schema m) (hne : m.members ≠ []) :
    m.shape = .enumeration := by
  obtain ⟨isDefinition, isRequired, n, hn, rfl⟩ := h.exists_resolved
  cases hn with
  | @reference ref => exact absurd (members_and_enums_ofReference ref).1 hne
  | enumeration => rfl
  | _ => exact absurd rfl hne

/-- Where nothing is declared there are no properties. -/
theorem IsModelOf.shape_of_properties (h : IsModelOf name schema m) (hne : m.properties ≠ []) :
    m.shape = .interface ∨ IsComposition m.shape := by
  have hparts := h.properties
  cases hshape : m.shape with
  | interface => exact .inl rfl
  | oneOf => exact .inr (.inl rfl)
  | anyOf => exact .inr (.inr (.inl rfl))
  | allOf => exact .inr (.inr (.inr rfl))
  | _ =>
    rw [hshape] at hparts
    exact absurd (List.forall₂_nil_left_iff.mp hparts) hne

theorem IsModelOf.names_eq (h : IsModelOf name schema m) :
    m.properties.map Model.name = (declaredParts name schema m.shape).map Prod.fst :=
  (map_eq_of_forall₂ h.properties fun _ _ hc => hc.name_eq.symm).symm

theorem IsModelOf.enums_eq (h : IsModelOf name schema m) : m.enums =
    if m.shape = .interface then m.properties.filter fun p => p.shape = .enumeration else [] := by
  obtain ⟨isDefinition, isRequired, n, hn, rfl⟩ := h.exists_resolved
  cases hn with
  | @reference ref =>
    simp only [(ofReference_handle ref).1]
    exact (members_and_enums_ofReference ref).2
  | containerOfReference hshape => rcases hshape with rfl | rfl <;> rfl
  | container hshape => rcases hshape with rfl | rfl <;> rfl
  | composition hshape => rcases hshape with rfl | rfl | rfl <;> rfl
  | _ => rfl

/-- What may have properties is neither a reference nor a container. -/
theorem ne_of_hasParts {shape : Shape} (h : shape = .interface ∨ IsComposition shape) :
    shape ≠ .reference ∧ ¬ IsContainer shape := by
  rcases h with rfl | h
  · exact ⟨by decide, by simp [IsContainer]⟩
  · exact h.ne

theorem IsModelOf.any (h : IsModelOf name schema m)
    (hshape : m.shape = .interface ∨ IsComposition m.shape) : m.type = "any" ∧ m.base = "any" := by
  obtain ⟨isDefinition, isRequired, n, hn, rfl⟩ := h.exists_resolved
  cases hn with
  | composition => exact ⟨rfl, rfl⟩
  | interface => exact ⟨rfl, rfl⟩
  | @reference ref => exact absurd (ofReference_handle ref).1 (ne_of_hasParts hshape).1
  | containerOfReference hcontainer => exact absurd hcontainer (ne_of_hasParts hshape).2
  | container hcontainer => exact absurd hcontainer (ne_of_hasParts hshape).2
  | _ => rcases hshape with h | h | h | h <;> cases h

/-- **The model of a schema is consistent.** -/
theorem IsModelOf.isConsistent (h : IsModelOf name schema m) : IsConsistent name schema m where
  name_eq := h.name_eq
  type_eq := h.type_eq
  link l hl := by
    obtain ⟨hshape, -, hmodel, hnames⟩ := h.link hl
    exact ⟨hshape, hmodel.name_eq, hnames⟩
  template := h.template
  members := h.members
  properties := h.shape_of_properties
  names_eq := h.names_eq
  enums_eq := h.enums_eq
  any := h.any

end consistent

/-! ## Nodes -/

/-- The nodes of the model of a schema, through links and properties, each with the name and the
schema that it stands for. -/
inductive Node (name : String) (schema : Value) (root : Model) : String → Value → Model → Prop
  | root : Node name schema root name schema root
  | link {n : String} {s : Value} {m l : Model} (h : Node name schema root n s m)
      (hl : m.link = some l) : Node name schema root n (declaredElement s m.shape) l
  | property {n : String} {s : Value} {m c : Model} {i : Nat} {p : String × Value}
      (h : Node name schema root n s m) (hp : (declaredParts n s m.shape)[i]? = some p)
      (hc : m.properties[i]? = some c) : Node name schema root p.1 p.2 c

section nodes

variable {name n : String} {schema s : Value} {root m x : Model}

/-- Every node is the model of the schema that it stands for. -/
theorem Node.isModelOf (h : Node name schema root n s m) (hroot : IsModelOf name schema root) :
    IsModelOf n s m := by
  induction h with
  | root => exact hroot
  | link _ hl ih => exact (ih.link hl).2.2.1
  | property _ hp hc ih =>
    obtain ⟨c', hc', hmodel⟩ := exists_getElem?_of_forall₂ ih.properties hp
    cases hc.symm.trans hc'
    exact hmodel

/-- Every model inside of the model of a schema is a node: no property goes without a schema that it
stands for. -/
theorem Node.exists_of_inside (h : Node name schema root n s m)
    (hroot : IsModelOf name schema root) (hx : Inside x m) :
    ∃ n' s', Node name schema root n' s' x := by
  induction hx generalizing n s with
  | self => exact ⟨n, s, h⟩
  | link hl _ ih => exact ih (h.link hl)
  | @property c m hc _ ih =>
    obtain ⟨i, hi⟩ := List.getElem?_of_mem hc
    obtain ⟨p, hp, -⟩ := exists_getElem?_of_forall₂ (h.isModelOf hroot).properties.flip hi
    exact ih (h.property hp hi)

end nodes

/-- **Every node of the model of a schema is consistent**, and every model inside of it is such a
node. -/
theorem resolve_consistent (name : String) (isDefinition : Bool) (schema : Value) :
    (∀ n s m, Node name schema (resolve name isDefinition schema) n s m → IsConsistent n s m) ∧
      ∀ m, Inside m (resolve name isDefinition schema) →
        ∃ n s, Node name schema (resolve name isDefinition schema) n s m := by
  have hroot := isModelOf_resolve name isDefinition schema
  exact ⟨fun n s m h => (h.isModelOf hroot).isConsistent, fun m hm =>
    Node.root.exists_of_inside hroot hm⟩

/-- A grid of pages, each of which is a generic type. -/
def samplePages : Value :=
  .mapping [(.text "type", .text "array"),
    (.text "items", .mapping [(.text "type", .text "array"),
      (.text "items", .mapping [(.text "$ref", .text "#/components/schemas/Page[Pet]")])])]

/-- An object with an enum and the grid. -/
def sampleShelf : Value :=
  .mapping [
    (.text "type", .text "object"),
    (.text "properties", .mapping [
      (.text "state", .mapping [(.text "enum", .list [.text "open", .text "closed"])]),
      (.text "pages", samplePages)])]

/-- The grid has a template, which comes from the reference two levels below. -/
theorem resolve_consistent_sampleShelf :
    ∃ m, Node "Shelf" sampleShelf (resolve "Shelf" true sampleShelf) "pages" samplePages m ∧
      m.template = some "Pet" ∧ IsConsistent "pages" samplePages m := by
  have hshape : (resolve "Shelf" true sampleShelf).shape = .interface := by decide +kernel
  have hpages : (resolve "Shelf" true sampleShelf).properties[1]?.map Model.template =
      some (some "Pet") := by decide +kernel
  obtain ⟨m, hm, htemplate⟩ := Option.map_eq_some_iff.mp hpages
  have hpart : (declaredParts "Shelf" sampleShelf (resolve "Shelf" true sampleShelf).shape)[1]? =
      some ("pages", samplePages) := by
    rw [hshape]
    rfl
  have hnode := Node.root.property hpart hm
  exact ⟨m, hnode, htemplate, (resolve_consistent "Shelf" true sampleShelf).1 _ _ _ hnode⟩

end Schema
end ServiceCatalog
