import Mathlib.Data.List.Perm.Basic
import ServiceCatalog.Api.Service
import ServiceCatalog.Proofs.Descriptions
import ServiceCatalog.Proofs.Filing
import ServiceCatalog.Proofs.Results
import ServiceCatalog.Proofs.SchemaInduction
import ServiceCatalog.Proofs.Visits

/-!
# Imports are exact

Generated code imports the named types that it mentions.  Every function that puts a model together
appends imports by hand, and a type that one of them forgets is code that does not compile.  Which
types a model mentions can be read off the finished model: `Model.named` follows links and
properties down to the references.  This file shows that the two agree, first for the models of
schemas, at every depth (`importsExact_resolve`), then for parameters, bodies and responses, and at
last for operations and services.

## Depth

`Model.Inside x m` says that `x` is `m` or a model that `m` is made of, through links and
properties; enums are listed twice and are among the properties.  What is shown of all models inside
of a model follows its structure (`importsExact_iff`), so each form needs one short argument.
-/

namespace ServiceCatalog

open Attempt Schema

/-! ## Named types -/

namespace Model

/-- A property of a model is smaller than the model. -/
theorem sizeOf_property_lt {m p : Model} (h : p ∈ m.properties) : sizeOf p < sizeOf m := by
  have hlt := List.sizeOf_lt_of_mem h
  cases m
  simp only at hlt
  simp
  omega

/-- The named types that a model mentions, in the order in which they occur.  An array or a
dictionary without a link has a named type for its element. -/
def named (m : Model) : List String :=
  if m.shape = .reference ∨ (m.shape = .array ∨ m.shape = .dictionary) ∧ m.link.isNone then
    m.base :: m.template.toList
  else
    match _h : m.link with
    | some l => named l
    | none => m.properties.attach.flatMap fun p => named p.1
termination_by sizeOf m
decreasing_by
  · exact sizeOf_link_lt ‹m.link = some l›
  · exact sizeOf_property_lt p.2

theorem named_of_reference {m : Model} (h : m.shape = .reference) :
    m.named = m.base :: m.template.toList := by
  rw [named, if_pos (.inl h)]

theorem named_of_unlinked {m : Model} (hs : IsContainer m.shape) (h : m.link = none) :
    m.named = m.base :: m.template.toList := by
  rw [named, if_pos (.inr ⟨hs, by simp [h]⟩)]

theorem named_of_link {m l : Model} (hs : m.shape ≠ .reference) (h : m.link = some l) :
    m.named = l.named := by
  rw [named, if_neg (by simp [hs, h])]
  split <;> simp_all

theorem named_of_properties {m : Model} (hs : m.shape ≠ .reference) (hc : ¬ IsContainer m.shape)
    (h : m.link = none) : m.named = m.properties.flatMap named := by
  rw [named, if_neg (by rintro (hr | ⟨hr, -⟩); exacts [hs hr, hc hr])]
  split
  · simp_all
  · rw [List.flatMap_def, List.attach_map_val (f := named), ← List.flatMap_def]

/-- Only five fields say which types a model mentions. -/
theorem named_congr {m n : Model} (hshape : m.shape = n.shape) (hbase : m.base = n.base)
    (htemplate : m.template = n.template) (hlink : m.link = n.link)
    (hproperties : m.properties = n.properties) : m.named = n.named := by
  by_cases hr : m.shape = .reference
  · rw [named_of_reference hr, named_of_reference (hshape ▸ hr), hbase, htemplate]
  · cases hl : m.link with
    | some l =>
      have hn : n.named = l.named := named_of_link (hshape ▸ hr) (hlink ▸ hl)
      rw [named_of_link hr hl, hn]
    | none =>
      by_cases hc : IsContainer m.shape
      · rw [named_of_unlinked hc hl, named_of_unlinked (hshape ▸ hc) (hlink ▸ hl), hbase,
          htemplate]
      · rw [named_of_properties hr hc hl,
          named_of_properties (hshape ▸ hr) (hshape ▸ hc) (hlink ▸ hl), hproperties]

/-! ## Models inside of models -/

/-- A model is another one, or what the other one is made of. -/
inductive Inside : Model → Model → Prop where
  | self (m : Model) : Inside m m
  | link {x l m : Model} (h : m.link = some l) (hx : Inside x l) : Inside x m
  | property {x p m : Model} (h : p ∈ m.properties) (hx : Inside x p) : Inside x m

/-- Everything inside of a model imports exactly what it mentions. -/
def ImportsExact (m : Model) : Prop := ∀ x, Inside x m → x.imports = x.named

theorem importsExact_iff {m : Model} :
    m.ImportsExact ↔ m.imports = m.named ∧ (∀ l, m.link = some l → l.ImportsExact) ∧
      ∀ p ∈ m.properties, p.ImportsExact := by
  constructor
  · intro h
    exact ⟨h m (.self m), fun l hl x hx => h x (.link hl hx), fun p hp x hx =>
      h x (.property hp hx)⟩
  · rintro ⟨hself, hlink, hproperty⟩ x hx
    cases hx with
    | self => exact hself
    | link hl hx => exact hlink _ hl x hx
    | property hp hx => exact hproperty _ hp x hx

theorem ImportsExact.self {m : Model} (h : m.ImportsExact) : m.imports = m.named := h m (.self m)

/-- A model of one piece. -/
theorem importsExact_of_plain {m : Model} (hs : m.shape ≠ .reference) (hc : ¬ IsContainer m.shape)
    (hl : m.link = none) (hp : m.properties = []) (hi : m.imports = []) : m.ImportsExact := by
  rw [importsExact_iff, named_of_properties hs hc hl, hp, hi, hl]
  simp

/-- A model of a named type. -/
theorem importsExact_of_handle {m : Model}
    (hs : m.shape = .reference ∨ IsContainer m.shape) (hl : m.link = none)
    (hp : m.properties = []) (hi : m.imports = m.base :: m.template.toList) : m.ImportsExact := by
  have hnamed : m.named = m.base :: m.template.toList := by
    rcases hs with hs | hs
    · exact named_of_reference hs
    · exact named_of_unlinked hs hl
  rw [importsExact_iff, hnamed, hp, hi, hl]
  simp

/-- A model with parts. -/
theorem importsExact_of_properties {m : Model} (hs : m.shape ≠ .reference)
    (hc : ¬ IsContainer m.shape) (hl : m.link = none)
    (hp : ∀ p ∈ m.properties, p.ImportsExact)
    (hi : m.imports = m.properties.flatMap imports) : m.ImportsExact := by
  refine importsExact_iff.mpr ⟨?_, by simp [hl], hp⟩
  rw [hi, named_of_properties hs hc hl]
  exact List.flatMap_congr fun p hp' => (hp p hp').self

end Model

/-! ## The models of schemas -/

namespace Schema

open Model

theorem ofReference_handle (ref : String) :
    (ofReference ref).shape = .reference ∧ (ofReference ref).link = none ∧
      (ofReference ref).properties = [] ∧
      (ofReference ref).imports = (ofReference ref).base :: (ofReference ref).template.toList := by
  unfold ofReference
  simp only
  split <;> exact ⟨rfl, rfl, rfl, rfl⟩

theorem imports_ofReference (ref : String) :
    (ofReference ref).imports = (ofReference ref).base :: (ofReference ref).template.toList :=
  (ofReference_handle ref).2.2.2

/-- A composition is neither a reference nor a container. -/
theorem IsComposition.ne {s : Shape} (h : IsComposition s) : s ≠ .reference ∧ ¬ IsContainer s := by
  rcases h with rfl | rfl | rfl <;> exact ⟨by decide, by simp [IsContainer]⟩

theorem IsContainer.ne_reference {s : Shape} (h : IsContainer s) : s ≠ .reference := by
  rcases h with rfl | rfl <;> decide

/-- **The model of a schema imports exactly what it mentions, at every depth.** -/
theorem importsExact_resolve (name : String) (isDefinition : Bool) (schema : Value) :
    (resolve name isDefinition schema).ImportsExact := by
  have hplain : ∀ s, s = Shape.generic ∨ s = .enumeration ∨ s = .interface →
      s ≠ .reference ∧ ¬ IsContainer s := by
    rintro s (rfl | rfl | rfl) <;> exact ⟨by decide, by simp [IsContainer]⟩
  apply resolve_induction (P := ImportsExact)
  case nothing =>
    intro name isDefinition
    obtain ⟨hs, hc⟩ := hplain .generic (.inl rfl)
    exact importsExact_of_plain hs hc rfl rfl rfl
  case reference =>
    intro name isDefinition ref
    obtain ⟨hs, hl, hp, hi⟩ := ofReference_handle ref
    exact importsExact_of_handle (.inl hs) hl hp hi
  case enumeration =>
    intro name isDefinition schema values
    obtain ⟨hs, hc⟩ := hplain .enumeration (.inr (.inl rfl))
    exact importsExact_of_plain hs hc rfl rfl rfl
  case containerOfReference =>
    intro name isDefinition schema shape ref hshape
    exact importsExact_of_handle (.inr hshape) rfl rfl (imports_ofReference ref)
  case container =>
    intro name isDefinition schema shape element hshape helement
    refine importsExact_iff.mpr ⟨?_, ?_, ?_⟩
    · rw [named_of_link (l := element) hshape.ne_reference rfl]
      exact helement.self
    · intro l hl
      exact Option.some.inj hl ▸ helement
    · intro p hp
      exact absurd hp List.not_mem_nil
  case composition =>
    intro name isDefinition schema shape members hshape hmembers
    obtain ⟨hs, hc⟩ := hshape.ne
    exact importsExact_of_properties hs hc rfl hmembers rfl
  case required =>
    intro m isRequired hm
    obtain ⟨hself, hlink, hproperty⟩ := importsExact_iff.mp hm
    refine importsExact_iff.mpr ⟨?_, hlink, hproperty⟩
    exact hself.trans (named_congr rfl rfl rfl rfl rfl)
  case interface =>
    intro name isDefinition schema properties hproperties
    obtain ⟨hs, hc⟩ := hplain .interface (.inr (.inr rfl))
    exact importsExact_of_properties hs hc rfl hproperties rfl
  case primitive =>
    intro name isDefinition schema kind format
    obtain ⟨hs, hc⟩ := hplain .generic (.inl rfl)
    exact importsExact_of_plain hs hc rfl rfl rfl

end Schema

/-! ## Targets -/

namespace Model

/-- A target that no schema has been assigned to yet. -/
structure Unassigned (m : Model) : Prop where
  shape : m.shape = .generic ∨ m.shape = .interface
  link : m.link = none
  properties : m.properties = []
  imports : m.imports = []

theorem Unassigned.imports_eq {m : Model} (h : m.Unassigned) : m.imports = m.named := by
  have hs : m.shape ≠ .reference ∧ ¬ IsContainer m.shape := by
    rcases h.shape with hs | hs <;> rw [hs] <;> exact ⟨by decide, by simp [IsContainer]⟩
  exact (importsExact_of_plain hs.1 hs.2 h.link h.properties h.imports).self

/-- A handle on a named type imports the type. -/
theorem Unassigned.refer {m : Model} (h : m.Unassigned) (ref : String) :
    (m.refer (ofReference ref)).imports = (m.refer (ofReference ref)).named := by
  rw [named_of_reference rfl]
  show m.imports ++ (ofReference ref).imports = _
  rw [h.imports, List.nil_append, imports_ofReference]
  rfl

/-- A target with the type of a schema imports what the schema imports. -/
theorem Unassigned.adopt {m : Model} (h : m.Unassigned) (schema : Value) (merge : Bool) :
    (m.adopt (resolve "" false schema) merge).imports =
      (m.adopt (resolve "" false schema) merge).named := by
  have hproperties : (m.adopt (resolve "" false schema) merge).properties =
      (resolve "" false schema).properties := by
    show m.properties ++ _ = _
    rw [h.properties, List.nil_append]
  have hnamed : (m.adopt (resolve "" false schema) merge).named =
      (resolve "" false schema).named := named_congr rfl rfl rfl rfl hproperties
  rw [hnamed, ← (importsExact_resolve "" false schema).self]
  show m.imports ++ _ = _
  rw [h.imports, List.nil_append]

end Model

variable {doc operation : Value} {settings : Settings}

namespace Parameter

theorem imports_withSchema {p : Parameter} (h : p.toModel.Unassigned) (schema : Value) :
    (p.withSchema schema).imports = (p.withSchema schema).named := by
  unfold withSchema
  split
  · exact (h.refer _).trans (Model.named_congr rfl rfl rfl rfl rfl)
  · split
    · exact (h.adopt schema true).trans (Model.named_congr rfl rfl rfl rfl rfl)
    · exact h.imports_eq

/-- A declared parameter imports exactly what it mentions. -/
theorem imports_of_kept? {v : Value} {p : Parameter} (h : kept? doc settings v = .ok (some p)) :
    p.imports = p.named := by
  obtain ⟨-, declaration, -, ho⟩ := exists_of_kept? h
  obtain ⟨location, schema, -, -, rfl⟩ := ofDeclaration?_eq_some ho
  exact imports_withSchema ⟨.inr rfl, rfl, rfl, rfl⟩ schema

end Parameter

/-- A body imports exactly what it mentions. -/
theorem imports_requestBody (declaration : Value) (mediaTypes : List String) :
    (requestBody declaration mediaTypes).imports = (requestBody declaration mediaTypes).named := by
  unfold requestBody
  cases hc : Content.select (declaration.field "content") mediaTypes with
  | none => exact Model.Unassigned.imports_eq ⟨.inr rfl, rfl, rfl, rfl⟩
  | some content =>
    simp only
    cases content.schema.reference? <;> cases isFormMediaType content.mediaType
    · exact Model.Unassigned.adopt ⟨.inr rfl, rfl, rfl, rfl⟩ _ _
    · exact Model.Unassigned.adopt ⟨.inr rfl, rfl, rfl, rfl⟩ _ _
    · exact Model.Unassigned.refer ⟨.inr rfl, rfl, rfl, rfl⟩ _
    · exact Model.Unassigned.refer ⟨.inr rfl, rfl, rfl, rfl⟩ _

namespace Response

theorem imports_withSchema {r : Response} (h : r.toModel.Unassigned) (schema : Value) :
    (r.withSchema schema).imports = (r.withSchema schema).named := by
  unfold withSchema
  split
  · exact h.refer _
  · exact h.adopt _ _

theorem unassigned_withHeaders {r : Response} (h : r.toModel.Unassigned) (headers : Value) :
    (r.withHeaders headers).toModel.Unassigned := by
  unfold withHeaders
  split
  · exact ⟨h.shape, h.link, h.properties, h.imports⟩
  · exact h

theorem imports_ofDeclaration {declaration : Value} {code : Int} {mediaTypes : List String}
    {r : Response} (h : ofDeclaration doc declaration code mediaTypes = .ok r) :
    r.imports = r.named := by
  have hstart : ∀ d, Model.Unassigned { description := d } := fun d => ⟨.inl rfl, rfl, rfl, rfl⟩
  rcases ofDeclaration_eq_ok h with ⟨content, schema, -, -, rfl⟩ | ⟨-, rfl⟩
  · exact imports_withSchema (hstart _) schema
  · exact (unassigned_withHeaders (hstart _) _).imports_eq

/-- A result imports exactly what it mentions, and the placeholder mentions nothing. -/
theorem imports_of_mem_results {responses : Value} {mediaTypes : List String}
    {rs : List Response} (h : declared doc responses mediaTypes = .ok rs) {r : Response}
    (hr : r ∈ results rs) : r.imports = r.named := by
  rcases eq_void_or_ofDeclaration_of_mem_results h hr with rfl | ⟨declaration, code, hof⟩
  · exact Model.Unassigned.imports_eq ⟨.inl rfl, rfl, rfl, rfl⟩
  · exact imports_ofDeclaration hof

end Response

/-! ## Operations and services -/

namespace Operation

theorem imports_of_bodyOf {body : Option Parameter}
    (h : bodyOf doc operation settings = .ok body) : ∀ b ∈ body, b.imports = b.named := by
  rintro b rfl
  rcases bodyOf_eq_ok h with hb | ⟨declaration, -, hb⟩
  · cases hb
  · rw [Option.some.inj hb]
    exact imports_requestBody declaration settings.mediaTypes

/-- The named types that the parameters and the results of an operation mention. -/
def mentioned (o : Operation) : List String :=
  (o.parameters.flatMap fun p => p.named) ++ o.results.flatMap fun r => r.named

/-- The imports of an operation are what its inputs and its results mention, in the order path,
operation, body, results. -/
theorem imports_of_ofDeclaration {path method : String} {declarations : Value}
    {inherited : Inputs} {o : Operation}
    (hpath : Inputs.declared doc settings declarations = .ok inherited)
    (ho : ofDeclaration doc path method operation inherited settings = .ok o) :
    ∃ ofPath own,
      Parameter.kept doc settings declarations = .ok ofPath ∧
      Parameter.kept doc settings (operation.field "parameters") = .ok own ∧
      o.parameters.Perm (ofPath ++ own ++ o.body.toList) ∧
      o.imports = (ofPath ++ own ++ o.body.toList).flatMap (fun p => p.named) ++
        o.results.flatMap fun r => r.named := by
  obtain ⟨ofPath, own, inputs, body, responses, hofPath, hown, hfiled, hbody, hresponses, ho',
    hobody, hparameters⟩ := exists_filed_of_ofDeclaration hpath ho
  have hinputs : ∀ p ∈ ofPath ++ own ++ body.toList, p.imports = p.named := by
    intro p hp
    rcases List.mem_append.mp hp with hp | hp
    · rcases List.mem_append.mp hp with hp | hp
      · exact Parameter.forall_of_kept (P := fun p => p.imports = p.named)
          (fun _ _ => Parameter.imports_of_kept?) hofPath p hp
      · exact Parameter.forall_of_kept (P := fun p => p.imports = p.named)
          (fun _ _ => Parameter.imports_of_kept?) hown p hp
    · exact imports_of_bodyOf hbody p (Option.mem_toList.mp hp)
  refine ⟨ofPath, own, hofPath, hown, ?_, ?_⟩
  · rw [hparameters, hobody]
    exact Parameter.mandatoryFirst_perm _
  · rw [hobody, ho']
    show (inputs.withBody? body).imports ++
      (Response.results responses).flatMap (fun r => r.imports) = _
    rw [Inputs.imports_withBody?, hfiled.imports_eq, ← List.flatMap_append,
      List.flatMap_congr hinputs,
      List.flatMap_congr fun r hr => Response.imports_of_mem_results hresponses hr]
    rfl

/-- As a multiset, the imports of an operation are what it mentions. -/
theorem imports_perm_mentioned {path method : String} {declarations : Value}
    {inherited : Inputs} {o : Operation}
    (hpath : Inputs.declared doc settings declarations = .ok inherited)
    (ho : ofDeclaration doc path method operation inherited settings = .ok o) :
    o.imports.Perm o.mentioned := by
  obtain ⟨ofPath, own, -, -, hperm, himports⟩ := imports_of_ofDeclaration hpath ho
  rw [himports]
  exact (hperm.symm.flatMap_right _).append_right _

end Operation

namespace Service

/-- **The invariant of a service.**  Its imports are those of its operations in order, and each
operation imports what it mentions. -/
structure ImportsExact (s : Service) : Prop where
  imports_eq : s.imports = s.operations.flatMap fun o => o.imports
  perm : ∀ o ∈ s.operations, o.imports.Perm o.mentioned

theorem ImportsExact.add {s : Service} (h : s.ImportsExact) {o : Operation}
    (ho : o.imports.Perm o.mentioned) : (s.add o).ImportsExact where
  imports_eq := by
    show s.imports ++ o.imports = (s.operations ++ [o]).flatMap fun o => o.imports
    rw [h.imports_eq, List.flatMap_append, List.flatMap_singleton]
  perm := by
    intro o' ho'
    rcases List.mem_append.mp ho' with hmem | hmem
    · exact h.perm o' hmem
    · exact List.mem_singleton.mp hmem ▸ ho

theorem importsExact_of_ofTag {tag : Value} {s : Service}
    (h : ofTag doc tag settings = .ok s) : s.ImportsExact := by
  refine (ofTag_induction (P := ImportsExact) ⟨rfl, ?_⟩ ?_ h).2
  · intro o ho
    exact absurd ho List.not_mem_nil
  · intro s key item method inherited o _ hi ho hs
    obtain ⟨path, -, hof⟩ := bind_eq_ok.mp ho
    rw [mapError_eq_ok] at hof
    exact hs.add (Operation.imports_perm_mentioned hi hof)

end Service

/-- **Imports are exact.**  The model of every schema imports what it mentions, and so does every
model inside of it.  An operation imports what the parameters of its path, its own parameters, its
body and its results mention, in this order; as a multiset that is what its `parameters` and its
`results` mention, and nothing of what was dropped on the way.  A service imports what its
operations import, one after the other. -/
theorem imports_exact (doc : Value) (settings : Settings) :
    (∀ name isDefinition schema, ∀ x, Model.Inside x (Schema.resolve name isDefinition schema) →
      x.imports = x.named) ∧
    (∀ path method operation declarations inherited o,
      Inputs.declared doc settings declarations = .ok inherited →
      Operation.ofDeclaration doc path method operation inherited settings = .ok o →
      ∃ ofPath own,
        Parameter.kept doc settings declarations = .ok ofPath ∧
        Parameter.kept doc settings (operation.field "parameters") = .ok own ∧
        o.imports = (ofPath ++ own ++ o.body.toList).flatMap (fun p => p.named) ++
          o.results.flatMap (fun r => r.named) ∧
        o.imports.Perm o.mentioned) ∧
    (∀ tag s, Service.ofTag doc tag settings = .ok s →
      s.imports = s.operations.flatMap fun o => o.imports) ∧
    ∀ ss, Service.ofDocument doc settings = .ok ss → ∀ s ∈ ss,
      s.imports = (s.operations.flatMap fun o => o.imports) ∧
        ∀ o ∈ s.operations, o.imports.Perm o.mentioned := by
  refine ⟨?_, ?_, ?_, ?_⟩
  · intro name isDefinition schema
    exact Schema.importsExact_resolve name isDefinition schema
  · intro path method operation declarations inherited o hpath ho
    obtain ⟨ofPath, own, hofPath, hown, -, himports⟩ :=
      Operation.imports_of_ofDeclaration hpath ho
    exact ⟨ofPath, own, hofPath, hown, himports, Operation.imports_perm_mentioned hpath ho⟩
  · intro tag s h
    exact (Service.importsExact_of_ofTag h).imports_eq
  · intro ss h s hs
    obtain ⟨tag, htag⟩ := Service.exists_of_mem_ofDocument h hs
    have hexact := Service.importsExact_of_ofTag htag
    exact ⟨hexact.imports_eq, hexact.perm⟩

/-- A grid of pets. -/
def sampleGrid : Value :=
  .mapping [(.text "type", .text "array"), (.text "items", .mapping [
    (.text "type", .text "array"),
    (.text "items", .mapping [(.text "$ref", .text "#/components/schemas/Pet")])])]

/-- A search within a grid, which answers a grid of pets. -/
def sampleSearch : Value :=
  .mapping [
    (.text "tags", .list [.text "pets"]),
    (.text "parameters", .list [.mapping [(.text "in", .text "query"),
      (.text "name", .text "within"), (.text "schema", sampleGrid)]]),
    (.text "responses", .mapping [(.text "200", .mapping [(.text "content", .mapping [
      (.text "application/json", .mapping [(.text "schema", sampleGrid)])])])])]

/-- A document with one tag and one operation. -/
def sampleShop : Value :=
  .mapping [
    (.text "tags", .list [.mapping [(.text "name", .text "pets")]]),
    (.text "paths", .mapping [(.text "/pets", .mapping [(.text "get", sampleSearch)])])]

theorem imports_exact_of_shop :
    (Schema.resolve "Grid" true sampleGrid).imports =
        (Schema.resolve "Grid" true sampleGrid).named ∧
      (∃ o, Operation.ofDeclaration sampleShop "/pets" "get" sampleSearch {} = .ok o ∧
        o.imports.Perm o.mentioned) ∧
      ∃ ss, Service.ofDocument sampleShop = .ok ss ∧ ss ≠ [] ∧
        ∀ s ∈ ss, s.imports = s.operations.flatMap fun o => o.imports := by
  obtain ⟨hschema, hoperation, -, hservices⟩ := imports_exact sampleShop {}
  obtain ⟨o, ho⟩ : ∃ o, Operation.ofDeclaration sampleShop "/pets" "get" sampleSearch {} = .ok o :=
    ⟨_, rfl⟩
  obtain ⟨s, ss, hss⟩ : ∃ s ss, Service.ofDocument sampleShop = .ok (s :: ss) := ⟨_, _, rfl⟩
  obtain ⟨-, -, -, -, -, hperm⟩ := hoperation "/pets" "get" sampleSearch .null {} o rfl ho
  exact ⟨hschema "Grid" true sampleGrid _ (.self _), ⟨o, ho, hperm⟩, s :: ss, hss,
    List.cons_ne_nil s ss, fun s' hs' => (hservices _ hss s' hs').1⟩

end ServiceCatalog
