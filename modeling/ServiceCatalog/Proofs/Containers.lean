import ServiceCatalog.Proofs.Results
import ServiceCatalog.Proofs.SchemaInduction

/-!
# A container next to its element

An array of texts and a text have the same three names, since a container takes its names from its
element.  What tells them apart as results is the link: the chain of a container is one longer than
the chain of its element (`typeChain_resolve_of_isContainerOf`), and no two chains of different
length are equal.  So of two successes, one that answers a container and one that answers its
element, both are kept.

## Elements that are references

A container of a reference has no link, because a reference is described by its name and there is no
model to link to.  Its chain has one level, and so has the chain of the reference
(`typeChain_resolve_of_reference_element`).  An array of pets and a pet therefore count as the same
type, and of two successes that answer them only the first is kept.  This is the one exception, and
`results_of_container_and_element` says so for both sides.
-/

namespace ServiceCatalog

open Attempt Schema

namespace Model

/-- The chain of a model is made from its names and its link. -/
theorem typeChain_congr {m n : Model} (hnames : m.names = n.names) (hlink : m.link = n.link) :
    m.typeChain = n.typeChain := by
  cases hl : n.link with
  | none =>
    rw [typeChain_of_link_eq_none (hlink.trans hl), typeChain_of_link_eq_none hl, hnames]
  | some l =>
    rw [typeChain_of_link_eq_some (hlink.trans hl), typeChain_of_link_eq_some hl, hnames]

/-- A target with the type of a model has the chain of the model. -/
@[simp] theorem typeChain_adopt (target m : Model) (merge : Bool) :
    (target.adopt m merge).typeChain = m.typeChain := typeChain_congr rfl rfl

theorem typeChain_refer {target : Model} (h : target.link = none) (reference : Model) :
    (target.refer reference).typeChain = [reference.names] := typeChain_of_link_eq_none h

end Model

/-! ## Containers -/

namespace Schema

/-- A schema describes an array or a dictionary of an element. -/
def IsContainerOf (container element : Value) : Prop :=
  container.reference? = none ∧ ∃ es, container.entries? = some es ∧
    (Form.of es = .array (some element) ∨ Form.of es = .dictionary element)

/-- A schema of type `array` with `items`. -/
theorem isContainerOf_of_items {es : Entries} {element : Value}
    (href : (Value.mapping es).reference? = none)
    (htype : es.get? "type" = some (.text "array")) (hitems : es.get? "items" = some element) :
    IsContainerOf (.mapping es) element := by
  have hkind : (effectiveType (.mapping es)).1 = some "array" := by
    simp [effectiveType, Value.field, htype, Value.text?]
  refine ⟨href, es, rfl, .inl ?_⟩
  simp [Form.of, hkind, enumValues?, hitems]

/-- A schema of type `object` with a mapping for `additionalProperties`, and neither `properties`
nor `enum`. -/
theorem isContainerOf_of_additionalProperties {es : Entries} {element : Value}
    (href : (Value.mapping es).reference? = none)
    (htype : es.get? "type" = some (.text "object"))
    (hadditional : es.get? "additionalProperties" = some element)
    (hmapping : element.isMapping = true) (hproperties : es.get? "properties" = none)
    (henum : es.get? "enum" = none) : IsContainerOf (.mapping es) element := by
  have hkind : (effectiveType (.mapping es)).1 = some "object" := by
    simp [effectiveType, Value.field, htype, Value.text?]
  refine ⟨href, es, rfl, .inr ?_⟩
  simp [Form.of, hkind, enumValues?, nonemptyItems?, henum, dictionaryElement?, hadditional,
    hmapping, hproperties]

variable {name : String} {isDefinition : Bool} {container element : Value}

/-- The model of a container contains that of its element. -/
theorem exists_contain_of_isContainerOf (name : String) (isDefinition : Bool)
    (h : IsContainerOf container element) :
    ∃ shape, resolve name isDefinition container =
      contain (outline name isDefinition container) shape element := by
  obtain ⟨href, es, hes, hf⟩ := h
  rw [resolve_of_not_reference hes href]
  rcases hf with hf | hf
  · exact ⟨.array, by rw [hf]; rfl⟩
  · exact ⟨.dictionary, by rw [hf]; rfl⟩

/-- **A container is one level above its element.** -/
theorem typeChain_resolve_of_isContainerOf (h : IsContainerOf container element)
    (helement : element.reference? = none) :
    (resolve name isDefinition container).typeChain =
      (resolve name false element).names :: (resolve name false element).typeChain := by
  obtain ⟨shape, hcontain⟩ := exists_contain_of_isContainerOf name isDefinition h
  rw [hcontain, contain, helement]
  exact Model.typeChain_of_link_eq_some rfl

/-- A container of a reference has no level below it. -/
theorem typeChain_resolve_of_reference_element {ref : String} (h : IsContainerOf container element)
    (helement : element.reference? = some ref) :
    (resolve name isDefinition container).typeChain = [(ofReference ref).names] := by
  obtain ⟨shape, hcontain⟩ := exists_contain_of_isContainerOf name isDefinition h
  rw [hcontain, contain, helement]
  exact Model.typeChain_of_link_eq_none rfl

end Schema

/-! ## Responses with a body -/

namespace Response

variable {doc container element responses : Value} {mediaTypes : List String} {r s : Response}

/-- Some entry of a mapping is read as the response, and the content chosen for it has a schema. -/
def HasBody (doc : Value) (mediaTypes : List String) (responses schema : Value) (r : Response) :
    Prop :=
  ∃ e ∈ responses.entries, IsRead doc mediaTypes e r ∧ ∃ declaration content,
    Value.dereference doc e.2 = .ok declaration ∧
    Content.select (declaration.field "content") mediaTypes = some content ∧
    content.schema = schema

/-- Only references into the declared responses are looked up. -/
theorem schemaOf_eq_self {schema : Value}
    (hhome : ∀ ref, schema.reference? = some ref → ref.startsWith declaredHome = false) :
    schemaOf doc schema = .ok schema := by
  unfold schemaOf Value.dereferenceFrom
  cases href : schema.reference? with
  | none => rfl
  | some ref => simp [hhome ref href]

/-- A response with a body has the type of its schema, unless that is looked up first. -/
theorem exists_withSchema_of_hasBody {schema : Value}
    (h : HasBody doc mediaTypes responses schema r)
    (hhome : ∀ ref, schema.reference? = some ref → ref.startsWith declaredHome = false) :
    ∃ start : Response, start.link = none ∧ r = start.withSchema schema := by
  obtain ⟨e, -, ⟨code, declaration, -, -, -, hd, hr⟩, declaration', content, hd', hselect, rfl⟩ := h
  obtain rfl : declaration = declaration' := Except.ok.inj (hd.symm.trans hd')
  rcases ofDeclaration_eq_ok hr with ⟨content', schema, hselect', hschema, rfl⟩ | ⟨hnone, -⟩
  · obtain rfl : content = content' := Option.some.inj (hselect.symm.trans hselect')
    obtain rfl : content.schema = schema := by
      rw [schemaOf_eq_self hhome] at hschema
      exact Except.ok.inj hschema
    exact ⟨outline code declaration, rfl, rfl⟩
  · rw [hselect] at hnone
    cases hnone

theorem typeChain_withSchema_of_reference {start : Response} {schema : Value} {ref : String}
    (hlink : start.link = none) (h : schema.reference? = some ref) :
    (start.withSchema schema).typeChain = [(ofReference ref).names] := by
  unfold withSchema
  rw [h]
  exact Model.typeChain_refer hlink _

theorem typeChain_withSchema_of_not_reference (start : Response) {schema : Value}
    (h : schema.reference? = none) :
    (start.withSchema schema).typeChain = (resolve "" false schema).typeChain := by
  unfold withSchema
  rw [h]
  exact Model.typeChain_adopt _ _ _

/-- **A container and its element describe the same type exactly if the element is a
reference.** -/
theorem sameType_container_element (hr : HasBody doc mediaTypes responses container r)
    (hs : HasBody doc mediaTypes responses element s) (hin : IsContainerOf container element)
    (hhome : ∀ ref, element.reference? = some ref → ref.startsWith declaredHome = false) :
    r.sameType s.toModel = element.reference?.isSome := by
  obtain ⟨ofContainer, -, rfl⟩ := exists_withSchema_of_hasBody hr (by simp [hin.1])
  obtain ⟨ofElement, hlink, rfl⟩ := exists_withSchema_of_hasBody hs hhome
  have hcontainer := typeChain_withSchema_of_not_reference ofContainer hin.1
  cases helement : element.reference? with
  | some ref =>
    rw [typeChain_resolve_of_reference_element hin helement] at hcontainer
    have hchain := typeChain_withSchema_of_reference hlink helement
    exact Model.sameType_iff.mpr (hcontainer.trans hchain.symm)
  | none =>
    rw [typeChain_resolve_of_isContainerOf hin helement,
      ← typeChain_withSchema_of_not_reference ofElement helement] at hcontainer
    rw [Option.isSome_none, ← Bool.not_eq_true, Model.sameType_iff, hcontainer]
    exact List.cons_ne_self _ _

/-! ## Results -/

theorem isRead_unique {e : Scalar × Value} (hr : IsRead doc mediaTypes e r)
    (hs : IsRead doc mediaTypes e s) : r = s := by
  obtain ⟨code, declaration, hcode, -, -, hd, hof⟩ := hr
  obtain ⟨code', declaration', hcode', -, -, hd', hof'⟩ := hs
  obtain rfl : code = code' := Option.some.inj (hcode.symm.trans hcode')
  obtain rfl : declaration = declaration' := Except.ok.inj (hd.symm.trans hd')
  exact Except.ok.inj (hof.symm.trans hof')

theorem mem_of_isRead {es : Entries} {rs : List Response}
    (h : List.Forall₂ (IsRead doc mediaTypes) es rs) {e : Scalar × Value} (he : e ∈ es)
    (hr : IsRead doc mediaTypes e r) : r ∈ rs := by
  induction h with
  | nil => exact absurd he List.not_mem_nil
  | cons hhead _ ih =>
    rcases List.mem_cons.mp he with rfl | he
    · rw [isRead_unique hr hhead]
      exact List.mem_cons_self
    · exact List.mem_cons_of_mem _ (ih he)

/-- The response of an entry is among the responses of the operation. -/
theorem mem_of_hasBody {schema : Value} {rs : List Response}
    (h : declared doc responses mediaTypes = .ok rs)
    (hr : HasBody doc mediaTypes responses schema r) : r ∈ rs := by
  obtain ⟨e, he, hread, -⟩ := hr
  obtain ⟨unsorted, hall, hperm, -, -⟩ := sorted_of_declared h
  have husable : e ∈ usable responses.entries := by
    obtain ⟨code, -, hcode, -⟩ := hread
    exact List.mem_filter.mpr ⟨he, by rw [hcode]; rfl⟩
  exact hperm.mem_iff.mpr (mem_of_isRead hall husable hread)

/-- Of two responses the second is kept unless it describes the type of the first. -/
theorem distinctTypes_pair (r s : Response) :
    distinctTypes [r, s] = if r.sameType s.toModel then [r] else [r, s] := by
  simp [distinctTypes, keepNew]

/-- Two successes are represented by one result exactly if they describe the same type. -/
theorem exists_represented_pair {rs : List Response} (hr : r ∈ rs) (hs : s ∈ rs)
    (hrs : r.isResult) (hss : s.isResult) :
    ∃ r' ∈ results rs, ∃ s' ∈ results rs, r'.sameType r.toModel ∧ s'.sameType s.toModel ∧
      (r' = s' ↔ r.sameType s.toModel) := by
  obtain ⟨marked, hrep⟩ := exists_represents rs
  obtain ⟨i, hi⟩ := List.getElem?_of_mem hr
  obtain ⟨j, hj⟩ := List.getElem?_of_mem hs
  obtain ⟨m, hm, -, hmr⟩ := hrep.covers i r hi hrs
  obtain ⟨n, hn, -, hns⟩ := hrep.covers j s hj hss
  rw [results_of_exists ⟨r, hr, hrs⟩, hrep.kept_eq]
  refine ⟨m.2, List.mem_map_of_mem hm, n.2, List.mem_map_of_mem hn, hmr, hns, fun heq => ?_,
    fun hsame => ?_⟩
  · exact Model.sameType_trans (Model.sameType_symm hmr) (heq ▸ hns)
  · rw [hrep.unique hm hn hmr (Model.sameType_trans hns (Model.sameType_symm hsame))]

/-- The two successes of an operation that has no others. -/
theorem results_of_pair {rs : List Response} (hr : r ∈ rs) (hs : s ∈ rs) (hrs : r.isResult)
    (hss : s.isResult) (hne : r ≠ s) (htwo : (rs.filter isResult).length = 2) :
    results rs =
      if r.sameType s.toModel then (rs.filter isResult).take 1 else rs.filter isResult := by
  obtain ⟨a, b, hab⟩ := List.length_eq_two.mp htwo
  have hmemr : r ∈ [a, b] := hab ▸ List.mem_filter.mpr ⟨hr, hrs⟩
  have hmems : s ∈ [a, b] := hab ▸ List.mem_filter.mpr ⟨hs, hss⟩
  have hsame : a.sameType b.toModel = r.sameType s.toModel := by
    rw [List.mem_pair] at hmemr hmems
    rcases hmemr with rfl | rfl <;> rcases hmems with rfl | rfl
    · exact absurd rfl hne
    · rfl
    · rw [Bool.eq_iff_iff]
      exact ⟨Model.sameType_symm, Model.sameType_symm⟩
    · exact absurd rfl hne
  rw [results_of_exists ⟨r, hr, hrs⟩, hab, distinctTypes_pair, hsame]
  rfl

/-- **A container and its element as successes of one operation.**  Each of them has a result that
represents it, and these are the same result exactly if the element is a reference.  So if the
operation has no other success, both are its results when the element is described in place, and
only the first one is when the element is a reference. -/
theorem results_of_container_and_element {rs : List Response}
    (h : declared doc responses mediaTypes = .ok rs)
    (hr : HasBody doc mediaTypes responses container r)
    (hs : HasBody doc mediaTypes responses element s) (hin : IsContainerOf container element)
    (hhome : ∀ ref, element.reference? = some ref → ref.startsWith declaredHome = false)
    (hrs : r.isResult) (hss : s.isResult) (hcodes : r.code ≠ s.code) :
    (∃ r' ∈ results rs, ∃ s' ∈ results rs, r'.sameType r.toModel ∧ s'.sameType s.toModel ∧
      (r' = s' ↔ element.reference?.isSome)) ∧
    ((rs.filter isResult).length = 2 →
      results rs = if element.reference?.isSome then (rs.filter isResult).take 1
        else rs.filter isResult) := by
  have hmemr := mem_of_hasBody h hr
  have hmems := mem_of_hasBody h hs
  rw [← sameType_container_element hr hs hin hhome]
  refine ⟨exists_represented_pair hmemr hmems hrs hss, fun htwo => ?_⟩
  exact results_of_pair hmemr hmems hrs hss (fun heq => hcodes (heq ▸ rfl)) htwo

/-- A response with a body. -/
def sampleAnswer (schema : Value) : Value :=
  .mapping [(.text "content", .mapping [
    (.text "application/json", .mapping [(.text "schema", schema)])])]

/-- An operation that answers one schema when something is found and another when it is made. -/
def sampleAnswers (found made : Value) : Value :=
  .mapping [(.text "200", sampleAnswer found), (.text "201", sampleAnswer made)]

/-- A list of texts. -/
def sampleTexts : Value :=
  .mapping [(.text "type", .text "array"),
    (.text "items", .mapping [(.text "type", .text "string")])]

/-- A dictionary of lists of texts. -/
def sampleIndex : Value :=
  .mapping [(.text "type", .text "object"), (.text "additionalProperties", sampleTexts)]

/-- A pet, by its name. -/
def samplePet : Value := .mapping [(.text "$ref", .text "#/components/schemas/Pet")]

/-- A list of pets. -/
def samplePets : Value := .mapping [(.text "type", .text "array"), (.text "items", samplePet)]

/-- A schema that a sample carries, and that is not looked up. -/
structure IsAnswered (schema : Value) : Prop where
  select : Content.select ((sampleAnswer schema).field "content") =
    some ⟨"application/json", schema⟩
  home : ∀ ref, schema.reference? = some ref → ref.startsWith declaredHome = false
  written : Value.ensureWritable (Schema.written schema) = .ok ()

theorem ofDeclaration_sampleAnswer {schema : Value} (h : IsAnswered schema) (code : Int) :
    ∃ r, ofDeclaration .empty (sampleAnswer schema) code = .ok r := by
  have hchoose : Content.choose ((sampleAnswer schema).field "content") =
      .ok (some ⟨"application/json", schema⟩) := by
    refine Content.choose_eq_ok.mpr ⟨fun key hkey => ?_, h.select⟩
    obtain rfl := List.mem_singleton.mp hkey
    rfl
  rw [ofDeclaration, hchoose]
  show ∃ r, (schemaOf .empty schema >>= _) = .ok r
  rw [schemaOf_eq_self h.home]
  show ∃ r, (Value.ensureWritable (Schema.written schema) >>= _) = .ok r
  rw [h.written]
  exact ⟨_, rfl⟩

/-- The sample has two successes, with different codes and with the two schemas. -/
theorem exists_declared_sampleAnswers {found made : Value} (hfound : IsAnswered found)
    (hmade : IsAnswered made) :
    ∃ r s, declared .empty (sampleAnswers found made) = .ok [r, s] ∧ r.code = 200 ∧ s.code = 201 ∧
      HasBody .empty defaultMediaTypes (sampleAnswers found made) found r ∧
      HasBody .empty defaultMediaTypes (sampleAnswers found made) made s := by
  have h200 : statusCode? (Scalar.text "200").plain = some 200 := rfl
  have h201 : statusCode? (Scalar.text "201").plain = some 201 := rfl
  obtain ⟨r, hr⟩ := ofDeclaration_sampleAnswer hfound 200
  obtain ⟨s, hs⟩ := ofDeclaration_sampleAnswer hmade 201
  have hcoder : r.code = 200 := (code_of_ofDeclaration hr).1
  have hcodes : s.code = 201 := (code_of_ofDeclaration hs).1
  have hread : ofEntries .empty defaultMediaTypes (sampleAnswers found made).entries =
      .ok [r, s] :=
    ofEntries_cons_of_some rfl rfl hr (ofEntries_cons_of_some rfl rfl hs rfl)
  have hsorted : [r, s].Pairwise fun a b => decide (a.code ≤ b.code) = true := by
    simp [hcoder, hcodes]
  refine ⟨r, s, ?_, hcoder, hcodes, ?_, ?_⟩
  · rw [declared, hread, Except.map, List.mergeSort_of_pairwise hsorted]
  · exact ⟨(.text "200", sampleAnswer found), List.mem_cons_self,
      ⟨200, _, h200, hcoder, by decide, rfl, hr⟩, _, _, rfl, hfound.select, rfl⟩
  · exact ⟨(.text "201", sampleAnswer made), List.mem_cons_of_mem _ List.mem_cons_self,
      ⟨201, _, h201, hcodes, by decide, rfl, hs⟩, _, _, rfl, hmade.select, rfl⟩

theorem results_of_container_and_element_of_index :
    ∃ rs, declared .empty (sampleAnswers sampleIndex sampleTexts) = .ok rs ∧
      IsContainerOf sampleIndex sampleTexts ∧ (results rs).length = 2 := by
  have htexts : IsAnswered sampleTexts := ⟨rfl, fun ref href => (by cases href), rfl⟩
  have hindex : IsAnswered sampleIndex := ⟨rfl, fun ref href => (by cases href), rfl⟩
  have hin : IsContainerOf sampleIndex sampleTexts :=
    isContainerOf_of_additionalProperties rfl rfl rfl rfl rfl rfl
  obtain ⟨r, s, h, hcoder, hcodes, hr, hs⟩ := exists_declared_sampleAnswers hindex htexts
  have hrs : r.isResult := by simp [isResult, hcoder]
  have hss : s.isResult := by simp [isResult, hcodes]
  have htwo : [r, s].filter isResult = [r, s] := by simp [hrs, hss]
  have hresults := (results_of_container_and_element h hr hs hin htexts.home hrs hss
    (by simp [hcoder, hcodes])).2 (by rw [htwo]; rfl)
  refine ⟨[r, s], h, hin, ?_⟩
  rw [hresults, htwo]
  rfl

/-- **A list of pets and a pet are one result.**  The operation documents two successes with
different codes, a list of pets and a pet, and the pet is dropped. -/
theorem results_of_pets_and_pet :
    ∃ rs, declared .empty (sampleAnswers samplePets samplePet) = .ok rs ∧
      IsContainerOf samplePets samplePet ∧
      samplePet.reference? = some "#/components/schemas/Pet" ∧
      rs.map code = [200, 201] ∧ (∀ r ∈ rs, r.isResult) ∧ (results rs).length = 1 := by
  have hpets : IsAnswered samplePets := ⟨rfl, fun ref href => (by cases href), rfl⟩
  have hpet : IsAnswered samplePet := ⟨rfl, fun ref href => (by cases href; decide +kernel), rfl⟩
  have hin : IsContainerOf samplePets samplePet := isContainerOf_of_items rfl rfl rfl
  obtain ⟨r, s, h, hcoder, hcodes, hr, hs⟩ := exists_declared_sampleAnswers hpets hpet
  have hrs : r.isResult := by simp [isResult, hcoder]
  have hss : s.isResult := by simp [isResult, hcodes]
  have hsame : r.sameType s.toModel = true := sameType_container_element hr hs hin hpet.home
  refine ⟨[r, s], h, hin, rfl, by simp [hcoder, hcodes], by simp [hrs, hss], ?_⟩
  rw [results_of_exists ⟨r, List.mem_cons_self, hrs⟩]
  simp [hrs, hss, distinctTypes_pair, hsame]

end Response
end ServiceCatalog
