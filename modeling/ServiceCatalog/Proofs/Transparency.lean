import ServiceCatalog.Proofs.Consulted
import ServiceCatalog.Proofs.Related

/-!
# References are transparent

The parts of an operation may be written where they belong or be named by a reference.  A part that
is named is looked up before it is read, so the operation is the same in both ways, and this file
shows that it stays so for any choice of the parts.

## Which references may be replaced

* The parameters of an operation, its body, and the responses: each of them is followed wherever it
  leads (`Value.Inlined` with nothing left out).
* The schema of a parameter and that of a content of a response: these are followed only into one
  part of the document, and name a type otherwise.

They stand inside of each other.  What a reference to a parameter leads to may again have a schema
that is a reference, and then that one may be replaced as well; `Value.InlinedWithin` is the
replacement of a part followed by replacements inside of it.

## What a target has to be

A reference is followed once, so its target must not be a reference, which would be followed a
second time when it stands in the place of the first.  And it must have entries: something vacant is
no body and no schema, while a reference to it is one.
-/

namespace ServiceCatalog

variable {doc : Value} {settings : Settings}

/-! ## Replacing a reference -/

namespace Value

/-- The second value is the first one, or what the first one refers to.  Only references that are
admitted are replaced, and only by something that has entries and is no reference itself. -/
inductive Inlined (doc : Value) (admits : String → Prop) : Value → Value → Prop
  | keep (v : Value) : Inlined doc admits v v
  | follow {v w : Value} {ref : String} (href : v.reference? = some ref) (hadmits : admits ref)
      (htarget : Pointer.resolve doc ref = .ok w) (hentries : w.entries ≠ [])
      (hplain : w.reference? = none) : Inlined doc admits v w

/-- The first value may be replaced by what it refers to, whatever the reference, and the second
one comes from the outcome by a change inside. -/
def InlinedWithin (doc : Value) (inside : Value → Value → Prop) (v x : Value) : Prop :=
  ∃ w, Inlined doc (fun _ => True) v w ∧ inside w x

/-- Two values hold the same under all keys but some. -/
def AgreeOutside (names : List String) (v w : Value) : Prop :=
  ∀ name, name ∉ names → v.field? name = w.field? name

/-- The replacement of references that start like a home. -/
abbrev InlinedFrom (home : String) (doc : Value) : Value → Value → Prop :=
  Inlined doc fun ref => ref.startsWith home = true

/-- Two values agree but for the schema, which may be replaced if it is a reference that starts like
a home. -/
structure SchemaInlined (home : String) (doc v w : Value) : Prop where
  outside : AgreeOutside ["schema"] v w
  schema : InlinedFrom home doc (v.field "schema") (w.field "schema")

variable {names : List String} {admits : String → Prop} {home : String} {v w x : Value}

theorem AgreeOutside.nil : AgreeOutside names (.mapping []) (.mapping []) := fun _ _ => rfl

theorem AgreeOutside.cons {key : String} {es fs : Entries} (hkey : key ∈ names) (v w : Value)
    (h : AgreeOutside names (.mapping es) (.mapping fs)) :
    AgreeOutside names (.mapping ((.text key, v) :: es)) (.mapping ((.text key, w) :: fs)) := by
  intro name hname
  have hne : key ≠ name := fun heq => hname (heq ▸ hkey)
  simpa [Entries.get?, hne] using h name hname

theorem AgreeOutside.cons_same {es fs : Entries} (key : Scalar) (v : Value)
    (h : AgreeOutside names (.mapping es) (.mapping fs)) :
    AgreeOutside names (.mapping ((key, v) :: es)) (.mapping ((key, v) :: fs)) := by
  intro name hname
  simp only [field?_mapping, Entries.get?]
  rw [← field?_mapping es, ← field?_mapping fs, h name hname]

theorem AgreeOutside.mono {names' : List String} (h : AgreeOutside names v w)
    (hnames : names ⊆ names') : AgreeOutside names' v w :=
  fun name hname => h name fun hmem => hname (hnames hmem)

theorem AgreeOutside.field_eq (h : AgreeOutside names v w) {name : String} (hname : name ∉ names) :
    v.field name = w.field name := by
  rw [field, field, h name hname]

theorem AgreeOutside.reference?_eq (h : AgreeOutside names v w) (hname : "$ref" ∉ names) :
    v.reference? = w.reference? := by
  rw [reference?, reference?, h.field_eq hname]

/-- What a value refers to does not change when it takes the place of the value. -/
theorem dereference_eq_of_inlined (h : Inlined doc admits v w) :
    dereference doc v = dereference doc w := by
  cases h with
  | keep => rfl
  | follow href _ htarget _ hplain =>
    unfold dereference
    simp only [href, hplain, htarget]
    rfl

theorem dereferenceFrom_eq_of_inlined (h : InlinedFrom home doc v w) :
    dereferenceFrom home doc v = dereferenceFrom home doc w := by
  cases h with
  | keep => rfl
  | follow href hadmits htarget _ hplain =>
    unfold dereferenceFrom
    simp only [href, hadmits, if_true, htarget, hplain]
    rfl

/-- A reference has entries, and so has what takes its place. -/
theorem eq_or_entries_ne_nil_of_inlined (h : Inlined doc admits v w) :
    v = w ∨ v.entries ≠ [] ∧ w.entries ≠ [] := by
  cases h with
  | keep => exact .inl rfl
  | follow href _ _ hentries _ => exact .inr ⟨entries_ne_nil_of_reference? href, hentries⟩

theorem isVacant_eq_of_inlined (h : Inlined doc admits v w) : v.isVacant = w.isVacant := by
  rcases eq_or_entries_ne_nil_of_inlined h with rfl | ⟨hv, hw⟩
  · rfl
  · rw [isVacant_of_entries_ne_nil hv, isVacant_of_entries_ne_nil hw]

/-- A part is read alike if what stands in its place after the look-up is. -/
theorem dereference_bind_eq {α : Type} {inside : Value → Value → Prop}
    {read : Value → Except DescriptionError α} (h : InlinedWithin doc inside v x)
    (href : ∀ w, inside w x → w.reference? = x.reference?)
    (hread : ∀ w, inside w x → read w = read x) :
    (dereference doc v >>= read) = (dereference doc x >>= read) := by
  obtain ⟨w, hv, hw⟩ := h
  rw [dereference_eq_of_inlined hv]
  unfold dereference
  rw [href w hw]
  cases x.reference? with
  | some ref => rfl
  | none => exact hread w hw

end Value

open Value

/-! ## Parameters -/

namespace Parameter

variable {v w : Value}

/-- A declaration is read alike when its schema is replaced. -/
theorem ofDeclaration?_eq (h : SchemaInlined declaredHome doc v w) (reserved : List String) :
    ofDeclaration? doc v reserved = ofDeclaration? doc w reserved := by
  have hname : v.field? "name" = w.field? "name" := h.outside "name" (by decide)
  have houtline : ∀ location, outline location v reserved = outline location w reserved := by
    intro location
    simp only [outline, hname, h.outside.field_eq (by decide : "description" ∉ ["schema"]),
      h.outside.field_eq (by decide : "deprecated" ∉ ["schema"]),
      h.outside.field_eq (by decide : "required" ∉ ["schema"])]
  have hschema : schemaOf doc v = schemaOf doc w := dereferenceFrom_eq_of_inlined h.schema
  simp only [ofDeclaration?, hname, houtline, hschema,
    h.outside.field_eq (by decide : "in" ∉ ["schema"])]

end Parameter

namespace Inputs

/-- A declaration of a parameter, with its references replaced. -/
abbrev DeclarationInlined (doc : Value) : Value → Value → Prop :=
  InlinedWithin doc (SchemaInlined Parameter.declaredHome doc)

theorem fileDeclaration_congr {v w : Value} (h : DeclarationInlined doc v w) (i : Inputs) :
    fileDeclaration doc settings i v = fileDeclaration doc settings i w := by
  unfold fileDeclaration
  refine dereference_bind_eq h (fun u hu => hu.outside.reference?_eq (by decide)) fun u hu => ?_
  rw [Parameter.ofDeclaration?_eq hu]

/-- The inputs of a list of declarations are those of the list with its references replaced. -/
theorem declared_congr {v w : Value}
    (h : Option.Rel (List.Forall₂ (DeclarationInlined doc)) v.items? w.items?) :
    declared doc settings v = declared doc settings w := by
  unfold declared
  rcases eq_none_or_eq_some_of_rel h with ⟨hv, hw⟩ | ⟨vs, ws, hv, hw, hvs⟩
  · rw [hv, hw]
  · rw [hv, hw]
    exact foldlM_eq_of_forall₂ hvs (fun _ _ hab i => fileDeclaration_congr hab i) {}

end Inputs

/-! ## Responses -/

namespace Content

variable {v w : Value} {mediaTypes : List String}

/-- The same media type, and a schema that may be replaced. -/
structure Inlined (doc : Value) (c d : Content) : Prop where
  mediaType : c.mediaType = d.mediaType
  schema : InlinedFrom Response.declaredHome doc c.schema d.schema

/-- What has entries is a schema that an entry carries. -/
theorem schema?_of_entries_ne_nil (h : (v.field "schema").entries ≠ []) :
    schema? v = some (v.field "schema") := by
  unfold schema?
  split
  · rename_i hnull
    exact absurd (by rw [hnull]; rfl) h
  · rename_i htext
    exact absurd (by rw [htext]; rfl) h
  · rfl

/-- A schema and what takes its place are both carried, or both not. -/
theorem schema?_rel (h : SchemaInlined Response.declaredHome doc v w) :
    Option.Rel (InlinedFrom Response.declaredHome doc) (schema? v) (schema? w) := by
  rcases eq_or_entries_ne_nil_of_inlined h.schema with heq | ⟨hv, hw⟩
  · rw [schema?, schema?, heq]
    exact optionRel_refl .keep _
  · rw [schema?_of_entries_ne_nil hv, schema?_of_entries_ne_nil hw]
    exact .some h.schema

theorem ofEntry?_rel {e f : Scalar × Value}
    (h : EntryRel (SchemaInlined Response.declaredHome doc) e f) :
    Option.Rel (Content.Inlined doc) ( ofEntry? e) ( ofEntry? f) := by
  cases h with
  | mk key hvw =>
    unfold ofEntry?
    rcases eq_none_or_eq_some_of_rel (schema?_rel hvw) with ⟨hv, hw⟩ | ⟨c, d, hv, hw, hcd⟩
    · rw [hv, hw]
      exact .none
    · rw [hv, hw]
      exact .some ⟨rfl, hcd⟩

/-- The same entry is chosen among related ones. -/
theorem select_rel
    (h : List.Forall₂ (EntryRel (SchemaInlined Response.declaredHome doc)) v.entries w.entries) :
    Option.Rel (Content.Inlined doc) (select v mediaTypes) (select w mediaTypes) := by
  have hlisted : ∀ e f, EntryRel (SchemaInlined Response.declaredHome doc) e f →
      isListed mediaTypes e = isListed mediaTypes f := by
    rintro _ _ ⟨key, -⟩
    rfl
  have hothers : ∀ e f, EntryRel (SchemaInlined Response.declaredHome doc) e f →
      (!isListed mediaTypes e) = !isListed mediaTypes f :=
    fun e f hef => congrArg not (hlisted e f hef)
  exact findSome?_rel (List.rel_append (filter_rel h hlisted) (filter_rel h hothers))
    fun _ _ => ofEntry?_rel

end Content

namespace Response

variable {v w : Value} {mediaTypes : List String} {es fs : Entries}

/-- Two responses agree but for the schemas of their contents, which may be replaced. -/
structure ContentInlined (doc v w : Value) : Prop where
  outside : AgreeOutside ["content"] v w
  content : List.Forall₂ (EntryRel (SchemaInlined declaredHome doc)) (v.field "content").entries
    (w.field "content").entries

/-- A response is read alike when the schemas of its contents are replaced. -/
theorem ofDeclaration_eq (h : ContentInlined doc v w) (code : Int) :
    ofDeclaration doc v code mediaTypes = ofDeclaration doc w code mediaTypes := by
  have hdescription := h.outside.field_eq (by decide : "description" ∉ ["content"])
  have hheaders := h.outside.field_eq (by decide : "headers" ∉ ["content"])
  simp only [ofDeclaration, Content.choose, hdescription, hheaders, keys_eq_of_entryRel h.content]
  rcases eq_none_or_eq_some_of_rel (Content.select_rel h.content) with
    ⟨hv, hw⟩ | ⟨c, d, hv, hw, hcd⟩
  · rw [hv, hw]
  · have hschema : schemaOf doc c.schema = schemaOf doc d.schema :=
      dereferenceFrom_eq_of_inlined hcd.schema
    rw [hv, hw]
    cases Value.ensureWritable (w.field "content").keys with
    | error e => rfl
    | ok =>
      show (schemaOf doc c.schema >>= _) = (schemaOf doc d.schema >>= _)
      rw [hschema]

/-- The entries of responses with references replaced are read alike. -/
theorem ofEntries_congr
    (h : List.Forall₂ (EntryRel (InlinedWithin doc (ContentInlined doc))) es fs) :
    ofEntries doc mediaTypes es = ofEntries doc mediaTypes fs := by
  induction h with
  | nil => rfl
  | cons hhead _ ih =>
    cases hhead with
    | mk key hvw =>
      rw [ofEntries, ofEntries, ih]
      refine bind_congr fun code => ?_
      split
      · rfl
      · refine dereference_bind_eq hvw (fun u hu => hu.outside.reference?_eq (by decide))
          fun u hu => ?_
        rw [ofDeclaration_eq hu]

theorem declared_congr
    (h : List.Forall₂ (EntryRel (InlinedWithin doc (ContentInlined doc))) v.entries w.entries) :
    declared doc v mediaTypes = declared doc w mediaTypes := by
  rw [declared, declared, ofEntries_congr h]

end Response

/-! ## Operations -/

namespace Operation

/-- Besides its parameters, its body and its responses, an operation is read key by key. -/
theorem assemble_eq_of_agreeOutside {v w : Value}
    (h : AgreeOutside ["parameters", "requestBody", "responses"] v w) (path method : String)
    (inputs : Inputs) (responses : List Response) :
    assemble path method v inputs responses settings =
      assemble path method w inputs responses settings := by
  have hf : ∀ name, name ∉ ["parameters", "requestBody", "responses"] →
      v.field name = w.field name := fun name hname => h.field_eq hname
  simp only [assemble, hf "operationId" (by decide), hf "summary" (by decide),
    hf "description" (by decide), hf "deprecated" (by decide)]

/-- **The second operation is the first one, with any of its references replaced by what they lead
to.**  These are the parameters, the body and the responses, and in the parameters and the contents
of responses, after their own replacement, the schemas that are looked up. -/
structure Inlined (doc v w : Value) : Prop where
  outside : AgreeOutside ["parameters", "requestBody", "responses"] v w
  parameters : Option.Rel (List.Forall₂ (Inputs.DeclarationInlined doc))
    (v.field "parameters").items? (w.field "parameters").items?
  body : Value.Inlined doc (fun _ => True) (v.field "requestBody") (w.field "requestBody")
  responses : List.Forall₂ (EntryRel (InlinedWithin doc (Response.ContentInlined doc)))
    (v.field "responses").entries (w.field "responses").entries

variable {v w : Value}

theorem bodyOf_congr (h : Inlined doc v w) : bodyOf doc v settings = bodyOf doc w settings := by
  rw [bodyOf, bodyOf, isVacant_eq_of_inlined h.body, dereference_eq_of_inlined h.body]

theorem assemble_congr (h : Inlined doc v w) (path method : String) (inputs : Inputs)
    (responses : List Response) :
    assemble path method v inputs responses settings =
      assemble path method w inputs responses settings :=
  assemble_eq_of_agreeOutside h.outside path method inputs responses

/-- **References are transparent.**  An operation whose references are replaced by what they lead to
is described alike, and if the description of the one fails, so does the other, in the same way. -/
theorem ofDeclaration_eq_of_inlined (h : Inlined doc v w) (path method : String)
    (inherited : Inputs) (settings : Settings) :
    ofDeclaration doc path method v inherited settings =
      ofDeclaration doc path method w inherited settings := by
  rw [ofDeclaration, ofDeclaration, Inputs.declared_congr h.parameters, bodyOf_congr h,
    Response.declared_congr h.responses]
  simp only [assemble_congr h]

/-! ## An operation that names all of its parts -/

/-- A reference to a declared part. -/
def sampleReference (ref : String) : Value := .mapping [(.text "$ref", .text ref)]

/-- A parameter with a schema. -/
def sampleLimit (schema : Value) : Value :=
  .mapping [(.text "in", .text "query"), (.text "name", .text "limit"), (.text "schema", schema)]

/-- A body or a response with a schema. -/
def sampleContent (schema : Value) : Value :=
  .mapping [(.text "content", .mapping [
    (.text "application/json", .mapping [(.text "schema", schema)])])]

/-- A schema of a type without parts. -/
def sampleSchema (t : String) : Value := .mapping [(.text "type", .text t)]

/-- A document that declares the parts of an operation, and also their schemas. -/
def sampleShelf : Value :=
  .mapping [(.text "components", .mapping [
    (.text "parameters", .mapping [
      (.text "Limit", sampleLimit (sampleReference "#/components/parameters/Size")),
      (.text "Size", sampleSchema "integer")]),
    (.text "requestBodies", .mapping [(.text "Filter", sampleContent (sampleSchema "object"))]),
    (.text "responses", .mapping [
      (.text "Found", sampleContent (sampleReference "#/components/responses/Name")),
      (.text "Name", sampleSchema "string")])])]

/-- An operation with one parameter, a body and one response. -/
def sampleListing (parameter body response : Value) : Value :=
  .mapping [(.text "parameters", .list [parameter]), (.text "requestBody", body),
    (.text "responses", .mapping [(.text "200", response)])]

/-- The operation with all parts named. -/
def sampleNamed : Value :=
  sampleListing (sampleReference "#/components/parameters/Limit")
    (sampleReference "#/components/requestBodies/Filter")
    (sampleReference "#/components/responses/Found")

/-- The operation with all parts in place. -/
def samplePlaced : Value :=
  sampleListing (sampleLimit (sampleSchema "integer")) (sampleContent (sampleSchema "object"))
    (sampleContent (sampleSchema "string"))

theorem inlined_sampleNamed : Inlined sampleShelf sampleNamed samplePlaced := by
  have hparameter : Inputs.DeclarationInlined sampleShelf
      (sampleReference "#/components/parameters/Limit") (sampleLimit (sampleSchema "integer")) := by
    refine ⟨_, .follow rfl trivial rfl (List.cons_ne_nil _ _) rfl, ?_, ?_⟩
    · exact .cons_same _ _ (.cons_same _ _ (.cons (by decide) _ _ .nil))
    · exact .follow rfl (by decide +kernel) rfl (List.cons_ne_nil _ _) rfl
  have hresponse : InlinedWithin sampleShelf (Response.ContentInlined sampleShelf)
      (sampleReference "#/components/responses/Found") (sampleContent (sampleSchema "string")) := by
    refine ⟨_, .follow rfl trivial rfl (List.cons_ne_nil _ _) rfl, ?_, ?_⟩
    · exact .cons (by decide) _ _ .nil
    · refine .cons (.mk _ ⟨.cons (by decide) _ _ .nil, ?_⟩) .nil
      exact .follow rfl (by decide +kernel) rfl (List.cons_ne_nil _ _) rfl
  refine ⟨?_, .some (.cons hparameter .nil), ?_, .cons (.mk _ hresponse) .nil⟩
  · exact .cons (by decide) _ _ (.cons (by decide) _ _ (.cons (by decide) _ _ .nil))
  · exact .follow rfl trivial rfl (List.cons_ne_nil _ _) rfl

theorem ofDeclaration_sampleNamed :
    ∃ o, ofDeclaration sampleShelf "/names" "post" samplePlaced {} {} = .ok o ∧
      ofDeclaration sampleShelf "/names" "post" sampleNamed {} {} = .ok o := by
  obtain ⟨o, ho⟩ : ∃ o, ofDeclaration sampleShelf "/names" "post" samplePlaced {} {} = .ok o :=
    ⟨_, rfl⟩
  exact ⟨o, ho, (ofDeclaration_eq_of_inlined inlined_sampleNamed "/names" "post" {} {}).trans ho⟩

end Operation
end ServiceCatalog
