import ServiceCatalog.Proofs.Alike
import ServiceCatalog.Proofs.Consulted
import ServiceCatalog.Proofs.Filing
import ServiceCatalog.Proofs.Reach

/-!
# An extraction observes only what it consults

The document is handed through every layer of an extraction, down to the models of schemas, but
apart from its tags and its paths it is only ever looked at through the references that are
consulted (`Service.Consulted`), one level each.  So two documents in which these references lead to
the same have the same services, or both have none (`Service.ofDocument_local`).

## What "the same" means

The target of a reference is read as a declaration of a parameter, a body or a response, and of such
a declaration only the values under a few keys count (`declarationKeys`).  The target of a reference
into the declared parameters or responses may also be read as a schema, and then all of it counts.
`TargetAlike` says so, and `Untouched` that a reference has such targets in both documents, or none
in both.  A reference to a large part of the document, such as its root, is untouched by any change
in a corner that nothing reads.  That is why the declared schemas may be changed in any way
(`untouched_of_schemas_changed`), although a reference to the whole of the document would see the
change.

## How it is shown

Each function of the extraction has one lemma here, which says that it ends alike in both documents
if the references that it consults are untouched; the lemmas follow the composition of the functions
by the laws of `Alike`.  Two items of a path are compared by what one tag sees of them (`SameFor`),
so that operations of other tags may differ as well.
-/

namespace ServiceCatalog

open Attempt

variable {doc doc' : Value} {settings : Settings} {ref : String}

/-! ## Targets -/

/-- The keys under which a declaration of a parameter, a body or a response is read. -/
def declarationKeys : List String :=
  ["in", "name", "description", "deprecated", "required", "schema", "content", "headers"]

/-- Two values hold the same under the keys of a declaration. -/
def Value.ReadAlike (v w : Value) : Prop := ∀ name ∈ declarationKeys, v.field? name = w.field? name

/-- The reference leads to a declared parameter or response, so its target may be read as a
schema. -/
def IsSchemaHome (ref : String) : Prop :=
  ref.startsWith Parameter.declaredHome = true ∨ ref.startsWith Response.declaredHome = true

/-- Two values are read alike as the target of a reference. -/
structure TargetAlike (ref : String) (v w : Value) : Prop where
  declaration : v.ReadAlike w
  schema : IsSchemaHome ref → v = w

/-- A reference is untouched by the difference of two documents: it leads nowhere in both, or to
values that are read alike. -/
def Untouched (doc doc' : Value) (ref : String) : Prop :=
  Alike (TargetAlike ref) (Pointer.resolve doc ref) (Pointer.resolve doc' ref)

theorem TargetAlike.refl (ref : String) (v : Value) : TargetAlike ref v v where
  declaration _ _ := rfl
  schema _ := rfl

/-- A reference with the same outcome in both documents is untouched. -/
theorem untouched_of_alike (h : Alike Eq (Pointer.resolve doc ref) (Pointer.resolve doc' ref)) :
    Untouched doc doc' ref := by
  refine h.imp fun v w hvw => ?_
  rw [hvw]
  exact .refl ref w

/-- A reference into the declared parameters or responses begins with two keys. -/
theorem segments?_of_isSchemaHome (h : IsSchemaHome ref) :
    ∃ place ∈ ["parameters", "responses"], ∃ later,
      Pointer.segments? ref = some ("components" :: place :: later) := by
  rcases h with h | h
  · obtain ⟨later, hlater⟩ := String.startsWith_string_iff.mp h
    have hlist : ref.toList = '#' :: '/' ::
        ("components".toList ++ '/' :: ("parameters".toList ++ '/' :: later)) := hlater.symm
    exact ⟨"parameters", by decide, _, Pointer.segments?_of_toList (by decide) (by decide) hlist⟩
  · obtain ⟨later, hlater⟩ := String.startsWith_string_iff.mp h
    have hlist : ref.toList = '#' :: '/' ::
        ("components".toList ++ '/' :: ("responses".toList ++ '/' :: later)) := hlater.symm
    exact ⟨"responses", by decide, _, Pointer.segments?_of_toList (by decide) (by decide) hlist⟩

/-- A reference that does not lead through a changed place is untouched, if no declaration is read
under the keys of the way there, and if no schema is looked up on that way. -/
theorem untouched_of_changedAt {path : List String} (h : ChangedAt path doc doc')
    (hkeys : ∀ key ∈ path, key ∉ declarationKeys)
    (hhome : IsSchemaHome ref → ∀ segments, Pointer.segments? ref = some segments →
      ¬ segments <+: path)
    (hthrough : ¬ Pointer.LeadsThrough path ref) : Untouched doc doc' ref := by
  rcases Pointer.resolve_of_changedAt h hthrough with
    heq | ⟨segments, rest, a, b, hs, hrest, ha, hb, hab⟩
  · exact untouched_of_alike (.of_eq heq)
  · obtain ⟨key, hkey, houtside⟩ := hab.exists_agreeOutside
    have hpath : key ∉ declarationKeys := hkeys key (hrest ▸ List.mem_append_right segments hkey)
    rw [Untouched, ha, hb]
    refine .ok ⟨fun name hname => houtside name ?_, fun hschema => ?_⟩
    · rw [List.mem_singleton]
      rintro rfl
      exact hpath hname
    · exact absurd (hrest ▸ List.prefix_append segments rest) (hhome hschema segments hs)

/-- A change of the declared schemas is seen only by references that lead through them: what holds
them is read under other keys. -/
theorem untouched_of_schemas_changed (h : ChangedAt ["components", "schemas"] doc doc')
    (hthrough : ¬ Pointer.LeadsThrough ["components", "schemas"] ref) : Untouched doc doc' ref := by
  refine untouched_of_changedAt h (by decide) (fun hschema segments hs hprefix => ?_) hthrough
  obtain ⟨place, hplace, later, hlater⟩ := segments?_of_isSchemaHome hschema
  obtain rfl := Option.some.inj (hs.symm.trans hlater)
  have hne : place = "schemas" :=
    (List.cons_prefix_cons.mp (List.cons_prefix_cons.mp hprefix).2).1
  rw [hne] at hplace
  exact absurd hplace (by decide)

namespace Value

theorem ReadAlike.field_eq {v w : Value} (h : ReadAlike v w) {name : String}
    (hname : name ∈ declarationKeys) : v.field name = w.field name := by
  rw [field, field, h name hname]

/-- A value and its target are read alike if the reference is untouched. -/
theorem alike_dereference {v : Value}
    (h : ∀ ref, v.reference? = some ref → Untouched doc doc' ref) :
    Alike ReadAlike (dereference doc v) (dereference doc' v) := by
  unfold dereference
  cases hr : v.reference? with
  | none => exact .ok fun _ _ => rfl
  | some ref => exact ((h ref hr).imp fun _ _ htarget => htarget.declaration).mapError

/-- A schema is looked up with the same outcome. -/
theorem alike_dereferenceFrom {home : String} (hhome : ∀ ref, ref.startsWith home = true →
      IsSchemaHome ref) {v : Value}
    (h : ∀ ref, v.reference? = some ref → ref.startsWith home = true → Untouched doc doc' ref) :
    Alike Eq (dereferenceFrom home doc v) (dereferenceFrom home doc' v) := by
  unfold dereferenceFrom
  cases hr : v.reference? with
  | none => exact .ok rfl
  | some ref =>
    by_cases hstart : ref.startsWith home = true
    · simp only [if_pos hstart]
      exact ((h ref hr hstart).imp fun _ _ htarget => htarget.schema (hhome ref hstart)).mapError
    · simp only [if_neg hstart]
      exact .ok rfl

end Value

open Value

/-! ## Parameters -/

namespace Parameter

theorem outline_congr {v w : Value} (h : ReadAlike v w) (location : Location)
    (reserved : List String) : outline location v reserved = outline location w reserved := by
  simp only [outline, h "name" (by decide),
    h.field_eq (by decide : "description" ∈ declarationKeys),
    h.field_eq (by decide : "deprecated" ∈ declarationKeys),
    h.field_eq (by decide : "required" ∈ declarationKeys)]

/-- Declarations that are read alike describe the same parameter. -/
theorem alike_ofDeclaration? {v w : Value} (hvw : ReadAlike v w) (reserved : List String)
    (h : ∀ ref, (Location.ofValue? (v.field "in")).isSome = true →
      (v.field "schema").reference? = some ref → ref.startsWith declaredHome = true →
      Untouched doc doc' ref) :
    Alike Eq (ofDeclaration? doc v reserved) (ofDeclaration? doc' w reserved) := by
  unfold ofDeclaration?
  rw [← hvw.field_eq (by decide : "in" ∈ declarationKeys)]
  cases hl : Location.ofValue? (v.field "in") with
  | none => exact .ok rfl
  | some location =>
    have hschema : Alike Eq (schemaOf doc v) (schemaOf doc' w) := by
      unfold schemaOf
      rw [← hvw.field_eq (by decide : "schema" ∈ declarationKeys)]
      exact alike_dereferenceFrom (fun _ => .inl) fun ref hr hh => h ref (by rw [hl]; rfl) hr hh
    refine (Alike.of_eq (congrArg (fun n => ensureWritable n.toList)
      (hvw "name" (by decide)))).bind fun _ _ _ _ => ?_
    refine hschema.bind ?_
    rintro schema _ - rfl
    refine (Alike.of_eq rfl).bind fun _ _ _ _ => ?_
    rw [outline_congr hvw]
    exact .ok rfl

/-- A declaration leaves the same parameter in both documents. -/
theorem alike_kept? {v : Value} (h : ∀ ref, Consults doc v ref → Untouched doc doc' ref) :
    Alike Eq (kept? doc settings v) (kept? doc' settings v) := by
  unfold kept?
  refine (alike_dereference fun ref hr => h ref (.entry hr)).bind fun d d' hd hdd' => ?_
  refine (alike_ofDeclaration? hdd' _ fun ref hl hs hh => h ref (.schema hd hl hs hh)).bind ?_
  rintro o _ - rfl
  exact .ok rfl

end Parameter

namespace Inputs

/-- The same declarations describe the same inputs in both documents. -/
theorem alike_declared {v w : Value} (hitems : v.items? = w.items?)
    (h : ∀ ref, Consults doc v ref → Untouched doc doc' ref) :
    Alike Eq (declared doc settings v) (declared doc' settings w) := by
  unfold declared
  rw [← hitems]
  cases hvs : v.items? with
  | none => exact .ok rfl
  | some vs =>
    refine Alike.foldlM (P := fun _ => True) (List.forall₂_same.mpr fun a _ => Eq.refl a)
      (fun _ _ _ _ _ _ => trivial) ?_ trivial
    rintro a ha _ rfl i -
    rw [fileDeclaration_eq, fileDeclaration_eq]
    refine (Parameter.alike_kept? fun ref hr => h ref ⟨vs, hvs, a, ha, hr⟩).map ?_
    rintro o _ rfl
    rfl

end Inputs

/-! ## Responses -/

namespace Response

variable {mediaTypes : List String}

/-- Declarations that are read alike describe the same response. -/
theorem alike_ofDeclaration {v w : Value} (hvw : ReadAlike v w) (code : Int)
    (h : ∀ ref content, Content.select (v.field "content") mediaTypes = some content →
      content.schema.reference? = some ref → ref.startsWith declaredHome = true →
      Untouched doc doc' ref) :
    Alike Eq (ofDeclaration doc v code mediaTypes) (ofDeclaration doc' w code mediaTypes) := by
  unfold ofDeclaration
  rw [← hvw.field_eq (by decide : "description" ∈ declarationKeys),
    ← hvw.field_eq (by decide : "content" ∈ declarationKeys),
    ← hvw.field_eq (by decide : "headers" ∈ declarationKeys)]
  refine (Alike.of_eq rfl).bind ?_
  rintro chosen _ hchosen rfl
  cases chosen with
  | none => exact .of_eq rfl
  | some content =>
    have hschema : Alike Eq (schemaOf doc content.schema) (schemaOf doc' content.schema) :=
      alike_dereferenceFrom (fun _ => .inr) fun ref hr hh =>
        h ref content (Content.choose_eq_ok.mp hchosen).2 hr hh
    refine hschema.bind ?_
    rintro schema _ - rfl
    exact .of_eq rfl

theorem alike_ofEntries {es : Entries}
    (h : ∀ e ∈ es, ∀ ref, Consults doc mediaTypes e ref → Untouched doc doc' ref) :
    Alike Eq (ofEntries doc mediaTypes es) (ofEntries doc' mediaTypes es) := by
  induction es with
  | nil => exact .ok rfl
  | cons e es ih =>
    obtain ⟨k, v⟩ := e
    have hrest := ih fun e he => h e (List.mem_cons_of_mem _ he)
    rw [ofEntries, ofEntries]
    refine (Alike.of_eq rfl).bind ?_
    rintro code _ hread rfl
    have hc : statusCode? k.plain = code := (codeOf?_eq_ok.mp hread).2.2
    cases code with
    | none => exact hrest
    | some code =>
      have hcode : (statusCode? k.plain).isSome = true := by rw [hc]; rfl
      have hhead := h (k, v) List.mem_cons_self
      refine (alike_dereference fun ref hr => hhead ref (.entry hcode hr)).bind
        fun d d' hd hdd' => ?_
      refine (alike_ofDeclaration hdd' code fun ref content hs hr hh =>
        hhead ref (.schema hcode hd hs hr hh)).bind ?_
      rintro r _ - rfl
      refine hrest.bind ?_
      rintro rs _ - rfl
      exact .ok rfl

theorem alike_declared {v : Value}
    (h : ∀ e ∈ v.entries, ∀ ref, Consults doc mediaTypes e ref → Untouched doc doc' ref) :
    Alike Eq (declared doc v mediaTypes) (declared doc' v mediaTypes) := by
  refine (alike_ofEntries h).map ?_
  rintro rs _ rfl
  rfl

end Response

/-! ## Operations -/

namespace Operation

theorem requestBody_congr {v w : Value} (h : ReadAlike v w) (mediaTypes : List String) :
    requestBody v mediaTypes = requestBody w mediaTypes := by
  simp only [requestBody, h.field_eq (by decide : "description" ∈ declarationKeys),
    h.field_eq (by decide : "required" ∈ declarationKeys),
    h.field_eq (by decide : "content" ∈ declarationKeys)]

theorem describedBody_congr {v w : Value} (h : ReadAlike v w) (mediaTypes : List String) :
    describedBody v mediaTypes = describedBody w mediaTypes := by
  rw [describedBody, describedBody, requestBody_congr h,
    h.field_eq (by decide : "content" ∈ declarationKeys)]

variable {operation : Value}

theorem alike_bodyOf (h : ∀ ref, (operation.field "requestBody").reference? = some ref →
      Untouched doc doc' ref) :
    Alike Eq (bodyOf doc operation settings) (bodyOf doc' operation settings) := by
  unfold bodyOf
  simp only
  split
  · exact .ok rfl
  · refine (alike_dereference h).bind fun a b _ hab => ?_
    rw [describedBody_congr hab]
    exact .of_eq rfl

/-- An operation is the same in both documents. -/
theorem alike_ofDeclaration (path method : String) (inherited : Inputs)
    (h : ∀ ref, Consults doc settings operation ref → Untouched doc doc' ref) :
    Alike Eq (ofDeclaration doc path method operation inherited settings)
      (ofDeclaration doc' path method operation inherited settings) := by
  unfold ofDeclaration
  refine (Inputs.alike_declared rfl fun ref hr => h ref (.parameter hr)).bind ?_
  rintro own _ - rfl
  refine (alike_bodyOf fun ref hr => h ref (.body hr)).bind ?_
  rintro body _ - rfl
  refine (Response.alike_declared fun e he ref hr => h ref (.response he hr)).bind ?_
  rintro responses _ - rfl
  exact .ok rfl

end Operation

/-! ## Services -/

namespace Service

/-- A path lists an operation for a tag under a method. -/
def lists (tag : String) (item : Value) (method : String) : Bool :=
  (item.field method).isMapping && carries (item.field method) tag

/-- Two items of a path are the same to a tag: they have the same parameters, and the same under
every method unless neither lists an operation for the tag there. -/
structure SameFor (settings : Settings) (tag : String) (item item' : Value) : Prop where
  entries_eq_nil : item.entries = [] ↔ item'.entries = []
  parameters : (item.field "parameters").items? = (item'.field "parameters").items?
  operation : ∀ method ∈ settings.methods, item.field method = item'.field method ∨
    lists tag item method = false ∧ lists tag item' method = false

theorem SameFor.refl (tag : String) (item : Value) : SameFor settings tag item item where
  entries_eq_nil := Iff.rfl
  parameters := rfl
  operation _ _ := .inl rfl

variable {s : Service} {tag : String}

theorem alike_operationAt (key : Scalar) (method : String) (operation : Value) (inherited : Inputs)
    (h : ∀ ref, Operation.Consults doc settings operation ref → Untouched doc doc' ref) :
    Alike Eq (operationAt doc settings key method operation inherited)
      (operationAt doc' settings key method operation inherited) := by
  unfold operationAt
  refine (Alike.of_eq rfl).bind ?_
  rintro path _ - rfl
  exact (Operation.alike_ofDeclaration path method inherited h).mapError

/-- A method adds the same operation for the tag, or nothing. -/
theorem alike_visitMethod {item item' : Value} (key : Scalar) (inherited : Inputs) (method : String)
    (hitem : item.field method = item'.field method ∨
      lists s.name item method = false ∧ lists s.name item' method = false)
    (h : lists s.name item method = true → ∀ ref,
      Operation.Consults doc settings (item.field method) ref → Untouched doc doc' ref) :
    Alike Eq (visitMethod doc settings key item inherited s method)
      (visitMethod doc' settings key item' inherited s method) := by
  rcases hitem with heq | ⟨hnone, hnone'⟩
  · cases hlists : lists s.name item method with
    | false =>
      have hlists' : lists s.name item' method = false := by rw [lists, ← heq]; exact hlists
      rw [visitMethod_of_not_carries hlists, visitMethod_of_not_carries hlists']
      exact .ok rfl
    | true =>
      have hlists' : lists s.name item' method = true := by rw [lists, ← heq]; exact hlists
      rw [visitMethod_of_carries hlists, visitMethod_of_carries hlists', ← heq]
      refine (alike_operationAt key method _ inherited (h hlists)).map ?_
      rintro o _ rfl
      rfl
  · rw [visitMethod_of_not_carries hnone, visitMethod_of_not_carries hnone']
    exact .ok rfl

/-- A path adds the same operations for the tag. -/
theorem alike_visitPath {e e' : Scalar × Value} (hs : s.name = tag)
    (he : e ∈ (doc.field "paths").entries) (hee' : EntryRel (SameFor settings tag) e e')
    (h : ∀ ref, Consulted doc settings (· = tag) ref → Untouched doc doc' ref) :
    Alike Eq (visitPath doc settings s e) (visitPath doc' settings s e') := by
  obtain ⟨key, hitem⟩ := hee'
  rename_i item item'
  by_cases hnil : item.entries = []
  · rw [visitPath_of_nil hnil, visitPath_of_nil (hitem.entries_eq_nil.mp hnil)]
    exact .ok rfl
  · rw [visitPath_of_ne_nil hnil, visitPath_of_ne_nil (mt hitem.entries_eq_nil.mpr hnil)]
    have hinputs : Alike Eq (Inputs.declared doc settings (item.field "parameters"))
        (Inputs.declared doc' settings (item'.field "parameters")) :=
      Inputs.alike_declared hitem.parameters fun ref hr => h ref (.ofPath he hnil hr)
    refine hinputs.mapError.bind ?_
    rintro inherited _ - rfl
    refine Alike.foldlM (P := fun s => s.name = tag) (List.forall₂_same.mpr fun m _ => Eq.refl m)
      ?_ ?_ hs
    · rintro method - s t hname hstep
      rcases exists_of_visitMethod hstep with rfl | ⟨o, -, -, -, rfl⟩ <;> exact hname
    · rintro method hmethod _ rfl s rfl
      refine alike_visitMethod key inherited method (hitem.operation method hmethod) ?_
      intro hlists ref hr
      obtain ⟨hm, hc⟩ := Bool.and_eq_true_iff.mp hlists
      exact h ref (.ofOperation rfl ⟨he, hmethod, hm, hc⟩ hr)

/-- **The service of a tag is the same in two documents** whose paths are the same to the tag, if no
reference that is consulted for the tag is touched. -/
theorem alike_ofTag (tag : Value)
    (hpaths : List.Forall₂ (EntryRel (SameFor settings ((tagName? tag).getD "")))
      (doc.field "paths").entries (doc'.field "paths").entries)
    (h : ∀ ref, Consulted doc settings (· = (tagName? tag).getD "") ref →
      Untouched doc doc' ref) :
    Alike Eq (ofTag doc tag settings) (ofTag doc' tag settings) := by
  unfold ofTag
  refine Alike.foldlM (P := fun s => s.name = (tagName? tag).getD "") hpaths ?_ ?_ rfl
  · intro e he s t hname hstep
    exact (visitPath_preserves (P := fun _ => True) he (fun _ _ _ _ _ _ _ _ => trivial) hname
      trivial hstep).1
  · intro e he e' hee' s hname
    exact alike_visitPath hname he hee' h

/-- The services of the same tags are the same in two documents with the same paths. -/
theorem alike_ofTags (hpaths : doc.field "paths" = doc'.field "paths") (tags : List Value)
    (h : ∀ t ∈ tags, ∀ tag, tagName? t = some tag → ∀ ref,
      Consulted doc settings (· = tag) ref → Untouched doc doc' ref) :
    Alike Eq (ofTags doc settings tags) (ofTags doc' settings tags) := by
  have hentries : ∀ tag, List.Forall₂ (EntryRel (SameFor settings tag))
      (doc.field "paths").entries (doc'.field "paths").entries := by
    intro tag
    rw [← hpaths]
    exact List.forall₂_same.mpr fun e _ => .mk e.1 (.refl tag e.2)
  induction tags with
  | nil => exact .ok rfl
  | cons t tags ih =>
    have hrest := ih fun t' ht' => h t' (List.mem_cons_of_mem t ht')
    cases hn : tagName? t with
    | none =>
      rw [ofTags, ofTags, if_neg (by simp [hn]), if_neg (by simp [hn])]
      exact hrest
    | some tag =>
      rw [ofTags, ofTags, if_pos (by rw [hn]; rfl), if_pos (by rw [hn]; rfl)]
      have hfirst : Alike Eq (ofTag doc t settings) (ofTag doc' t settings) := by
        refine alike_ofTag t (hentries _) ?_
        rw [hn]
        exact h t List.mem_cons_self tag hn
      refine hfirst.bind ?_
      rintro first _ - rfl
      refine hrest.bind ?_
      rintro others _ - rfl
      exact .ok rfl

/-- What is consulted for one declared tag is consulted for all of them. -/
theorem Consulted.mono {tags tags' : String → Prop} (h : Consulted doc settings tags ref)
    (himp : ∀ tag, tags tag → tags' tag) : Consulted doc settings tags' ref := by
  rcases h with ⟨he, hne, h⟩ | ⟨ht, hv, h⟩
  · exact .ofPath he hne h
  · exact .ofOperation (himp _ ht) hv h

/-- The services of two documents with the same tags and the same paths are the same if no reference
that is consulted is touched. -/
theorem alike_ofDocument (htags : doc.field "tags" = doc'.field "tags")
    (hpaths : doc.field "paths" = doc'.field "paths")
    (h : ∀ ref, Consulted doc settings (IsDeclaredTag doc) ref → Untouched doc doc' ref) :
    Alike Eq (ofDocument doc settings) (ofDocument doc' settings) := by
  unfold ofDocument
  rw [← htags]
  cases hitems : (doc.field "tags").items? with
  | none => exact .ok rfl
  | some tags =>
    refine alike_ofTags hpaths tags fun t ht tag hn ref hconsulted => ?_
    refine h ref (hconsulted.mono ?_)
    rintro _ rfl
    exact ⟨tags, hitems, t, ht, hn⟩

/-- **Extraction is local.**  Let two documents have the same tags and the same paths, and let every
reference that is consulted lead to the same value in both, or nowhere in both.  Then both documents
have the same services, or both have none because of an error.  In particular the declared schemas
may be changed in any way, if no reference that is consulted leads through them. -/
theorem ofDocument_local (doc doc' : Value) (settings : Settings)
    (htags : doc.field "tags" = doc'.field "tags")
    (hpaths : doc.field "paths" = doc'.field "paths") :
    ((∀ ref, Consulted doc settings (IsDeclaredTag doc) ref →
        (∃ v, Pointer.resolve doc ref = .ok v ∧ Pointer.resolve doc' ref = .ok v) ∨
          (∃ cause, Pointer.resolve doc ref = .error cause) ∧
            ∃ cause, Pointer.resolve doc' ref = .error cause) →
      (∃ ss, ofDocument doc settings = .ok ss ∧ ofDocument doc' settings = .ok ss) ∨
        (∃ e, ofDocument doc settings = .error e) ∧ ∃ e, ofDocument doc' settings = .error e) ∧
    (ChangedAt ["components", "schemas"] doc doc' →
      (∀ ref, Consulted doc settings (IsDeclaredTag doc) ref →
        ¬ Pointer.LeadsThrough ["components", "schemas"] ref) →
      (∃ ss, ofDocument doc settings = .ok ss ∧ ofDocument doc' settings = .ok ss) ∨
        (∃ e, ofDocument doc settings = .error e) ∧ ∃ e, ofDocument doc' settings = .error e) := by
  constructor
  · intro hsame
    refine Alike.eq_iff.mp (alike_ofDocument htags hpaths fun ref href => ?_)
    exact untouched_of_alike (Alike.eq_iff.mpr (hsame ref href))
  · intro hchanged hthrough
    refine Alike.eq_iff.mp (alike_ofDocument htags hpaths fun ref href => ?_)
    exact untouched_of_schemas_changed hchanged (hthrough ref href)

/-! ## A catalog with other schemas -/

/-- A parameter that limits a list. -/
def sampleLimit : Value :=
  .mapping [(.text "in", .text "query"), (.text "name", .text "limit")]

/-- A list of pets, which is limited by a declared parameter. -/
def sampleListing : Value :=
  .mapping [
    (.text "tags", .list [.text "pets"]),
    (.text "parameters", .list [
      .mapping [(.text "$ref", .text "#/components/parameters/Limit")]]),
    (.text "responses", .mapping [(.text "200", .mapping [(.text "content", .mapping [
      (.text "application/json", .mapping [(.text "schema",
        .mapping [(.text "$ref", .text "#/components/schemas/Pet")])])])])])]

theorem eq_of_consults_sampleListing
    (hlimit : Pointer.resolve doc "#/components/parameters/Limit" = .ok sampleLimit)
    (h : Operation.Consults doc {} sampleListing ref) : ref = "#/components/parameters/Limit" := by
  rcases h with ⟨vs, hvs, v, hmem, h⟩ | h | ⟨he, h⟩
  · cases hvs
    obtain rfl := List.mem_singleton.mp hmem
    rcases h with h | ⟨hd, -, hs, -⟩
    · exact (Option.some.inj h).symm
    · cases hlimit.symm.trans (mapError_eq_ok.mp hd)
      cases hs
  · cases h
  · obtain rfl := List.mem_singleton.mp he
    rcases h with ⟨-, h⟩ | ⟨-, hd, hs, hr, hh⟩
    · cases h
    · cases hd
      cases hs
      cases hr
      exact absurd (String.startsWith_string_iff.mp hh) (by decide)

/-- A document with this operation and some schemas. -/
def sampleCatalog (schemas : Value) : Value :=
  .mapping [
    (.text "tags", .list [.mapping [(.text "name", .text "pets")]]),
    (.text "paths", .mapping [(.text "/pets", .mapping [(.text "get", sampleListing)])]),
    (.text "components", .mapping [
      (.text "parameters", .mapping [(.text "Limit", sampleLimit)]),
      (.text "schemas", schemas)])]

theorem eq_of_consulted_sampleCatalog {schemas : Value} {tags : String → Prop}
    (h : Consulted (sampleCatalog schemas) {} tags ref) :
    ref = "#/components/parameters/Limit" := by
  rcases h with ⟨he, -, vs, hvs, -⟩ | @⟨tag, key, item, method, -, hv, h⟩
  · obtain rfl := List.mem_singleton.mp he
    cases hvs
  · obtain ⟨rfl, rfl⟩ := Prod.mk.inj (List.mem_singleton.mp hv.entry)
    have hmethod : method = "get" := by
      by_contra hne
      have hmapping := hv.isMapping
      simp [Value.field, Entries.get?, Ne.symm hne] at hmapping
      exact Bool.false_ne_true hmapping
    subst hmethod
    exact eq_of_consults_sampleListing rfl h

/-- Schemas with a pet. -/
def sampleSchemas : Value :=
  .mapping [(.text "Pet", .mapping [(.text "type", .text "object")])]

theorem exists_ofDocument_sampleCatalog :
    ∃ ss, ofDocument (sampleCatalog sampleSchemas) = .ok ss :=
  exists_eq_ok_of_isOk (by decide +kernel)

/-- Schemas without a pet, and not even schemas. -/
def sampleOtherSchemas : Value := .mapping [(.text "Dog", .bool true)]

theorem ofDocument_sampleCatalog_local :
    ChangedAt ["components", "schemas"] (sampleCatalog sampleSchemas)
        (sampleCatalog sampleOtherSchemas) ∧
      ∃ ss, ofDocument (sampleCatalog sampleSchemas) = .ok ss ∧
        ofDocument (sampleCatalog sampleOtherSchemas) = .ok ss := by
  have hchanged : ChangedAt ["components", "schemas"] (sampleCatalog sampleSchemas)
      (sampleCatalog sampleOtherSchemas) := by
    refine .inside rfl rfl (.cons_same _ _ (.cons_same _ _ (.cons (by decide) _ _ .nil)))
      (.last rfl rfl ?_)
    exact .cons_same _ _ (.cons (by decide) _ _ .nil)
  have hthrough : ∀ ref, Consulted (sampleCatalog sampleSchemas) {}
      (IsDeclaredTag (sampleCatalog sampleSchemas)) ref →
      ¬ Pointer.LeadsThrough ["components", "schemas"] ref := by
    rintro ref href ⟨segments, hs, hprefix⟩
    rw [eq_of_consulted_sampleCatalog href] at hs
    obtain rfl := Option.some.inj hs
    exact absurd hprefix (by decide)
  refine ⟨hchanged, ?_⟩
  rcases (ofDocument_local (sampleCatalog sampleSchemas) (sampleCatalog sampleOtherSchemas) {} rfl
    rfl).2 hchanged hthrough with hok | ⟨hfails, -⟩
  · exact hok
  · obtain ⟨ss, hss⟩ := exists_ofDocument_sampleCatalog
    obtain ⟨e, he⟩ := hfails
    cases hss.symm.trans he

end Service
end ServiceCatalog
