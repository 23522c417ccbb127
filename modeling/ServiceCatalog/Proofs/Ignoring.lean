import ServiceCatalog.Proofs.Filing

/-!
# Ignoring further parameters

A project may ignore parameters by name, those that its transport supplies.  Ignoring further names
takes the parameters with these names away and does nothing else: an operation that could not be
read still cannot be read, for the same reason, and one that could be read is the same but for these
parameters and their imports.

## Two readings side by side

`Parameter.kept` says what a list of declarations leaves without any state, so here the two readings
are compared by a single equation: what is left under the further names is the part of what was left
before that has none of them (`Parameter.kept_ignoring`).  It is an equation of readings that may
fail, and this is the point.  A declaration is read before its name is looked at, hence a reference
that leads nowhere is found under either setting.

The rest is about lists.  The lists of inputs are parts of one list (`Inputs.Filed`), and taking
parts commutes with taking parts; the order of a signature is that of two parts of a list
(`Parameter.mandatoryFirst_filter`).  What is no parameter of a declaration, the body above all,
does not depend on ignored names.
-/

namespace ServiceCatalog

open Attempt

/-- The settings with these ignored parameters. -/
def Settings.ignoring (settings : Settings) (ignored : List String) : Settings :=
  { settings with ignoredParameters := ignored }

section

variable {doc : Value} {settings : Settings} {ignored names : List String}

/-! ## What declarations leave -/

namespace Parameter

/-- A parameter has none of these names in the document. -/
def isSpared (names : List String) (p : Parameter) : Bool := !names.contains p.prop

section keeping

variable (h : ∀ s, s ∈ ignored ↔ s ∈ settings.ignoredParameters ∨ s ∈ names)
include h

theorem isKept_ignoring (p : Parameter) :
    isKept (settings.ignoring ignored) p = (isKept settings p && isSpared names p) := by
  have hp := h p.prop
  rw [Bool.eq_iff_iff]
  simp only [isKept, isSpared, Settings.ignoring, Bool.and_eq_true, Bool.not_eq_true',
    ← Bool.not_eq_true, List.contains_iff_mem, hp, not_or]
  tauto

theorem kept?_ignoring (v : Value) :
    kept? doc (settings.ignoring ignored) v =
      (kept? doc settings v).map (Option.filter (isSpared names)) := by
  have hkept : isKept (settings.ignoring ignored) =
      fun p => isKept settings p && isSpared names p := funext (isKept_ignoring h)
  unfold kept?
  cases Value.dereference doc v with
  | error e => rfl
  | ok declaration =>
    show (ofDeclaration? doc declaration settings.reservedParameterNames >>= fun p =>
        pure (p.filter (isKept (settings.ignoring ignored)))) =
      (ofDeclaration? doc declaration settings.reservedParameterNames >>= fun p =>
        pure (p.filter (isKept settings))).map _
    rw [hkept]
    cases ofDeclaration? doc declaration settings.reservedParameterNames with
    | error e => rfl
    | ok p => exact congrArg Except.ok Option.filter_filter.symm

/-- One declaration after the other: each leaves what it left before, unless this has one of the
names. -/
theorem keptAll_ignoring (vs : List Value) :
    keptAll doc (settings.ignoring ignored) vs =
      (keptAll doc settings vs).map (List.filter (isSpared names)) := by
  induction vs with
  | nil => rfl
  | cons v vs ih =>
    rw [keptAll, keptAll, kept?_ignoring h, ih]
    cases kept? doc settings v with
    | error e => rfl
    | ok p =>
      cases keptAll doc settings vs with
      | error e => rfl
      | ok ps =>
        refine congrArg Except.ok ?_
        rw [List.filter_append, Option.toList_filter]

/-- **What is left under further names** is what was left before, but for the parameters with these
names.  A declaration that cannot be read is one under either setting. -/
theorem kept_ignoring (v : Value) :
    kept doc (settings.ignoring ignored) v =
      (kept doc settings v).map (List.filter (isSpared names)) := by
  unfold kept
  cases v.items? with
  | none => rfl
  | some vs => exact keptAll_ignoring h vs

end keeping

/-- A parameter is a body: it has the location without a list, or a media type. -/
def isBody (p : Parameter) : Bool := p.location = .body || p.mediaType.isSome

theorem isBody_iff {p : Parameter} :
    p.isBody = true ↔ p.location = .body ∨ p.mediaType ≠ none := by
  rw [isBody, Bool.or_eq_true, decide_eq_true_eq, Option.isSome_iff_ne_none]

/-- What a declaration of a parameter leaves is no body. -/
theorem isBody_of_mem_kept {v : Value} {ps : List Parameter} (h : kept doc settings v = .ok ps)
    {p : Parameter} (hp : p ∈ ps) : p.isBody = false := by
  obtain ⟨hkept, hmedia⟩ := isKept_of_mem_kept h hp
  rw [← Bool.not_eq_true, isBody_iff, not_or]
  refine ⟨?_, fun hne => hne hmedia⟩
  simp only [isKept, Bool.and_eq_true, decide_eq_true_eq] at hkept
  exact hkept.1

/-- Where the only body stands behind the others, it is what is left in any case. -/
theorem filter_append_body {ps : List Parameter} {body : Option Parameter}
    (hps : ∀ p ∈ ps, p.isBody = false) (hbody : ∀ b ∈ body, b.isBody = true) :
    ((ps ++ body.toList).filter fun p => p.isBody || p.isSpared names) =
      ps.filter (isSpared names) ++ body.toList := by
  rw [List.filter_append]
  refine congrArg₂ (· ++ ·) (List.filter_congr fun p hp => ?_)
    (List.filter_eq_self.mpr fun b hb => ?_)
  · rw [hps p hp, Bool.false_or]
  · rw [hbody b (Option.mem_toList.mp hb), Bool.true_or]

end Parameter

/-! ## Inputs with fewer parameters -/

namespace Inputs

/-- Inputs without the parameters that have one of these names, but with their body.  The imports
come apart, since inputs do not say which import is whose. -/
def without (names : List String) (imports : List String) (i : Inputs) : Inputs where
  imports := imports
  parameters := i.parameters.filter fun p => p.isBody || p.isSpared names
  pathParameters := i.pathParameters.filter (Parameter.isSpared names)
  queryParameters := i.queryParameters.filter (Parameter.isSpared names)
  formParameters := i.formParameters.filter (Parameter.isSpared names)
  cookieParameters := i.cookieParameters.filter (Parameter.isSpared names)
  headerParameters := i.headerParameters.filter (Parameter.isSpared names)
  body := i.body

theorem eq_without {i j : Inputs} {imports : List String} (himports : j.imports = imports)
    (hparameters : j.parameters = i.parameters.filter fun p => p.isBody || p.isSpared names)
    (hbucket : ∀ l, j.bucket l = (i.bucket l).filter (Parameter.isSpared names))
    (hbody : j.body = i.body) : j = i.without names imports := by
  have hpath := hbucket .path
  have hquery := hbucket .query
  have hform := hbucket .formData
  have hcookie := hbucket .cookie
  have hheader := hbucket .header
  cases i
  cases j
  simp only [bucket] at *
  subst_vars
  rfl

/-- The lists of the spared parameters are the spared parts of the lists. -/
theorem Filed.bucket_filter {i j : Inputs} {ps : List Parameter} (hi : i.Filed ps)
    (hj : j.Filed (ps.filter (Parameter.isSpared names))) (l : Location) :
    j.bucket l = (i.bucket l).filter (Parameter.isSpared names) := by
  rw [hi.bucket_eq, hj.bucket_eq, List.filter_filter, List.filter_filter]
  exact List.filter_congr fun p _ => Bool.and_comm _ _

/-- A list of declarations fails under either setting and for the same reason, or leaves some
parameters under the one and the spared ones of them under the other. -/
theorem declared_ignoring (doc : Value)
    (h : ∀ s, s ∈ ignored ↔ s ∈ settings.ignoredParameters ∨ s ∈ names) (v : Value) :
    (∃ e, declared doc settings v = .error e ∧
      declared doc (settings.ignoring ignored) v = .error e) ∨
    ∃ ps i j, Parameter.kept doc settings v = .ok ps ∧ declared doc settings v = .ok i ∧
      declared doc (settings.ignoring ignored) v = .ok j ∧ i.Filed ps ∧
      j.Filed (ps.filter (Parameter.isSpared names)) := by
  have hkept' : Parameter.kept doc (settings.ignoring ignored) v =
      (Parameter.kept doc settings v).map (List.filter (Parameter.isSpared names)) :=
    Parameter.kept_ignoring h v
  cases hkept : Parameter.kept doc settings v with
  | error e =>
    rw [hkept] at hkept'
    exact .inl ⟨e, by rw [declared_eq, hkept]; rfl, by rw [declared_eq, hkept']; rfl⟩
  | ok ps =>
    rw [hkept] at hkept'
    have hi : declared doc settings v = .ok (ps.foldl file {}) := by
      rw [declared_eq, hkept]
      rfl
    have hj : declared doc (settings.ignoring ignored) v =
        .ok ((ps.filter (Parameter.isSpared names)).foldl file {}) := by
      rw [declared_eq, hkept']
      rfl
    obtain ⟨qs, hqs, hfi⟩ := filed_of_declared hi
    obtain ⟨qs', hqs', hfj⟩ := filed_of_declared hj
    cases hkept.symm.trans hqs
    cases hkept'.symm.trans hqs'
    exact .inr ⟨ps, _, _, rfl, hi, hj, hfi, hfj⟩

end Inputs

/-! ## Operations with fewer parameters -/

namespace Operation

/-- The operation that a mapping describes on a path with these declarations. -/
def ofDeclarations (doc : Value) (path method : String) (declarations operation : Value)
    (settings : Settings) : Except DescriptionError Operation := do
  let inherited ← Inputs.declared doc settings declarations
  ofDeclaration doc path method operation inherited settings

/-- What parameters and results import, in this order. -/
def importsOf (ps : List Parameter) (results : List Response) : List String :=
  (ps.flatMap fun p => p.imports) ++ results.flatMap fun r => r.imports

/-- An operation without the parameters that have one of these names, with these imports. -/
def without (names : List String) (imports : List String) (o : Operation) : Operation :=
  { o with toInputs := o.toInputs.without names imports }

variable {path method : String} {declarations operation : Value} {inputs : Inputs}
  {body : Option Parameter} {responses : List Response}

theorem isBody_of_bodyOf {b : Parameter} (h : bodyOf doc operation settings = .ok (some b)) :
    b.isBody = true :=
  Parameter.isBody_iff.mpr (location_of_bodyOf h)

theorem imports_assemble_filed {ps : List Parameter} (h : inputs.Filed ps) :
    (assemble path method operation (inputs.withBody? body) responses settings).imports =
      importsOf (ps ++ body.toList) (Response.results responses) := by
  show (inputs.withBody? body).imports ++ _ = _
  rw [Inputs.imports_withBody?, h.imports_eq, importsOf, List.flatMap_append]

/-- The same operation on fewer inputs. -/
theorem assemble_eq_without {i j : Inputs} {ps : List Parameter} (hi : i.Filed ps)
    (hj : j.Filed (ps.filter (Parameter.isSpared names))) (hps : ∀ p ∈ ps, p.isBody = false)
    (hbody : ∀ b ∈ body, b.isBody = true) :
    assemble path method operation (j.withBody? body) responses settings =
      (assemble path method operation (i.withBody? body) responses settings).without names
        (importsOf (ps.filter (Parameter.isSpared names) ++ body.toList)
          (Response.results responses)) := by
  let o := assemble path method operation (i.withBody? body) responses settings
  let o' := assemble path method operation (j.withBody? body) responses settings
  have hparameters : o'.parameters =
      o.parameters.filter fun p => p.isBody || p.isSpared names := by
    rw [parameters_assemble, parameters_assemble, Inputs.parameters_withBody?,
      Inputs.parameters_withBody?, hi.parameters_eq, hj.parameters_eq,
      ← Parameter.mandatoryFirst_filter, Parameter.filter_append_body hps hbody]
  have hbucket : ∀ l, o'.bucket l = (o.bucket l).filter (Parameter.isSpared names) := by
    intro l
    rw [bucket_assemble, bucket_assemble, Inputs.bucket_withBody?, Inputs.bucket_withBody?]
    exact hi.bucket_filter hj l
  have hbodyEq : o'.body = o.body := by
    show (j.withBody? body).body = (i.withBody? body).body
    rw [hi.body_withBody?, hj.body_withBody?]
  have hinputs : o'.toInputs = o.toInputs.without names _ :=
    Inputs.eq_without (imports_assemble_filed hj) hparameters hbucket hbodyEq
  show ({ o with toInputs := o'.toInputs } : Operation) = _
  rw [hinputs]
  rfl

/-- The two readings of an operation: both fail and for the same reason, or both are made of the
same body and the same responses, one of them on the spared inputs of the other. -/
theorem ofDeclarations_ignoring_cases (doc : Value) (path method : String)
    (declarations operation : Value)
    (h : ∀ s, s ∈ ignored ↔ s ∈ settings.ignoredParameters ∨ s ∈ names) :
    (∃ e, ofDeclarations doc path method declarations operation settings = .error e ∧
      ofDeclarations doc path method declarations operation (settings.ignoring ignored) =
        .error e) ∨
    ∃ (ofPath own : List Parameter) (i j : Inputs) (body : Option Parameter)
      (responses : List Response),
      Parameter.kept doc settings declarations = .ok ofPath ∧
      Parameter.kept doc settings (operation.field "parameters") = .ok own ∧
      i.Filed (ofPath ++ own) ∧ j.Filed ((ofPath ++ own).filter (Parameter.isSpared names)) ∧
      bodyOf doc operation settings = .ok body ∧
      ofDeclarations doc path method declarations operation settings =
        .ok (assemble path method operation (i.withBody? body) responses settings) ∧
      ofDeclarations doc path method declarations operation (settings.ignoring ignored) =
        .ok (assemble path method operation (j.withBody? body) responses settings) := by
  rcases Inputs.declared_ignoring doc h declarations with
    ⟨e, he, he'⟩ | ⟨ofPath, i, i', hofPath, hi, hi', hfiled, hfiled'⟩
  · exact .inl ⟨e, by rw [ofDeclarations, he]; rfl, by rw [ofDeclarations, he']; rfl⟩
  have hread : ofDeclarations doc path method declarations operation settings =
      ofDeclaration doc path method operation i settings := by
    rw [ofDeclarations, hi]
    rfl
  have hread' : ofDeclarations doc path method declarations operation
      (settings.ignoring ignored) =
      ofDeclaration doc path method operation i' (settings.ignoring ignored) := by
    rw [ofDeclarations, hi']
    rfl
  -- the body and the responses are read under settings that say the same of them
  have hbody' : bodyOf doc operation (settings.ignoring ignored) =
      bodyOf doc operation settings := rfl
  have hmediaTypes : (settings.ignoring ignored).mediaTypes = settings.mediaTypes := rfl
  rw [hread, hread', ofDeclaration, ofDeclaration, hbody', hmediaTypes]
  rcases Inputs.declared_ignoring doc h (operation.field "parameters") with
    ⟨e, he, he'⟩ | ⟨own, k, k', hown, hk, hk', hfiledOwn, hfiledOwn'⟩
  · exact .inl ⟨e, by rw [he]; rfl, by rw [he']; rfl⟩
  rw [hk, hk']
  cases bodyOf doc operation settings with
  | error e => exact .inl ⟨e, rfl, rfl⟩
  | ok body =>
    cases Response.declared doc (operation.field "responses") settings.mediaTypes with
    | error e => exact .inl ⟨e, rfl, rfl⟩
    | ok responses =>
      have hj := hfiled'.extend hfiledOwn'
      rw [← List.filter_append] at hj
      exact .inr ⟨ofPath, own, i.extend k, i'.extend k', body, responses, hofPath, hown,
        hfiled.extend hfiledOwn, hj, rfl, rfl, rfl⟩

/-- **Ignoring further parameters takes these away and does nothing else.**  Let the settings ignore
`names` besides what they ignore.  Then an operation fails to be read exactly as before.  If it is
read, `ofPath` and `own` being the parameters that the declarations of its path and its own leave,
it is the same but for the declared parameters with these names, in the lists by location and in the
list of all, and for the imports of these.  The body stays, whatever its name; it is the only
parameter that has a media type or no list. -/
theorem ofDeclarations_ignoring (doc : Value) (path method : String)
    (declarations operation : Value) (settings : Settings) {ignored names : List String}
    (h : ∀ s, s ∈ ignored ↔ s ∈ settings.ignoredParameters ∨ s ∈ names) :
    (∀ e, ofDeclarations doc path method declarations operation (settings.ignoring ignored) =
        .error e ↔
      ofDeclarations doc path method declarations operation settings = .error e) ∧
    ∀ o, ofDeclarations doc path method declarations operation settings = .ok o →
      ∃ ofPath own, Parameter.kept doc settings declarations = .ok ofPath ∧
        Parameter.kept doc settings (operation.field "parameters") = .ok own ∧
        o.parameters = Parameter.mandatoryFirst (ofPath ++ own ++ o.body.toList) ∧
        o.imports = importsOf (ofPath ++ own ++ o.body.toList) o.results ∧
        (∀ p ∈ o.parameters, p.isBody = true ↔ o.body = some p) ∧
        ofDeclarations doc path method declarations operation (settings.ignoring ignored) =
          .ok (o.without names (importsOf
            ((ofPath ++ own).filter (Parameter.isSpared names) ++ o.body.toList) o.results)) := by
  rcases ofDeclarations_ignoring_cases doc path method declarations operation h with
    ⟨e, he, he'⟩ | ⟨ofPath, own, i, j, body, responses, hofPath, hown, hi, hj, hbody, ho, ho'⟩
  · rw [he, he']
    refine ⟨fun _ => Iff.rfl, fun o ho => ?_⟩
    cases ho
  rw [ho, ho']
  refine ⟨fun _ => ⟨nofun, nofun⟩, fun o heq => ?_⟩
  cases heq
  have hdeclared : ∀ p ∈ ofPath ++ own, p.isBody = false := fun p hp =>
    (List.mem_append.mp hp).elim (Parameter.isBody_of_mem_kept hofPath)
      (Parameter.isBody_of_mem_kept hown)
  have hisBody : ∀ b ∈ body, b.isBody = true := fun b hb =>
    isBody_of_bodyOf (hb ▸ hbody)
  have hobody : (assemble path method operation (i.withBody? body) responses settings).body =
      body := hi.body_withBody? body
  have hparameters : (assemble path method operation (i.withBody? body) responses
      settings).parameters = Parameter.mandatoryFirst (ofPath ++ own ++ body.toList) := by
    rw [parameters_assemble, Inputs.parameters_withBody?, hi.parameters_eq]
  rw [hobody]
  refine ⟨ofPath, own, hofPath, hown, hparameters, imports_assemble_filed hi, fun p hp => ?_,
    congrArg Except.ok (assemble_eq_without hi hj hdeclared hisBody)⟩
  rw [hparameters] at hp
  have hp : p ∈ ofPath ++ own ++ body.toList := (Parameter.mandatoryFirst_perm _).mem_iff.mp hp
  refine ⟨fun hb => ?_, fun hb => hisBody p hb⟩
  rcases List.mem_append.mp hp with hp | hp
  · rw [hdeclared p hp] at hb
    cases hb
  · exact Option.mem_toList.mp hp

/-- The upload for a tenant, with the header ignored and a name that only its body has. -/
theorem ofDeclarations_ignoring_sampleUpload :
    ∃ o o', ofDeclarations .empty "/files" "post" sampleTenant sampleUpload {} = .ok o ∧
      ofDeclarations .empty "/files" "post" sampleTenant sampleUpload
        (Settings.ignoring {} ["api-version", "tenant", "formData"]) = .ok o' ∧
      (o.headerParameters.map fun p => p.prop) = ["tenant"] ∧ o'.headerParameters = [] ∧
      o'.formParameters = o.formParameters ∧
      ∃ b, o'.body = some b ∧ b.prop = "formData" ∧ b ∈ o'.parameters := by
  have hlists : (ofDeclarations .empty "/files" "post" sampleTenant sampleUpload {}).map
      (fun o => (o.headerParameters.map fun p => p.prop, o.formParameters.map fun p => p.prop,
        o.body.map fun b => b.prop)) = .ok (["tenant"], ["file"], some "formData") := by
    decide +kernel
  obtain ⟨o, ho, hlists⟩ := map_eq_ok.mp hlists
  obtain ⟨hheader, hform, hprop⟩ := And.imp_right Prod.mk.inj (Prod.mk.inj hlists)
  obtain ⟨b, hb, hprop⟩ := Option.map_eq_some_iff.mp hprop
  have hignored : ∀ s, s ∈ ["api-version", "tenant", "formData"] ↔
      s ∈ ({} : Settings).ignoredParameters ∨ s ∈ ["tenant", "formData"] := fun s => by
    simp only [defaultIgnoredParameters, List.mem_cons, List.not_mem_nil, or_false]
  obtain ⟨-, hsuccess⟩ := ofDeclarations_ignoring .empty "/files" "post" sampleTenant
    sampleUpload {} hignored
  obtain ⟨ofPath, own, -, -, hparameters, -, hisBody, ho'⟩ := hsuccess o ho
  have hmem : b ∈ o.parameters := by
    rw [hparameters, hb]
    exact (Parameter.mandatoryFirst_perm _).mem_iff.mpr
      (List.mem_append_right _ List.mem_cons_self)
  refine ⟨o, _, ho, ho', hheader, ?_, ?_, b, hb, hprop, ?_⟩
  · refine List.filter_eq_nil_iff.mpr fun p hp => ?_
    have hp : p.prop = "tenant" :=
      List.mem_singleton.mp (hheader ▸ List.mem_map_of_mem hp)
    simp [Parameter.isSpared, hp]
  · refine List.filter_eq_self.mpr fun p hp => ?_
    have hp : p.prop = "file" := List.mem_singleton.mp (hform ▸ List.mem_map_of_mem hp)
    simp [Parameter.isSpared, hp]
  · refine List.mem_filter.mpr ⟨hmem, ?_⟩
    rw [(hisBody b hmem).mpr hb, Bool.true_or]

end Operation

end
end ServiceCatalog
