import Mathlib.Data.List.Perm.Basic
import Mathlib.Data.List.Nodup
import ServiceCatalog.Proofs.Descriptions
import ServiceCatalog.Proofs.StableSort

/-!
# The lists of an operation agree

Inputs hold every parameter twice, in the list of all and in the list of its location, and an
operation gets them from three sources that add to these lists in three ways: the path, its own
declarations, and its body.  At the end one of the lists is sorted and the others are not.  Nothing
in the types keeps the lists in step, so this file does.

## The invariant

`Inputs.Filed i ps` says that the inputs `i` hold the parameters `ps` and nothing else: the list of
all *is* `ps`, and each list by location is the part of `ps` with that location, in the order of
`ps`.  It holds of empty inputs, filing a parameter appends it to `ps`, and extending inputs appends
the two lists.  What `ps` is for a list of declarations is said apart, by `Parameter.kept`: one
declaration after the other, without any state.

## The body

A body is filed nowhere but as the body.  That needs an argument for bodies that are sent as form
fields, since these say of themselves that they are form data: a body that says so has a media type,
and no declared parameter has one.
-/

namespace ServiceCatalog

open Attempt

variable {doc operation : Value} {settings : Settings}

/-! ## What declarations leave -/

namespace Parameter

/-- A declared parameter is kept: there is a list for its location, and its name is not ignored. -/
def isKept (settings : Settings) (p : Parameter) : Bool :=
  p.location ≠ .body && !settings.ignoredParameters.contains p.prop

/-- The parameter that one declaration leaves, if it leaves any. -/
def kept? (doc : Value) (settings : Settings) (v : Value) :
    Except DescriptionError (Option Parameter) := do
  let declaration ← Value.dereference doc v
  let p ← ofDeclaration? doc declaration settings.reservedParameterNames
  return p.filter (isKept settings)

/-- The parameters that a list of declarations leaves, in order. -/
def keptAll (doc : Value) (settings : Settings) :
    List Value → Except DescriptionError (List Parameter)
  | [] => .ok []
  | v :: vs => do
    let p ← kept? doc settings v
    let ps ← keptAll doc settings vs
    return p.toList ++ ps

/-- The parameters that a value leaves which should be a list of declarations. -/
def kept (doc : Value) (settings : Settings) (v : Value) :
    Except DescriptionError (List Parameter) :=
  match v.items? with
  | some declarations => keptAll doc settings declarations
  | none => .ok []

/-- A parameter that a declaration leaves comes from what the declaration refers to. -/
theorem exists_of_kept? {v : Value} {p : Parameter} (h : kept? doc settings v = .ok (some p)) :
    isKept settings p = true ∧ ∃ declaration, Value.dereference doc v = .ok declaration ∧
      ofDeclaration? doc declaration settings.reservedParameterNames = .ok (some p) := by
  simp only [kept?, bind_eq_ok, pure_eq_ok] at h
  obtain ⟨declaration, hd, o, ho, hp⟩ := h
  rw [Option.filter_eq_some_iff] at hp
  obtain ⟨rfl, hk⟩ := hp
  exact ⟨hk, declaration, hd, ho⟩

theorem isKept_of_kept? {v : Value} {p : Parameter} (h : kept? doc settings v = .ok (some p)) :
    isKept settings p = true := (exists_of_kept? h).1

theorem mediaType_withSchema (p : Parameter) (schema : Value) :
    (p.withSchema schema).mediaType = p.mediaType := by
  unfold withSchema
  split
  · simp
  · split <;> simp

/-- A declared parameter has no media type. -/
theorem mediaType_of_kept? {v : Value} {p : Parameter} (h : kept? doc settings v = .ok (some p)) :
    p.mediaType = none := by
  obtain ⟨-, declaration, -, ho⟩ := exists_of_kept? h
  obtain ⟨location, schema, -, -, rfl⟩ := ofDeclaration?_eq_some ho
  exact mediaType_withSchema _ schema

/-- What every declaration that leaves a parameter makes sure of, all kept parameters have. -/
theorem forall_of_keptAll {P : Parameter → Prop}
    (hP : ∀ v p, kept? doc settings v = .ok (some p) → P p) {vs : List Value}
    {ps : List Parameter} (h : keptAll doc settings vs = .ok ps) : ∀ p ∈ ps, P p := by
  induction vs generalizing ps with
  | nil =>
    rw [keptAll, Except.ok.injEq] at h
    simp [← h]
  | cons v vs ih =>
    simp only [keptAll, bind_eq_ok, pure_eq_ok] at h
    obtain ⟨o, ho, qs, hqs, rfl⟩ := h
    intro p hp
    rcases List.mem_append.mp hp with hp | hp
    · rw [Option.mem_toList] at hp
      exact hP v p (hp ▸ ho)
    · exact ih hqs p hp

theorem forall_of_kept {P : Parameter → Prop}
    (hP : ∀ v p, kept? doc settings v = .ok (some p) → P p) {v : Value} {ps : List Parameter}
    (h : kept doc settings v = .ok ps) : ∀ p ∈ ps, P p := by
  unfold kept at h
  split at h
  · exact forall_of_keptAll hP h
  · cases h
    simp

/-- Kept parameters are kept for a reason, and have no media type. -/
theorem isKept_of_mem_kept {v : Value} {ps : List Parameter} (h : kept doc settings v = .ok ps)
    {p : Parameter} (hp : p ∈ ps) : isKept settings p = true ∧ p.mediaType = none :=
  forall_of_kept (P := fun p => isKept settings p = true ∧ p.mediaType = none)
    (fun _ _ hk => ⟨isKept_of_kept? hk, mediaType_of_kept? hk⟩) h p hp

end Parameter

/-- A list is a permutation of its parts by a key, if the keys are all there and none twice. -/
theorem perm_flatMap_filter {α κ : Type} [DecidableEq κ] (key : α → κ) {ks : List κ}
    (hks : ks.Nodup) {l : List α} (hl : ∀ a ∈ l, key a ∈ ks) :
    l.Perm (ks.flatMap fun k => l.filter fun a => key a = k) := by
  induction ks generalizing l with
  | nil =>
    rw [List.eq_nil_iff_forall_not_mem.mpr fun a ha => List.not_mem_nil (hl a ha)]
    exact List.Perm.nil
  | cons k ks ih =>
    obtain ⟨hk, hks⟩ := List.nodup_cons.mp hks
    have hrest := ih hks (l := l.filter fun a => !decide (key a = k)) fun a ha => by
      obtain ⟨ha, hne⟩ := List.mem_filter.mp ha
      exact (List.mem_cons.mp (hl a ha)).resolve_left (by simpa using hne)
    -- the parts of the rest are the parts of the whole, since `k` does not come again
    have hparts : (ks.flatMap fun k' => (l.filter fun a => !decide (key a = k)).filter
          fun a => key a = k') = ks.flatMap fun k' => l.filter fun a => key a = k' := by
      refine List.flatMap_congr fun k' hk' => ?_
      rw [List.filter_filter]
      refine List.filter_congr fun a _ => ?_
      by_cases h : key a = k'
      · have hne : k' ≠ k := fun e => hk (e ▸ hk')
        simp [h, hne]
      · simp [h]
    rw [hparts] at hrest
    rw [List.flatMap_cons]
    exact (List.filter_append_perm _ l).symm.trans (hrest.append_left _)

/-- Parameters that are no bodies, location by location. -/
theorem perm_by_location {ps : List Parameter} (h : ∀ p ∈ ps, p.location ≠ .body) :
    ps.Perm ((ps.filter fun p => p.location = .path) ++ (ps.filter fun p => p.location = .query) ++
      (ps.filter fun p => p.location = .formData) ++ (ps.filter fun p => p.location = .cookie) ++
      ps.filter fun p => p.location = .header) := by
  have hks : [Location.path, .query, .formData, .cookie, .header].Nodup := by decide
  have key := perm_flatMap_filter Parameter.location hks (l := ps) fun p hp => by
    have hp := h p hp
    cases hl : p.location <;> simp_all
  simpa [List.append_assoc] using key

/-! ## Filing -/

namespace Inputs

theorem bucket_file {i : Inputs} {p : Parameter} (hp : p.location ≠ .body) (l : Location) :
    (i.file p).bucket l = i.bucket l ++ [p].filter fun q => q.location = l := by
  unfold file
  cases hl : p.location <;> cases l <;> simp_all [bucket]

theorem parameters_file {i : Inputs} {p : Parameter} (hp : p.location ≠ .body) :
    (i.file p).parameters = i.parameters ++ [p] := by
  unfold file
  split <;> first | rfl | contradiction

theorem imports_file {i : Inputs} {p : Parameter} (hp : p.location ≠ .body) :
    (i.file p).imports = i.imports ++ p.imports := by
  unfold file
  split <;> first | rfl | contradiction

@[simp] theorem body_file (i : Inputs) (p : Parameter) : (i.file p).body = i.body := by
  unfold file
  split <;> rfl

@[simp] theorem bucket_extend (i j : Inputs) (l : Location) :
    (i.extend j).bucket l = i.bucket l ++ j.bucket l := by
  cases l <;> rfl

@[simp] theorem bucket_withBody? (i : Inputs) (b : Option Parameter) (l : Location) :
    (i.withBody? b).bucket l = i.bucket l := by
  cases b <;> cases l <;> rfl

@[simp] theorem parameters_withBody? (i : Inputs) (b : Option Parameter) :
    (i.withBody? b).parameters = i.parameters ++ b.toList := by
  cases b <;> simp [withBody?, withBody]

@[simp] theorem imports_withBody? (i : Inputs) (b : Option Parameter) :
    (i.withBody? b).imports = i.imports ++ b.toList.flatMap fun p => p.imports := by
  cases b <;> simp [withBody?, withBody]

/-- **The invariant.**  Inputs without a body hold some parameters: all of them in one list, each
in the list of its location, and their imports, everything in one order. -/
structure Filed (i : Inputs) (ps : List Parameter) : Prop where
  parameters_eq : i.parameters = ps
  bucket_eq : ∀ l, i.bucket l = ps.filter fun p => p.location = l
  imports_eq : i.imports = ps.flatMap fun p => p.imports
  body_eq : i.body = none

theorem filed_nil : ({} : Inputs).Filed [] where
  parameters_eq := rfl
  bucket_eq l := by cases l <;> rfl
  imports_eq := rfl
  body_eq := rfl

/-- One step: a filed parameter stands behind all others. -/
theorem Filed.file {i : Inputs} {ps : List Parameter} (h : i.Filed ps) {p : Parameter}
    (hp : p.location ≠ .body) : (i.file p).Filed (ps ++ [p]) where
  parameters_eq := by rw [parameters_file hp, h.parameters_eq]
  bucket_eq l := by rw [bucket_file hp, h.bucket_eq, List.filter_append]
  imports_eq := by
    rw [imports_file hp, h.imports_eq, List.flatMap_append, List.flatMap_singleton]
  body_eq := by rw [body_file, h.body_eq]

/-- Extending inputs puts the further parameters behind the others. -/
theorem Filed.extend {i j : Inputs} {ps qs : List Parameter} (hi : i.Filed ps) (hj : j.Filed qs) :
    (i.extend j).Filed (ps ++ qs) where
  parameters_eq := by rw [Inputs.extend, hi.parameters_eq, hj.parameters_eq]
  bucket_eq l := by rw [bucket_extend, hi.bucket_eq, hj.bucket_eq, List.filter_append]
  imports_eq := by rw [Inputs.extend, hi.imports_eq, hj.imports_eq, List.flatMap_append]
  body_eq := hi.body_eq

theorem Filed.body_withBody? {i : Inputs} {ps : List Parameter} (h : i.Filed ps)
    (b : Option Parameter) : (i.withBody? b).body = b := by
  cases b with
  | none => exact h.body_eq
  | some b => rfl

/-- A declaration is filed as the parameter that it leaves. -/
theorem fileDeclaration_eq (i : Inputs) (v : Value) :
    fileDeclaration doc settings i v =
      (Parameter.kept? doc settings v).map fun p => p.elim i i.file := by
  unfold fileDeclaration Parameter.kept?
  cases hd : Value.dereference doc v with
  | error e => rfl
  | ok declaration =>
    cases ho : Parameter.ofDeclaration? doc declaration settings.reservedParameterNames with
    | error e => simp [bind, Except.bind, ho, Except.map]
    | ok o =>
      cases o with
      | none => simp [bind, Except.bind, ho, Except.map, pure, Except.pure]
      | some p =>
        simp only [bind, Except.bind, ho, pure, Except.pure, Except.map, Option.filter]
        by_cases hb : p.location = .body
        · simp [Parameter.isKept, file, hb]
        · by_cases hc : settings.ignoredParameters.contains p.prop <;>
            simp_all [Parameter.isKept]

/-- A whole run: the declarations are filed as the parameters that they leave, one after the
other.  A failure of the one is the same failure of the other. -/
theorem foldlM_fileDeclaration (vs : List Value) (i : Inputs) :
    vs.foldlM (fileDeclaration doc settings) i =
      (Parameter.keptAll doc settings vs).map fun ps => ps.foldl Inputs.file i := by
  induction vs generalizing i with
  | nil => rfl
  | cons v vs ih =>
    rw [List.foldlM_cons, fileDeclaration_eq, Parameter.keptAll]
    cases Parameter.kept? doc settings v with
    | error e => rfl
    | ok o =>
      show vs.foldlM (fileDeclaration doc settings) (o.elim i i.file) = _
      rw [ih]
      cases Parameter.keptAll doc settings vs with
      | error e => rfl
      | ok ps => cases o <;> rfl

theorem declared_eq (v : Value) :
    declared doc settings v =
      (Parameter.kept doc settings v).map fun ps => ps.foldl Inputs.file {} := by
  unfold declared Parameter.kept
  cases v.items? with
  | none => rfl
  | some vs => exact foldlM_fileDeclaration vs {}

/-- Filing keeps the invariant, however many parameters are filed. -/
theorem Filed.foldl_file {i : Inputs} {ps qs : List Parameter} (h : i.Filed ps)
    (hqs : ∀ q ∈ qs, q.location ≠ .body) : (qs.foldl Inputs.file i).Filed (ps ++ qs) := by
  induction qs generalizing i ps with
  | nil => rwa [List.append_nil]
  | cons q qs ih =>
    have hq : (i.file q).Filed (ps ++ [q]) := h.file (hqs q List.mem_cons_self)
    have hrun := ih hq fun r hr => hqs r (List.mem_cons_of_mem q hr)
    rwa [List.append_assoc] at hrun

/-- **What a list of declarations leaves is what is filed.** -/
theorem filed_of_declared {v : Value} {i : Inputs} (h : declared doc settings v = .ok i) :
    ∃ ps, Parameter.kept doc settings v = .ok ps ∧ i.Filed ps := by
  rw [declared_eq, map_eq_ok] at h
  obtain ⟨ps, hps, rfl⟩ := h
  have hloc : ∀ p ∈ ps, p.location ≠ .body := by
    intro p hp
    have hk := (Parameter.isKept_of_mem_kept hps hp).1
    simp only [Parameter.isKept, Bool.and_eq_true, decide_eq_true_eq] at hk
    exact hk.1
  exact ⟨ps, hps, filed_nil.foldl_file hloc⟩

/-- There is no list for bodies, so nothing filed is one. -/
theorem Filed.location_ne {i : Inputs} {ps : List Parameter} (h : i.Filed ps) :
    ∀ p ∈ ps, p.location ≠ .body := by
  intro p hp hb
  have hmem : p ∈ ps.filter fun q => q.location = .body :=
    List.mem_filter.mpr ⟨hp, decide_eq_true hb⟩
  rw [← h.bucket_eq] at hmem
  exact List.not_mem_nil hmem

/-- The lists by location hold what is filed, and each parameter once. -/
theorem Filed.perm {i : Inputs} {ps : List Parameter} (h : i.Filed ps) :
    ps.Perm (i.pathParameters ++ i.queryParameters ++ i.formParameters ++ i.cookieParameters ++
      i.headerParameters) := by
  have hpath : i.pathParameters = _ := h.bucket_eq .path
  have hquery : i.queryParameters = _ := h.bucket_eq .query
  have hform : i.formParameters = _ := h.bucket_eq .formData
  have hcookie : i.cookieParameters = _ := h.bucket_eq .cookie
  have hheader : i.headerParameters = _ := h.bucket_eq .header
  rw [hpath, hquery, hform, hcookie, hheader]
  exact perm_by_location h.location_ne

end Inputs

/-! ## The order of a signature -/

namespace Parameter

theorem rank_of_isMandatory {p : Parameter} {b : Bool} (h : p.isMandatory = b) :
    p.rank = if b then 0 else 1 := by
  rw [rank, h]

theorem mandatoryFirst_perm (ps : List Parameter) : (mandatoryFirst ps).Perm ps :=
  List.mergeSort_perm ps _

/-- What is mandatory precedes what is not. -/
theorem pairwise_mandatoryFirst (ps : List Parameter) :
    (mandatoryFirst ps).Pairwise fun p q => q.isMandatory → p.isMandatory := by
  refine (StableSort.pairwise_sortBy rank ps).imp fun {p q} hle hq => ?_
  rw [rank_of_isMandatory hq] at hle
  by_contra hp
  rw [rank_of_isMandatory (Bool.eq_false_iff.mpr hp)] at hle
  exact absurd hle (by decide)

/-- The mandatory parameters keep their order, and so do the others. -/
theorem filter_mandatoryFirst (b : Bool) (ps : List Parameter) :
    (mandatoryFirst ps).filter (fun p => p.isMandatory = b) =
      ps.filter fun p => p.isMandatory = b := by
  refine StableSort.filter_sortBy rank (fun p q hp hq => ?_) ps
  rw [decide_eq_true_eq] at hp hq
  rw [rank_of_isMandatory hp, rank_of_isMandatory hq]

/-- The order of a signature: the mandatory parameters, then the others. -/
theorem mandatoryFirst_eq (ps : List Parameter) :
    mandatoryFirst ps =
      (ps.filter fun p => p.isMandatory) ++ ps.filter fun p => !p.isMandatory := by
  have htrue := filter_mandatoryFirst true ps
  have hfalse := filter_mandatoryFirst false ps
  simp only [Bool.decide_eq_true, Bool.decide_eq_false] at htrue hfalse
  rw [StableSort.eq_filter_append_filter (pairwise_mandatoryFirst ps), htrue, hfalse]

/-- Parameters may be taken away before or after the rest is brought into order. -/
theorem mandatoryFirst_filter (q : Parameter → Bool) (ps : List Parameter) :
    mandatoryFirst (ps.filter q) = (mandatoryFirst ps).filter q := by
  simp only [mandatoryFirst_eq, List.filter_append, List.filter_filter, Bool.and_comm]

end Parameter

/-! ## The lists of an operation -/

/-- A body is no form data, unless it has a media type. -/
theorem location_requestBody (declaration : Value) (mediaTypes : List String) :
    (requestBody declaration mediaTypes).location = .body ∨
      (requestBody declaration mediaTypes).mediaType ≠ none := by
  unfold requestBody
  cases hc : Content.select (declaration.field "content") mediaTypes with
  | none => exact .inl rfl
  | some content =>
    refine .inr ?_
    cases hr : content.schema.reference? <;>
      by_cases hf : isFormMediaType content.mediaType <;> simp [hr, hf]

namespace Operation

/-- What a mapping is read as, if it is read: its own inputs, its body and its responses. -/
theorem exists_of_ofDeclaration {path method : String} {inherited : Inputs} {o : Operation}
    (h : ofDeclaration doc path method operation inherited settings = .ok o) :
    ∃ own body responses,
      Inputs.declared doc settings (operation.field "parameters") = .ok own ∧
      bodyOf doc operation settings = .ok body ∧
      Response.declared doc (operation.field "responses") settings.mediaTypes = .ok responses ∧
      o = assemble path method operation ((inherited.extend own).withBody? body) responses
        settings := by
  simp only [ofDeclaration, bind_eq_ok, pure_eq_ok] at h
  obtain ⟨own, hown, body, hbody, responses, hresponses, rfl⟩ := h
  exact ⟨own, body, responses, hown, hbody, hresponses, rfl⟩

@[simp] theorem bucket_assemble (path method : String) (inputs : Inputs)
    (responses : List Response) (l : Location) :
    (assemble path method operation inputs responses settings).bucket l = inputs.bucket l := by
  cases l <;> rfl

@[simp] theorem parameters_assemble (path method : String) (inputs : Inputs)
    (responses : List Response) :
    (assemble path method operation inputs responses settings).parameters =
      Parameter.mandatoryFirst inputs.parameters := rfl

/-- A body that an operation declares has a location without a list, or a media type. -/
theorem location_of_bodyOf {b : Parameter} (h : bodyOf doc operation settings = .ok (some b)) :
    b.location = .body ∨ b.mediaType ≠ none := by
  rcases bodyOf_eq_ok h with hnone | ⟨declaration, -, hb⟩
  · cases hnone
  · rw [Option.some.inj hb]
    exact location_requestBody declaration settings.mediaTypes

/-- What an operation is made of: the parameters that the declarations of its path leave and its
own, its body, and its responses. -/
theorem exists_filed_of_ofDeclaration {path method : String} {declarations : Value}
    {inherited : Inputs} {o : Operation}
    (hpath : Inputs.declared doc settings declarations = .ok inherited)
    (ho : ofDeclaration doc path method operation inherited settings = .ok o) :
    ∃ (ofPath own : List Parameter) (inputs : Inputs) (body : Option Parameter)
      (responses : List Response),
      Parameter.kept doc settings declarations = .ok ofPath ∧
      Parameter.kept doc settings (operation.field "parameters") = .ok own ∧
      inputs.Filed (ofPath ++ own) ∧
      bodyOf doc operation settings = .ok body ∧
      Response.declared doc (operation.field "responses") settings.mediaTypes = .ok responses ∧
      o = assemble path method operation (inputs.withBody? body) responses settings ∧
      o.body = body ∧ o.parameters = Parameter.mandatoryFirst (ofPath ++ own ++ body.toList) := by
  obtain ⟨ownInputs, body, responses, hown, hbody, hresponses, rfl⟩ :=
    exists_of_ofDeclaration ho
  obtain ⟨ofPath, hofPath, hfiledPath⟩ := Inputs.filed_of_declared hpath
  obtain ⟨own, hownKept, hfiledOwn⟩ := Inputs.filed_of_declared hown
  have hfiled := hfiledPath.extend hfiledOwn
  refine ⟨ofPath, own, inherited.extend ownInputs, body, responses, hofPath, hownKept, hfiled,
    hbody, hresponses, rfl, hfiled.body_withBody? body, ?_⟩
  rw [parameters_assemble, Inputs.parameters_withBody?, hfiled.parameters_eq]

/-- **The lists of an operation agree.**  Let `ofPath` and `own` be the parameters that the
declarations of the path and of the operation leave.  Then the list of all parameters is a
permutation of the lists by location and the body; each list by location holds what is declared
there, that of the path first; the list of all puts the mandatory ones in front and otherwise keeps
the order of the path, the operation and the body; nothing in the lists by location is ignored; and
the body, also one that is sent as form fields, is in none of them. -/
theorem lists_agree {path method : String} {declarations : Value} {inherited : Inputs}
    {o : Operation} (hpath : Inputs.declared doc settings declarations = .ok inherited)
    (ho : ofDeclaration doc path method operation inherited settings = .ok o) :
    ∃ ofPath own body,
      Parameter.kept doc settings declarations = .ok ofPath ∧
      Parameter.kept doc settings (operation.field "parameters") = .ok own ∧
      bodyOf doc operation settings = .ok body ∧ o.body = body ∧
      o.parameters.Perm (o.pathParameters ++ o.queryParameters ++ o.formParameters ++
        o.cookieParameters ++ o.headerParameters ++ o.body.toList) ∧
      (∀ l, o.bucket l = (ofPath ++ own).filter fun p => p.location = l) ∧
      o.parameters.Pairwise (fun p q => q.isMandatory → p.isMandatory) ∧
      (∀ b, (o.parameters.filter fun p => p.isMandatory = b) =
        (ofPath ++ own ++ o.body.toList).filter fun p => p.isMandatory = b) ∧
      (∀ l, ∀ p ∈ o.bucket l, p.prop ∉ settings.ignoredParameters) ∧
      ∀ b ∈ o.body, ∀ l, b ∉ o.bucket l := by
  obtain ⟨ofPath, own, inputs, body, responses, hofPath, hown, hfiled, hbody, -, ho', hobody,
    hparameters⟩ := exists_filed_of_ofDeclaration hpath ho
  have hbucket : ∀ l, o.bucket l = (ofPath ++ own).filter fun p => p.location = l := by
    intro l
    rw [ho', bucket_assemble, Inputs.bucket_withBody?, hfiled.bucket_eq]
  have hdeclared : ∀ p ∈ ofPath ++ own, p.isKept settings = true ∧ p.mediaType = none := by
    intro p hp
    rcases List.mem_append.mp hp with h | h
    · exact Parameter.isKept_of_mem_kept hofPath h
    · exact Parameter.isKept_of_mem_kept hown h
  refine ⟨ofPath, own, body, hofPath, hown, hbody, hobody, ?_, hbucket, ?_, ?_, ?_, ?_⟩
  · rw [hparameters, hobody, ho']
    refine (Parameter.mandatoryFirst_perm _).trans ?_
    cases body <;> exact hfiled.perm.append_right _
  · rw [hparameters]
    exact Parameter.pairwise_mandatoryFirst _
  · intro b
    rw [hparameters, hobody, Parameter.filter_mandatoryFirst]
  · intro l p hp
    rw [hbucket] at hp
    have hk := (hdeclared p (List.mem_filter.mp hp).1).1
    simpa [Parameter.isKept] using (Bool.and_eq_true_iff.mp hk).2
  · intro b hb l hmem
    rw [hobody] at hb
    rw [hbucket] at hmem
    have hb' := (List.mem_filter.mp hmem).1
    rcases location_of_bodyOf (hb ▸ hbody) with hloc | hmedia
    · exact hfiled.location_ne b hb' hloc
    · exact hmedia (hdeclared b hb').2

/-- A header for the tenant, and a parameter that the settings ignore. -/
def sampleTenant : Value :=
  .list [
    .mapping [(.text "in", .text "header"), (.text "name", .text "tenant")],
    .mapping [(.text "in", .text "path"), (.text "name", .text "api-version")]]

/-- An upload with a declared form parameter and a body that is sent as form fields. -/
def sampleUpload : Value :=
  .mapping [
    (.text "parameters", .list [
      .mapping [(.text "in", .text "formData"), (.text "name", .text "file")],
      .mapping [(.text "in", .text "query"), (.text "name", .text "limit"),
        (.text "required", .bool true)]]),
    (.text "requestBody", .mapping [(.text "content", .mapping [
      (.text "multipart/form-data", .mapping [(.text "schema", .bool true)])])])]

theorem lists_agree_of_form_body :
    ∃ inherited o b, Inputs.declared .empty {} sampleTenant = .ok inherited ∧
      ofDeclaration .empty "/files" "post" sampleUpload inherited = .ok o ∧
      o.body = some b ∧ b.location = .formData ∧ b ∉ o.formParameters ∧
      o.parameters.Perm (o.pathParameters ++ o.queryParameters ++ o.formParameters ++
        o.cookieParameters ++ o.headerParameters ++ [b]) := by
  obtain ⟨inherited, hpath⟩ : ∃ i, Inputs.declared .empty {} sampleTenant = .ok i := ⟨_, rfl⟩
  obtain ⟨o, ho⟩ : ∃ o, ofDeclaration .empty "/files" "post" sampleUpload inherited = .ok o :=
    ⟨_, rfl⟩
  obtain ⟨b, hb, hform⟩ : ∃ b, bodyOf .empty sampleUpload {} = .ok (some b) ∧
      b.location = .formData := ⟨_, rfl, rfl⟩
  obtain ⟨-, -, body, -, -, hbody, hobody, hperm, -, -, -, -, hnone⟩ := lists_agree hpath ho
  have hbodyEq : body = some b := Except.ok.inj (hbody.symm.trans hb)
  rw [hobody, hbodyEq] at hperm hnone
  exact ⟨inherited, o, b, hpath, ho, hobody.trans hbodyEq, hform, hnone b rfl .formData, hperm⟩

end Operation
end ServiceCatalog
