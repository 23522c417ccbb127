import ServiceCatalog.Proofs.CommandOutcome
import ServiceCatalog.Proofs.StrictJson

/-!
# The numbers of a printed service

An extraction prints what stands in a document in many places, and a document may hold numbers that
are not finite.  Almost everywhere such a number is printed as null
(`Value.hasFiniteNumbers_asJson`).  The exceptions are three keywords of a schema, `maximum`,
`minimum` and `multipleOf`, which are printed as numbers whatever they are
(`hasFiniteNumbers_numberKeyword`).

So the record of a model has finite numbers exactly if these keywords are finite in it and in
everything inside of it (`Model.membersAreFinite_fields`), by recursion on the model, and the same
goes for what is made of models, up to all services (`Service.hasFiniteNumbers_records`).  With
`Json.isStrict_render_iff` this says when the text of an extraction is JSON in the strict sense
(`isStrict_of_arguments`).
-/

namespace ServiceCatalog

open Json

/-! ## Documents -/

namespace Json

theorem itemsAreFinite_eq_all (js : List Json) : itemsAreFinite js = js.all hasFiniteNumbers := by
  induction js with
  | nil => rfl
  | cons j js ih => rw [itemsAreFinite, List.all_cons, ih]

theorem membersAreFinite_eq_all (ms : List (String × Json)) :
    membersAreFinite ms = ms.all fun m => m.2.hasFiniteNumbers := by
  induction ms with
  | nil => rfl
  | cons m ms ih => rw [membersAreFinite, List.all_cons, ih]

theorem membersAreFinite_append (ms ns : List (String × Json)) :
    membersAreFinite (ms ++ ns) = (membersAreFinite ms && membersAreFinite ns) := by
  simp only [membersAreFinite_eq_all, List.all_append]

theorem membersAreFinite_put {key : String} {j : Json} {ms : List (String × Json)}
    (hj : j.hasFiniteNumbers = true) (hms : membersAreFinite ms = true) :
    membersAreFinite (put key j ms) = true := by
  induction ms with
  | nil => rw [put, membersAreFinite, hj, membersAreFinite, Bool.and_true]
  | cons m ms ih =>
    obtain ⟨hm, hms⟩ := Bool.and_eq_true_iff.mp hms
    rw [put]
    split
    · rw [membersAreFinite, hj, hms, Bool.and_true]
    · rw [membersAreFinite, hm, ih hms, Bool.and_true]

theorem membersAreFinite_distinct {ms : List (String × Json)} (h : membersAreFinite ms = true) :
    membersAreFinite (distinct ms) = true := by
  have hfold : ∀ (ms acc : List (String × Json)), membersAreFinite ms = true →
      membersAreFinite acc = true →
        membersAreFinite (ms.foldl (fun acc m => put m.1 m.2 acc) acc) = true := by
    intro ms
    induction ms with
    | nil => exact fun acc _ hacc => hacc
    | cons m ms ih =>
      intro acc hms hacc
      obtain ⟨hm, hms⟩ := Bool.and_eq_true_iff.mp hms
      exact ih _ hms (membersAreFinite_put hm hacc)
  exact hfold ms [] h rfl

theorem itemsAreFinite_map {α : Type} {f : α → Json} (hf : ∀ a, (f a).hasFiniteNumbers = true)
    (as : List α) : itemsAreFinite (as.map f) = true := by
  rw [itemsAreFinite_eq_all, List.all_map]
  exact List.all_eq_true.mpr fun a _ => hf a

/-- Whether all of some records have finite numbers is seen from what they are records of. -/
theorem itemsAreFinite_mapM {α ε : Type} {f : α → Except ε Json} {p : α → Bool}
    (hf : ∀ a j, f a = .ok j → j.hasFiniteNumbers = p a) {as : List α} {js : List Json}
    (h : as.mapM f = .ok js) : itemsAreFinite js = as.all p := by
  induction as generalizing js with
  | nil =>
    rw [List.mapM_nil, Attempt.pure_eq_ok] at h
    rw [← h]
    rfl
  | cons a as ih =>
    simp only [List.mapM_cons, Attempt.bind_eq_ok, Attempt.pure_eq_ok] at h
    obtain ⟨j, hj, ks, hks, rfl⟩ := h
    rw [itemsAreFinite, List.all_cons, hf a j hj, ih hks]

end Json

theorem Scalar.hasFiniteNumbers_asJson {s : Scalar} {j : Json} (h : s.asJson = .ok j) :
    j.hasFiniteNumbers = true := by
  cases s with
  | float x =>
    cases h
    cases x <;> rfl
  | bytes bs =>
    obtain ⟨text, -, rfl⟩ := Attempt.map_eq_ok.mp h
    rfl
  | _ =>
    cases h
    rfl

namespace Value

mutual

/-- **A document that is written as JSON has finite numbers**, whatever stands in it. -/
theorem hasFiniteNumbers_asJsonWithin : ∀ (v : Value) (around : List Nat) (j : Json),
    v.asJsonWithin around = .ok j → j.hasFiniteNumbers = true
  | .scalar s, around, j, h => Scalar.hasFiniteNumbers_asJson h
  | .list items, around, j, h => by
    obtain ⟨js, hjs, rfl⟩ := Attempt.map_eq_ok.mp h
    exact itemsAreFinite_itemsAsJson items around js hjs
  | .mapping es, around, j, h => by
    obtain ⟨ms, hms, rfl⟩ := Attempt.map_eq_ok.mp h
    exact membersAreFinite_distinct (membersAreFinite_entriesAsJson es around ms hms)
  | .pair first second, around, j, h => by
    simp only [asJsonWithin, Attempt.bind_eq_ok, Attempt.pure_eq_ok] at h
    obtain ⟨k, hk, l, hl, rfl⟩ := h
    rw [hasFiniteNumbers, itemsAreFinite, itemsAreFinite, itemsAreFinite, Bool.and_true,
      hasFiniteNumbers_asJsonWithin first around k hk,
      hasFiniteNumbers_asJsonWithin second around l hl, Bool.and_true]
  | .set members, around, j, h => by
    obtain ⟨js, hjs, rfl⟩ := Attempt.map_eq_ok.mp h
    have hall := itemsAreFinite_mapM (p := fun _ => true)
      (fun s j => Scalar.hasFiniteNumbers_asJson (s := s) (j := j)) hjs
    rw [hasFiniteNumbers, hall]
    exact List.all_eq_true.mpr fun _ _ => rfl
  | .knot place v, around, j, h => by
    rw [asJsonWithin] at h
    split at h
    · cases h
    · exact hasFiniteNumbers_asJsonWithin v _ j h

theorem itemsAreFinite_itemsAsJson : ∀ (vs : List Value) (around : List Nat) (js : List Json),
    itemsAsJson around vs = .ok js → itemsAreFinite js = true
  | [], _, js, h => by
    cases h
    rfl
  | v :: vs, around, js, h => by
    simp only [itemsAsJson, Attempt.bind_eq_ok, Attempt.pure_eq_ok] at h
    obtain ⟨j, hj, ks, hks, rfl⟩ := h
    rw [itemsAreFinite, hasFiniteNumbers_asJsonWithin v around j hj,
      itemsAreFinite_itemsAsJson vs around ks hks, Bool.and_true]

theorem membersAreFinite_entriesAsJson : ∀ (es : List (Scalar × Value)) (around : List Nat)
    (ms : List (String × Json)), entriesAsJson around es = .ok ms → membersAreFinite ms = true
  | [], _, ms, h => by
    cases h
    rfl
  | (k, v) :: es, around, ms, h => by
    simp only [entriesAsJson, Attempt.bind_eq_ok, Attempt.pure_eq_ok] at h
    obtain ⟨name, -, j, hj, ns, hns, rfl⟩ := h
    rw [membersAreFinite, hasFiniteNumbers_asJsonWithin v around j hj,
      membersAreFinite_entriesAsJson es around ns hns, Bool.and_true]

end

theorem hasFiniteNumbers_asJson {v : Value} {j : Json} (h : v.asJson = .ok j) :
    j.hasFiniteNumbers = true :=
  hasFiniteNumbers_asJsonWithin v [] j h

/-- A keyword is anything but a number that is not finite. -/
def isFiniteBound : Value → Bool
  | .scalar (.float x) => x.isFinite
  | _ => true

end Value

/-! ## Models -/

theorem hasFiniteNumbers_integerKeyword {v : Value} {j : Json} (h : integerKeyword v = .ok j) :
    j.hasFiniteNumbers = true := by
  unfold integerKeyword at h
  split at h
  · cases h
    rfl
  · exact Value.hasFiniteNumbers_asJson h

theorem hasFiniteNumbers_numberKeyword {v : Value} {j : Json} (h : numberKeyword v = .ok j) :
    j.hasFiniteNumbers = v.isFiniteBound := by
  unfold numberKeyword at h
  split at h
  · cases h
    rfl
  next hother =>
    rw [hasFiniteNumbers_integerKeyword h, Value.isFiniteBound.eq_2 v hother]

theorem hasFiniteNumbers_ofText? (text : Option String) :
    (Json.ofText? text).hasFiniteNumbers = true := by
  cases text <;> rfl

/-- The three bounds that admit fractions are finite. -/
def Constraints.hasFiniteBounds (c : Constraints) : Bool :=
  c.maximum.isFiniteBound && c.minimum.isFiniteBound && c.multipleOf.isFiniteBound

theorem Constraints.membersAreFinite_fields {c : Constraints} {ms : List (String × Json)}
    (h : c.fields = .ok ms) : membersAreFinite ms = c.hasFiniteBounds := by
  simp only [fields, Attempt.bind_eq_ok, Attempt.pure_eq_ok] at h
  obtain ⟨_, hformat, _, hmaximum, _, hexclusiveMaximum, _, hminimum, _, hexclusiveMinimum, _,
    hmultipleOf, _, hmaxLength, _, hminLength, _, hmaxItems, _, hminItems, _, huniqueItems, _,
    hmaxProperties, _, hminProperties, rfl⟩ := h
  simp only [membersAreFinite, Value.hasFiniteNumbers_asJson hformat,
    hasFiniteNumbers_numberKeyword hmaximum, Value.hasFiniteNumbers_asJson hexclusiveMaximum,
    hasFiniteNumbers_numberKeyword hminimum, Value.hasFiniteNumbers_asJson hexclusiveMinimum,
    hasFiniteNumbers_numberKeyword hmultipleOf, hasFiniteNumbers_integerKeyword hmaxLength,
    hasFiniteNumbers_integerKeyword hminLength, hasFiniteNumbers_integerKeyword hmaxItems,
    hasFiniteNumbers_integerKeyword hminItems, Value.hasFiniteNumbers_asJson huniqueItems,
    hasFiniteNumbers_integerKeyword hmaxProperties, hasFiniteNumbers_integerKeyword hminProperties,
    hasFiniteNumbers_ofText?, hasFiniteBounds, Bool.true_and, Bool.and_true, Bool.and_assoc]

namespace Model

mutual

/-- A model and everything inside of it has finite bounds. -/
def hasFiniteBounds : Model → Bool
  | ⟨_, _, _, _, _, link, _, _, _, _, _, _, _, constraints, _, _, enums, properties⟩ =>
    linkHasFiniteBounds link && constraints.hasFiniteBounds && allHaveFiniteBounds enums &&
      allHaveFiniteBounds properties

/-- What a model links to has finite bounds. -/
def linkHasFiniteBounds : Option Model → Bool
  | none => true
  | some l => hasFiniteBounds l

/-- Some models have finite bounds. -/
def allHaveFiniteBounds : List Model → Bool
  | [] => true
  | m :: ms => hasFiniteBounds m && allHaveFiniteBounds ms

end

theorem membersAreFinite_fieldsWith {m : Model} {link : Json} {enums properties : List Json}
    {ms : List (String × Json)} (h : m.fieldsWith link enums properties = .ok ms) :
    membersAreFinite ms = (link.hasFiniteNumbers && m.constraints.hasFiniteBounds &&
      itemsAreFinite enums && itemsAreFinite properties) := by
  simp only [fieldsWith, Attempt.bind_eq_ok, Attempt.pure_eq_ok] at h
  obtain ⟨_, hdefault, _, hconstraints, rfl⟩ := h
  have himports : itemsAreFinite (m.imports.map Json.text) = true :=
    itemsAreFinite_map (fun _ => rfl) m.imports
  have hmembers : itemsAreFinite (m.members.map EnumMember.record) = true :=
    itemsAreFinite_map (fun _ => rfl) m.members
  simp only [membersAreFinite_append, membersAreFinite, hasFiniteNumbers,
    Value.hasFiniteNumbers_asJson hdefault, Constraints.membersAreFinite_fields hconstraints,
    hasFiniteNumbers_ofText?, himports, hmembers, Bool.true_and, Bool.and_true, Bool.and_assoc]

mutual

/-- **The numbers in the record of a model are finite exactly if the bounds in it are.** -/
theorem membersAreFinite_fields : ∀ (m : Model) (ms : List (String × Json)),
    m.fields = .ok ms → membersAreFinite ms = m.hasFiniteBounds
  | ⟨_, _, _, _, _, link, _, _, _, _, _, _, _, constraints, _, _, enums, properties⟩, ms, h => by
    simp only [fields, Attempt.bind_eq_ok] at h
    obtain ⟨_, hlink, _, henums, _, hproperties, h⟩ := h
    rw [membersAreFinite_fieldsWith h, hasFiniteBounds,
      hasFiniteNumbers_linkRecord link _ hlink, itemsAreFinite_records enums _ henums,
      itemsAreFinite_records properties _ hproperties]

theorem hasFiniteNumbers_linkRecord : ∀ (link : Option Model) (j : Json),
    linkRecord link = .ok j → j.hasFiniteNumbers = linkHasFiniteBounds link
  | none, j, h => by
    cases h
    rfl
  | some l, j, h => by
    simp only [linkRecord, Attempt.bind_eq_ok, Attempt.pure_eq_ok] at h
    obtain ⟨fs, hfs, rfl⟩ := h
    exact membersAreFinite_fields l fs hfs

theorem itemsAreFinite_records : ∀ (ms : List Model) (js : List Json),
    records ms = .ok js → itemsAreFinite js = allHaveFiniteBounds ms
  | [], js, h => by
    cases h
    rfl
  | m :: ms, js, h => by
    simp only [records, Attempt.bind_eq_ok, Attempt.pure_eq_ok] at h
    obtain ⟨fs, hfs, ks, hks, rfl⟩ := h
    rw [itemsAreFinite, allHaveFiniteBounds, itemsAreFinite_records ms ks hks]
    exact congrArg (· && _) (membersAreFinite_fields m fs hfs)

end

end Model

/-! ## Services -/

theorem Parameter.hasFiniteNumbers_record {p : Parameter} {j : Json} (h : p.record = .ok j) :
    j.hasFiniteNumbers = p.hasFiniteBounds := by
  simp only [record, Attempt.bind_eq_ok, Attempt.pure_eq_ok] at h
  obtain ⟨fields, hfields, rfl⟩ := h
  simp only [hasFiniteNumbers, membersAreFinite_append, membersAreFinite,
    Model.membersAreFinite_fields p.toModel fields hfields, hasFiniteNumbers_ofText?, Bool.and_true]

theorem Response.hasFiniteNumbers_record {r : Response} {j : Json} (h : r.record = .ok j) :
    j.hasFiniteNumbers = r.hasFiniteBounds := by
  simp only [record, Attempt.bind_eq_ok, Attempt.pure_eq_ok] at h
  obtain ⟨fields, hfields, rfl⟩ := h
  simp only [hasFiniteNumbers, membersAreFinite_append, membersAreFinite,
    Model.membersAreFinite_fields r.toModel fields hfields, Bool.and_true]

theorem Parameter.hasFiniteNumbers_records {ps : List Parameter} {j : Json}
    (h : Parameter.records ps = .ok j) :
    j.hasFiniteNumbers = ps.all fun p => p.hasFiniteBounds := by
  obtain ⟨js, hjs, rfl⟩ := Attempt.map_eq_ok.mp h
  exact itemsAreFinite_mapM (fun _ _ => Parameter.hasFiniteNumbers_record) hjs

theorem Response.hasFiniteNumbers_records {rs : List Response} {j : Json}
    (h : Response.records rs = .ok j) :
    j.hasFiniteNumbers = rs.all fun r => r.hasFiniteBounds := by
  obtain ⟨js, hjs, rfl⟩ := Attempt.map_eq_ok.mp h
  exact itemsAreFinite_mapM (fun _ _ => Response.hasFiniteNumbers_record) hjs

/-- The parameters in all lists of inputs, and the body. -/
def Inputs.printed (i : Inputs) : List Parameter :=
  i.parameters ++ i.pathParameters ++ i.queryParameters ++ i.formParameters ++ i.cookieParameters ++
    i.headerParameters ++ i.body.toList

theorem Inputs.membersAreFinite_fields {i : Inputs} {ms : List (String × Json)}
    (h : i.fields = .ok ms) : membersAreFinite ms = i.printed.all fun p => p.hasFiniteBounds := by
  simp only [fields, Attempt.bind_eq_ok] at h
  obtain ⟨_, hall, _, hpath, _, hquery, _, hform, _, hcookie, _, hheader, h⟩ := h
  have himports : itemsAreFinite (i.imports.map Json.text) = true :=
    itemsAreFinite_map (fun _ => rfl) i.imports
  simp only [printed, List.all_append, ← Parameter.hasFiniteNumbers_records hall,
    ← Parameter.hasFiniteNumbers_records hpath, ← Parameter.hasFiniteNumbers_records hquery,
    ← Parameter.hasFiniteNumbers_records hform, ← Parameter.hasFiniteNumbers_records hcookie,
    ← Parameter.hasFiniteNumbers_records hheader]
  cases hbody : i.body with
  | none =>
    simp only [hbody, pure_bind, Attempt.pure_eq_ok] at h
    simp only [← h, membersAreFinite, hasFiniteNumbers, himports, Option.toList_none, List.all_nil,
      Bool.true_and, Bool.and_true, Bool.and_assoc]
  | some p =>
    simp only [hbody, Attempt.bind_eq_ok, Attempt.pure_eq_ok] at h
    obtain ⟨j, hj, rfl⟩ := h
    simp only [membersAreFinite, hasFiniteNumbers, himports, Option.toList_some, List.all_cons,
      List.all_nil, Parameter.hasFiniteNumbers_record hj, Bool.true_and, Bool.and_true,
      Bool.and_assoc]

/-- The models that are printed for an operation. -/
def Operation.models (o : Operation) : List Model :=
  o.printed.map (fun p => p.toModel) ++ o.results.map fun r => r.toModel

theorem Operation.hasFiniteNumbers_record {o : Operation} {j : Json} (h : o.record = .ok j) :
    j.hasFiniteNumbers = o.models.all Model.hasFiniteBounds := by
  simp only [record, Attempt.bind_eq_ok, Attempt.pure_eq_ok] at h
  obtain ⟨inputs, hinputs, results, hresults, rfl⟩ := h
  have herrors : itemsAreFinite (o.errors.map ResponseError.record) = true :=
    itemsAreFinite_map (fun _ => rfl) o.errors
  simp only [hasFiniteNumbers, membersAreFinite_append, membersAreFinite,
    Inputs.membersAreFinite_fields hinputs, Response.hasFiniteNumbers_records hresults, herrors,
    hasFiniteNumbers_ofText?, models, List.all_append, List.all_map, Function.comp_def,
    Bool.true_and, Bool.and_true]

/-- The models that are printed for a service. -/
def Service.models (s : Service) : List Model := s.operations.flatMap Operation.models

theorem Service.hasFiniteNumbers_record {s : Service} {j : Json} (h : s.record = .ok j) :
    j.hasFiniteNumbers = s.models.all Model.hasFiniteBounds := by
  simp only [record, Attempt.bind_eq_ok, Attempt.pure_eq_ok] at h
  obtain ⟨operations, hoperations, rfl⟩ := h
  have himports : itemsAreFinite (s.imports.map Json.text) = true :=
    itemsAreFinite_map (fun _ => rfl) s.imports
  simp only [hasFiniteNumbers, membersAreFinite,
    itemsAreFinite_mapM (fun _ _ => Operation.hasFiniteNumbers_record) hoperations, himports,
    hasFiniteNumbers_ofText?, models, List.all_flatMap, Bool.true_and, Bool.and_true]

/-- **The numbers that are printed for services are finite exactly if the bounds are.** -/
theorem Service.hasFiniteNumbers_records {ss : List Service} {j : Json}
    (h : Service.records ss = .ok j) :
    j.hasFiniteNumbers = true ↔ ∀ s ∈ ss, ∀ m ∈ s.models, m.hasFiniteBounds = true := by
  obtain ⟨js, hjs, rfl⟩ := Attempt.map_eq_ok.mp h
  rw [hasFiniteNumbers, itemsAreFinite_mapM (fun _ _ => Service.hasFiniteNumbers_record) hjs]
  simp only [List.all_eq_true]

/-! ## Extractions -/

/-- The text of services is JSON in the strict sense exactly if their bounds are finite. -/
theorem Service.isStrict_render_iff {ss : List Service} {j : Json}
    (h : Service.records ss = .ok j) :
    Json.IsStrict (j.render ++ "\n").toList ↔
      ∀ s ∈ ss, ∀ m ∈ s.models, m.hasFiniteBounds = true := by
  rw [Json.isStrict_render_iff, Service.hasFiniteNumbers_records h]

/-- **When the text of an extraction is JSON.**  An extraction that succeeds hands over one text,
printed or in the file that is named for it.  The text is JSON in the strict sense exactly if no
maximum, no minimum and no multiple in the models of its services is a number that is not finite;
nothing else in the document can spoil it. -/
theorem isStrict_of_arguments {s : Surroundings} {args : List String} {o : Options}
    {source : String} (hargs : Invocation.ofArguments args = .ok (.run o (.extract source)))
    (hcode : (run s args).exitCode = 0) :
    ∃ services text, o.found s source = .ok services ∧
      ((o.outputFile = none ∨ o.outputFile = some "") →
        (run s args).output = text ∧ (run s args).saved = []) ∧
      (∀ path, o.outputFile = some path → path ≠ "" →
        (run s args).output = "" ∧ (run s args).saved = [(path, text)]) ∧
      (Json.IsStrict text.toList ↔
        ∀ service ∈ services, ∀ m ∈ service.models, m.hasFiniteBounds = true) := by
  rw [run_eq_of_arguments hargs] at hcode ⊢
  obtain ⟨services, j, hservices, hj, hprinted, hsaved⟩ := Options.sink_of_extract hcode
  refine ⟨services, j.render ++ "\n", hservices, hprinted, fun path hpath hne => ?_,
    Service.isStrict_render_iff hj⟩
  obtain ⟨houtput, hfile, -⟩ := hsaved path hpath hne
  exact ⟨houtput, hfile⟩

/-- A document on the standard input with a parameter that has two upper bounds. -/
def sampleBound (bound : String) : Surroundings where
  files := .none
  input := "\x7b\"openapi\":\"3.0.0\",\"tags\":[\x7b\"name\":\"a\"\x7d],\"paths\":\x7b\"/\":" ++
    "\x7b\"get\":\x7b\"tags\":[\"a\"],\"parameters\":[\x7b\"in\":\"query\",\"name\":\"n\"," ++
    "\"schema\":\x7b\"maximum\":" ++ bound ++ ",\"exclusiveMaximum\":1e400\x7d\x7d]\x7d\x7d\x7d\x7d"

/-- The services of the document with a bound are all finite. -/
def sampleBound.isFinite (bound : String) : Bool :=
  ((Options.found (sampleBound bound) {} "-").toOption.getD []).all fun service =>
    service.models.all Model.hasFiniteBounds

theorem sampleBound.isFinite_iff {bound : String} {services : List Service}
    (h : Options.found (sampleBound bound) {} "-" = .ok services) :
    isFinite bound = true ↔
      ∀ service ∈ services, ∀ m ∈ service.models, m.hasFiniteBounds = true := by
  rw [isFinite, h]
  simp only [Except.toOption, Option.getD_some, List.all_eq_true]

/-- The services of the document with a bound can be written and encoded. -/
def sampleBound.isPrintable (bound : String) : Bool :=
  ((Options.found (sampleBound bound) {} "-").toOption.bind fun services =>
    (Service.records services).toOption).any fun j => j.isShort && j.isEncodable

theorem sampleBound.exitCode_eq_zero {bound : String} (h : isPrintable bound = true) :
    (Command.run (sampleBound bound) {} (.extract "-")).exitCode = 0 := by
  unfold isPrintable at h
  cases hfound : Options.found (sampleBound bound) {} "-" with
  | error f => rw [hfound] at h; cases h
  | ok services =>
    rw [hfound] at h
    cases hj : Service.records services with
    | error cause => simp [Except.toOption, hj] at h
    | ok j =>
      simp only [Except.toOption, Option.bind_some, hj, Option.any_some, Bool.and_eq_true] at h
      obtain ⟨hshort, hencodable⟩ := h
      have hwritable : j.ensureWritable = .ok j := if_pos hshort
      exact (Options.output_of_noFile hfound hj hwritable hencodable (.inl rfl)).1

theorem isStrict_of_arguments_bounded :
    Invocation.ofArguments ["extract", "-"] = .ok (.run {} (.extract "-")) ∧
      (run (sampleBound "10.5") ["extract", "-"]).exitCode = 0 ∧
      Json.IsStrict (run (sampleBound "10.5") ["extract", "-"]).output.toList := by
  have hargs : Invocation.ofArguments ["extract", "-"] = .ok (.run {} (.extract "-")) := by
    decide +kernel
  have hcode : (run (sampleBound "10.5") ["extract", "-"]).exitCode = 0 := by
    rw [run_eq_of_arguments hargs]
    exact sampleBound.exitCode_eq_zero (by decide +kernel)
  have hfinite : sampleBound.isFinite "10.5" = true := by decide +kernel
  obtain ⟨services, text, hservices, hprinted, -, hstrict⟩ := isStrict_of_arguments hargs hcode
  rw [(hprinted (.inl rfl)).1]
  exact ⟨hargs, hcode, hstrict.mpr ((sampleBound.isFinite_iff hservices).mp hfinite)⟩

/-- **A text that is not JSON.**  A bound beyond all finite numbers is printed by a name that JSON
does not have, and the run ends with success. -/
theorem extract_of_unbounded :
    Invocation.ofArguments ["extract", "-"] = .ok (.run {} (.extract "-")) ∧
      (run (sampleBound "1e400") ["extract", "-"]).exitCode = 0 ∧
      ¬ Json.IsStrict (run (sampleBound "1e400") ["extract", "-"]).output.toList := by
  have hargs : Invocation.ofArguments ["extract", "-"] = .ok (.run {} (.extract "-")) := by
    decide +kernel
  have hrun := run_eq_of_arguments (s := sampleBound "1e400") hargs
  have hcode : (Command.run (sampleBound "1e400") {} (.extract "-")).exitCode = 0 :=
    sampleBound.exitCode_eq_zero (by decide +kernel)
  have hfinite : sampleBound.isFinite "1e400" = false := by decide +kernel
  obtain ⟨services, j, hservices, hj, hprinted, -⟩ := Options.sink_of_extract hcode
  rw [hrun, (hprinted (.inl rfl)).1, Service.isStrict_render_iff hj,
    ← sampleBound.isFinite_iff hservices, hfinite]
  exact ⟨hargs, hcode, Bool.false_ne_true⟩

end ServiceCatalog
