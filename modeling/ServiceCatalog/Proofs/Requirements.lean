import ServiceCatalog.Proofs.Consulted
import ServiceCatalog.Proofs.Demands
import ServiceCatalog.Proofs.Filing

/-!
# What the parts of a description require

What is required of a document is listed in `ServiceCatalog.Proofs.Consulted`: references that lead
somewhere, and integers that are short enough to be converted.  Here each function that describes a
part of the document has one lemma, `demands_…`, which says which of these it requires: it succeeds
if all are met, and if it fails, then with the error of one that is not.

The lemmas follow the composition of the functions by the laws of `Demands`.  The one place where
they do not is a choice (`Demands.bindOf`): what a response requires depends on the medium that was
chosen for it, and this is known even if the choice itself cannot be made.
-/

namespace ServiceCatalog

open Attempt

variable {doc : Value} {settings : Settings}

/-! ## Requirements on a document -/

/-- What may be required of a document. -/
inductive Requirement where
  /-- A reference leads somewhere. -/
  | reference (ref : String)
  /-- An integer is short enough for its conversion. -/
  | conversion (c : Conversion)

namespace Requirement

/-- Meets a requirement, or fails. -/
def meet (doc : Value) : Requirement → Except DescriptionError Unit
  | .reference ref => ((Pointer.resolve doc ref).mapError .pointer).map fun _ => ()
  | .conversion c =>
    match c.fault? with
    | none => .ok ()
    | some o => .error (.overlong o)

/-- The requirements that some references and some conversions make. -/
def Among (refs : String → Prop) (conversions : Conversion → Prop) : Requirement → Prop
  | .reference ref => refs ref
  | .conversion c => conversions c

theorem meet_reference_eq_error {ref : String} {e : DescriptionError} :
    meet doc (.reference ref) = .error e ↔
      ∃ cause, Pointer.resolve doc ref = .error cause ∧ e = .pointer cause := by
  rw [meet, map_eq_error, mapError_eq_error]
  simp only [eq_comm]

theorem meet_conversion_eq_error {c : Conversion} {e : DescriptionError} :
    meet doc (.conversion c) = .error e ↔ ∃ o, c.fault? = some o ∧ e = .overlong o := by
  rw [meet]
  cases c.fault? with
  | none => simp
  | some o => simp [eq_comm]

theorem meet_written {v : Value} (h : v.isWritable = true) :
    meet doc (.conversion (.written v)) = .ok () := by
  simp [meet, Conversion.fault?, h]

theorem meet_not_written {v : Value} (h : v.isWritable = false) :
    meet doc (.conversion (.written v)) = .error (.overlong .written) := by
  simp [meet, Conversion.fault?, h]

end Requirement

open Requirement (Among)

/-! ## Values -/

namespace Value

theorem demands_resolve (ref : String) :
    Demands (Requirement.meet doc) ((Pointer.resolve doc ref).mapError .pointer)
      fun d => d = .reference ref :=
  .of_map (f := fun _ => ()) (Demands.single (Requirement.reference ref))

theorem demands_dereference (v : Value) :
    Demands (Requirement.meet doc) (dereference doc v)
      (Among (fun ref => v.reference? = some ref) fun _ => False) := by
  unfold dereference
  cases hr : v.reference? with
  | none => exact (Demands.ok v).congr fun d => by cases d <;> simp [Among]
  | some r => exact (demands_resolve r).congr fun d => by cases d <;> simp [Among, eq_comm]

theorem demands_dereferenceFrom (home : String) (v : Value) :
    Demands (Requirement.meet doc) (dereferenceFrom home doc v)
      (Among (fun ref => v.reference? = some ref ∧ ref.startsWith home = true) fun _ => False) := by
  unfold dereferenceFrom
  cases hr : v.reference? with
  | none => exact (Demands.ok v).congr fun d => by cases d <;> simp [Among]
  | some r =>
    by_cases hhome : r.startsWith home = true
    · simp only [if_pos hhome]
      refine (demands_resolve r).congr fun d => ?_
      cases d with
      | reference ref =>
        rw [Among, Requirement.reference.injEq, Option.some.injEq]
        constructor
        · rintro rfl
          exact ⟨rfl, hhome⟩
        · rintro ⟨rfl, -⟩
          rfl
      | conversion c => simp [Among]
    · simp only [if_neg hhome]
      refine (Demands.ok v).congr fun d => ?_
      cases d with
      | reference ref =>
        rw [Among, Option.some.injEq]
        refine iff_of_false not_false ?_
        rintro ⟨rfl, hhome'⟩
        exact hhome hhome'
      | conversion c => exact Iff.rfl

theorem demands_ensureWritable (vs : List Value) :
    Demands (Requirement.meet doc) (ensureWritable vs)
      (Among (fun _ => False) fun c => ∃ v ∈ vs, c = .written v) where
  fails := by
    intro e he
    obtain ⟨⟨v, hv, hlong⟩, rfl⟩ := ensureWritable_eq_error.mp he
    exact ⟨.conversion (.written v), ⟨v, hv, rfl⟩, Requirement.meet_not_written hlong⟩
  succeeds := by
    rintro u hu (ref | c) h
    · exact h.elim
    · obtain ⟨v, hv, rfl⟩ := h
      exact ⟨(), Requirement.meet_written (ensureWritable_eq_ok.mp hu v hv)⟩

theorem demands_ensureReadable (digits : Nat) :
    Demands (Requirement.meet doc) (ensureReadable digits)
      (Among (fun _ => False) fun c => c = .read digits) := by
  have hmeet : Requirement.meet doc (.conversion (.read digits)) = ensureReadable digits := by
    rw [Requirement.meet, Conversion.fault?, ensureReadable]
    split <;> simp_all
  rw [← hmeet]
  exact (Demands.single _).congr fun d => by cases d <;> simp [Among]

end Value

theorem Content.demands_choose (content : Value) (mediaTypes : List String) :
    Demands (Requirement.meet doc) (choose content mediaTypes)
      (Among (fun _ => False) fun c => ∃ k ∈ content.keys, c = .written k) :=
  (Value.demands_ensureWritable content.keys).map

/-- What is chosen is known, whether or not the choice can be made. -/
theorem Content.select_eq_iff_of_choose {content : Value} {mediaTypes : List String}
    {chosen : Option Content} (h : choose content mediaTypes = .ok chosen) (c : Option Content) :
    select content mediaTypes = c ↔ c = chosen := by
  rw [(choose_eq_ok.mp h).2, eq_comm]

/-! ## Parameters -/

namespace Parameter

theorem demands_ofDeclaration? (declaration : Value) (reserved : List String) :
    Demands (Requirement.meet doc) (ofDeclaration? doc declaration reserved)
      (Among
        (fun ref => (Location.ofValue? (declaration.field "in")).isSome = true ∧
          (declaration.field "schema").reference? = some ref ∧ ref.startsWith declaredHome = true)
        fun c => (Location.ofValue? (declaration.field "in")).isSome = true ∧
          ((∃ name, declaration.field? "name" = some name ∧ c = .written name) ∨
            ∃ schema, schemaOf doc declaration = .ok schema ∧
              ∃ w ∈ Schema.written schema, c = .written w)) := by
  unfold ofDeclaration?
  cases hl : Location.ofValue? (declaration.field "in") with
  | none => exact (Demands.ok _).congr fun d => by cases d <;> simp [Among]
  | some location =>
    have hschema : Demands (Requirement.meet doc) (schemaOf doc declaration) _ :=
      Value.demands_dereferenceFrom declaredHome (declaration.field "schema")
    refine ((Value.demands_ensureWritable (declaration.field? "name").toList).andThen fun _ _ =>
      hschema.bind fun schema _ =>
        (Value.demands_ensureWritable (Schema.written schema)).andThen fun _ _ =>
          Demands.ok _).congr fun d => ?_
    cases d <;> simp [Among]

theorem demands_kept? (v : Value) :
    Demands (Requirement.meet doc) (kept? doc settings v)
      (Among (Consults doc v) (Converts doc v)) := by
  unfold kept?
  refine ((Value.demands_dereference v).bind fun declaration _ =>
    (demands_ofDeclaration? declaration settings.reservedParameterNames).map).congr fun d => ?_
  cases d with
  | reference ref =>
    constructor
    · rintro (h | ⟨declaration, hd, hl, hs, hh⟩)
      · exact .entry h
      · exact .schema hd hl hs hh
    · rintro (h | ⟨hd, hl, hs, hh⟩)
      · exact .inl h
      · exact .inr ⟨_, hd, hl, hs, hh⟩
  | conversion c =>
    constructor
    · rintro (h | ⟨declaration, hd, hl, ⟨name, hn, rfl⟩ | ⟨schema, hs, w, hw, rfl⟩⟩)
      · exact h.elim
      · exact .name hd hl hn
      · exact .schema hd hl hs hw
    · rintro (⟨hd, hl, hn⟩ | ⟨hd, hl, hs, hw⟩)
      · exact .inr ⟨_, hd, hl, .inl ⟨_, hn, rfl⟩⟩
      · exact .inr ⟨_, hd, hl, .inr ⟨_, hs, _, hw, rfl⟩⟩

end Parameter

theorem Inputs.demands_declared (v : Value) :
    Demands (Requirement.meet doc) (declared doc settings v)
      (Among (Consults doc v) (Converts doc v)) := by
  unfold declared
  cases hvs : v.items? with
  | none =>
    refine (Demands.ok _).congr fun d => ?_
    cases d <;> simp [Among, Consults, Converts, hvs]
  | some vs =>
    have hrun : Demands (Requirement.meet doc) (vs.foldlM (fileDeclaration doc settings) {})
        fun d => ∃ w ∈ vs, Among (Parameter.Consults doc w) (Parameter.Converts doc w) d := by
      refine Demands.foldlM (P := fun _ => True) (fun _ _ _ _ _ _ => trivial) ?_ trivial
      intro w _ i _
      rw [fileDeclaration_eq]
      exact (Parameter.demands_kept? w).map
    refine hrun.congr fun d => ?_
    cases d <;> simp [Among, Consults, Converts, hvs]

/-! ## Responses -/

namespace Response

variable {mediaTypes : List String}

theorem demands_ofDeclaration (declaration : Value) (code : Int) (mediaTypes : List String) :
    Demands (Requirement.meet doc) (ofDeclaration doc declaration code mediaTypes)
      (Among
        (fun ref => ∃ content,
          Content.select (declaration.field "content") mediaTypes = some content ∧
            content.schema.reference? = some ref ∧ ref.startsWith declaredHome = true)
        (DeclarationConverts doc declaration mediaTypes)) := by
  unfold ofDeclaration
  refine ((Content.demands_choose _ mediaTypes).bindOf (D := fun chosen => Among
    (fun ref => ∃ content, chosen = some content ∧
      content.schema.reference? = some ref ∧ ref.startsWith declaredHome = true)
    fun c =>
      (∃ content, chosen = some content ∧ ∃ schema, schemaOf doc content.schema = .ok schema ∧
        ∃ w ∈ Schema.written schema, c = .written w) ∨
      chosen = none ∧ ∃ k ∈ (declaration.field "headers").keys.take 1, c = .written k)
    (fun _ h => Content.select_eq_iff_of_choose h) fun chosen _ => ?_).congr fun d => ?_
  · cases chosen with
    | none =>
      refine ((Value.demands_ensureWritable _).andThen fun _ _ => Demands.ok _).congr fun d => ?_
      cases d <;> simp [Among]
    | some content =>
      have hschema : Demands (Requirement.meet doc) (schemaOf doc content.schema) _ :=
        Value.demands_dereferenceFrom declaredHome content.schema
      refine (hschema.bind fun schema _ =>
        (Value.demands_ensureWritable (Schema.written schema)).andThen fun _ _ =>
          Demands.ok _).congr fun d => ?_
      cases d <;> simp [Among]
  · cases d with
    | reference ref => simp [Among]
    | conversion c =>
      constructor
      · rintro (⟨k, hk, rfl⟩ |
          ⟨chosen, hs, ⟨content, rfl, schema, ht, w, hw, rfl⟩ | ⟨rfl, k, hk, rfl⟩⟩)
        · exact .mediaType hk
        · exact .schema hs ht hw
        · exact .header hs hk
      · rintro (hk | ⟨hs, ht, hw⟩ | ⟨hs, hk⟩)
        · exact .inl ⟨_, hk, rfl⟩
        · exact .inr ⟨_, hs, .inl ⟨_, rfl, _, ht, _, hw, rfl⟩⟩
        · exact .inr ⟨_, hs, .inr ⟨rfl, _, hk, rfl⟩⟩

variable {e : Scalar × Value} {ref : String} {c : Conversion}

theorem consults_iff : Consults doc mediaTypes e ref ↔
    (statusCode? e.1.plain).isSome = true ∧ (e.2.reference? = some ref ∨
      ∃ declaration, Value.dereference doc e.2 = .ok declaration ∧
        ∃ content, Content.select (declaration.field "content") mediaTypes = some content ∧
          content.schema.reference? = some ref ∧ ref.startsWith declaredHome = true) := by
  constructor
  · rintro (⟨hc, h⟩ | ⟨hc, hd, hs, hr, hh⟩)
    · exact ⟨hc, .inl h⟩
    · exact ⟨hc, .inr ⟨_, hd, _, hs, hr, hh⟩⟩
  · rintro ⟨hc, h | ⟨declaration, hd, content, hs, hr, hh⟩⟩
    · exact .entry hc h
    · exact .schema hc hd hs hr hh

theorem converts_iff : Converts doc mediaTypes e c ↔
    (c = .written (.scalar e.1) ∨ c = .read (statusDigits e.1.plain)) ∨
      (statusCode? e.1.plain).isSome = true ∧ ∃ declaration,
        Value.dereference doc e.2 = .ok declaration ∧
          DeclarationConverts doc declaration mediaTypes c := by
  constructor
  · rintro (_ | _ | ⟨hc, hd, h⟩)
    · exact .inl (.inl rfl)
    · exact .inl (.inr rfl)
    · exact .inr ⟨hc, _, hd, h⟩
  · rintro ((rfl | rfl) | ⟨hc, declaration, hd, h⟩)
    · exact .key
    · exact .code
    · exact .declaration hc hd h

theorem demands_codeOf? (key : Scalar) :
    Demands (Requirement.meet doc) (codeOf? (.scalar key))
      (Among (fun _ => False) fun c =>
        c = .written (.scalar key) ∨ c = .read (statusDigits key.plain)) := by
  unfold codeOf?
  refine ((Value.demands_ensureWritable [.scalar key]).andThen fun _ _ =>
    (Value.demands_ensureReadable (statusDigits key.plain)).andThen fun _ _ =>
      Demands.ok _).congr fun d => ?_
  cases d <;> simp [Among]

/-- An entry demands what its key demands and, if that is a status code, what it is described by. -/
theorem demands_ofEntries (es : Entries) :
    Demands (Requirement.meet doc) (ofEntries doc mediaTypes es)
      (Among (fun ref => ∃ e ∈ es, Consults doc mediaTypes e ref)
        fun c => ∃ e ∈ es, Converts doc mediaTypes e c) := by
  induction es with
  | nil => exact (Demands.ok _).congr fun d => by cases d <;> simp [Among]
  | cons e es ih =>
    obtain ⟨k, v⟩ := e
    rw [ofEntries]
    refine ((demands_codeOf? k).bindOf (Q := fun code => statusCode? k.plain = code)
      (D := fun code => Among
        (fun ref => (code.isSome = true ∧ (v.reference? = some ref ∨
          ∃ declaration, Value.dereference doc v = .ok declaration ∧
            ∃ content, Content.select (declaration.field "content") mediaTypes = some content ∧
              content.schema.reference? = some ref ∧ ref.startsWith declaredHome = true)) ∨
          ∃ e ∈ es, Consults doc mediaTypes e ref)
        fun c => (code.isSome = true ∧ ∃ declaration, Value.dereference doc v = .ok declaration ∧
          DeclarationConverts doc declaration mediaTypes c) ∨
          ∃ e ∈ es, Converts doc mediaTypes e c)
      (fun code hcode code' => ?_) fun code _ => ?_).congr fun d => ?_
    · have hread : statusCode? k.plain = code := (codeOf?_eq_ok.mp hcode).2.2
      rw [hread, eq_comm]
    · cases code with
      | none => exact ih.congr fun d => by cases d <;> simp [Among]
      | some code =>
        have hdescribed := (@Value.demands_dereference doc v).bind fun declaration _ =>
          demands_ofDeclaration declaration code mediaTypes
        have hall := hdescribed.andThen fun response _ =>
          ih.andThen fun others _ => Demands.ok (response :: others)
        rw [bind_assoc] at hall
        exact hall.congr fun d => by cases d <;> simp [Among]
    · cases d with
      | reference ref => simp [Among, consults_iff]
      | conversion c => simp [Among, converts_iff, or_assoc]

theorem demands_declared (responses : Value) :
    Demands (Requirement.meet doc) (declared doc responses mediaTypes)
      (Among (fun ref => ∃ e ∈ responses.entries, Consults doc mediaTypes e ref)
        fun c => ∃ e ∈ responses.entries, Converts doc mediaTypes e c) :=
  (demands_ofEntries responses.entries).map

end Response

/-! ## Operations -/

namespace Operation

theorem demands_describedBody (declaration : Value) (mediaTypes : List String) :
    Demands (Requirement.meet doc) (describedBody declaration mediaTypes)
      (Among (fun _ => False) (BodyConverts declaration mediaTypes)) := by
  unfold describedBody
  refine ((Content.demands_choose _ mediaTypes).bindOf
    (fun _ h => Content.select_eq_iff_of_choose h) fun chosen _ =>
      (Value.demands_ensureWritable _).andThen fun _ _ => Demands.ok _).congr fun d => ?_
  cases d with
  | reference ref => simp [Among]
  | conversion c =>
    constructor
    · rintro (⟨k, hk, rfl⟩ | ⟨chosen, hs, ⟨w, hmem, rfl⟩ | h⟩)
      · exact .mediaType hk
      · obtain ⟨content, hc, hw⟩ := List.mem_flatMap.mp hmem
        obtain rfl := Option.mem_toList.mp hc
        exact .schema hs hw
      · exact h.elim
    · rintro (hk | ⟨hs, hw⟩)
      · exact .inl ⟨_, hk, rfl⟩
      · exact .inr ⟨_, hs, .inl ⟨_, List.mem_flatMap.mpr ⟨_, Option.mem_toList.mpr rfl, hw⟩, rfl⟩⟩

theorem demands_bodyOf (operation : Value) :
    Demands (Requirement.meet doc) (bodyOf doc operation settings)
      (Among (fun ref => (operation.field "requestBody").reference? = some ref)
        fun c => (operation.field "requestBody").isVacant = false ∧
          ∃ v, Value.dereference doc (operation.field "requestBody") = .ok v ∧
            BodyConverts v settings.mediaTypes c) := by
  unfold bodyOf
  simp only
  by_cases hv : (operation.field "requestBody").isVacant = true
  · simp only [if_pos hv]
    refine (Demands.ok _).congr fun d => ?_
    cases d with
    | reference ref =>
      refine iff_of_false not_false fun h => ?_
      rw [Value.isVacant_of_reference? h] at hv
      exact Bool.false_ne_true hv
    | conversion c => simp [Among, hv]
  · simp only [if_neg hv]
    refine ((Value.demands_dereference _).bind fun v _ =>
      (demands_describedBody v settings.mediaTypes).map).congr fun d => ?_
    cases d <;> simp [Among, hv]

theorem demands_ofDeclaration (path method : String) (operation : Value) (inherited : Inputs) :
    Demands (Requirement.meet doc) (ofDeclaration doc path method operation inherited settings)
      (Among (Consults doc settings operation) (Converts doc settings operation)) := by
  unfold ofDeclaration
  refine ((Inputs.demands_declared _).andThen fun own _ =>
    (demands_bodyOf operation).andThen fun body _ =>
      (Response.demands_declared _).andThen fun responses _ => Demands.ok _).congr fun d => ?_
  cases d with
  | reference ref =>
    constructor
    · rintro (h | h | ⟨e, he, h⟩ | h)
      · exact .parameter h
      · exact .body h
      · exact .response he h
      · exact h.elim
    · rintro (h | h | ⟨he, h⟩)
      · exact .inl h
      · exact .inr (.inl h)
      · exact .inr (.inr (.inl ⟨_, he, h⟩))
  | conversion c =>
    constructor
    · rintro (h | ⟨hv, v, hd, h⟩ | ⟨e, he, h⟩ | h)
      · exact .parameter h
      · exact .body hv hd h
      · exact .response he h
      · exact h.elim
    · rintro (h | ⟨hv, hd, h⟩ | ⟨he, h⟩)
      · exact .inl h
      · exact .inr (.inl ⟨hv, _, hd, h⟩)
      · exact .inr (.inr (.inl ⟨_, he, h⟩))

end Operation

end ServiceCatalog
