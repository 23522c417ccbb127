import ServiceCatalog.Api.Operation
import ServiceCatalog.Proofs.Attempt

/-!
# What a description is made of

A parameter, a body and a response are each described in a few steps: what has to be written out is
checked, references are looked up, and the rest is put together.  Whoever starts from a description
that succeeded wants to know what it was put together from, and not in which order the steps were
taken.  So there is one lemma here for each of these functions, which says what its success means.
-/

namespace ServiceCatalog

open Attempt

variable {doc declaration : Value} {mediaTypes : List String}

namespace Value

/-! ## What has entries -/

/-- What has entries says something. -/
theorem isVacant_of_entries_ne_nil {v : Value} (h : v.entries ≠ []) : v.isVacant = false := by
  unfold entries at h
  induction v using entries?.induct with
  | case1 es =>
    cases es with
    | nil => exact absurd rfl h
    | cons e es => rfl
  | case2 place v ih => exact ih h
  | case3 v hm hk =>
    cases v <;> simp_all [entries?]

theorem entries_ne_nil_of_reference? {v : Value} {ref : String} (h : v.reference? = some ref) :
    v.entries ≠ [] := by
  intro hnil
  rw [reference?, field, field?, hnil] at h
  cases h

theorem isVacant_of_reference? {v : Value} {ref : String} (h : v.reference? = some ref) :
    v.isVacant = false := isVacant_of_entries_ne_nil (entries_ne_nil_of_reference? h)

/-! ## What is written out -/

variable {vs : List Value}

theorem ensureWritable_eq_ok {u : Unit} :
    ensureWritable vs = .ok u ↔ ∀ v ∈ vs, v.isWritable = true := by
  unfold ensureWritable
  rw [← List.all_eq_true]
  split
  next h => exact iff_of_true rfl h
  next h => exact iff_of_false nofun h

theorem ensureWritable_eq_error {e : DescriptionError} :
    ensureWritable vs = .error e ↔ (∃ v ∈ vs, v.isWritable = false) ∧ e = .overlong .written := by
  have hsome : vs.all isWritable = false ↔ ∃ v ∈ vs, v.isWritable = false := by simp
  unfold ensureWritable
  rw [← hsome]
  cases vs.all isWritable <;> simp [eq_comm]

theorem ensureReadable_eq_ok {digits : Nat} {u : Unit} :
    ensureReadable digits = .ok u ↔ digits ≤ digitLimit := by
  unfold ensureReadable
  split
  next h => exact iff_of_true rfl h
  next h => exact iff_of_false nofun h

end Value

/-! ## Contents and bodies -/

theorem Content.choose_eq_ok {content : Value} {c : Option Content} :
    choose content mediaTypes = .ok c ↔
      (∀ k ∈ content.keys, k.isWritable = true) ∧ select content mediaTypes = c := by
  simp [choose, Value.ensureWritable_eq_ok]

namespace Operation

theorem describedBody_eq_ok {p : Parameter} (h : describedBody declaration mediaTypes = .ok p) :
    requestBody declaration mediaTypes = p := by
  simp only [describedBody, bind_eq_ok, pure_eq_ok] at h
  obtain ⟨-, -, -, -, hp⟩ := h
  exact hp

/-- An operation has no body, or the one that its declaration leads to. -/
theorem bodyOf_eq_ok {operation : Value} {settings : Settings} {body : Option Parameter}
    (h : bodyOf doc operation settings = .ok body) :
    body = none ∨ ∃ v, Value.dereference doc (operation.field "requestBody") = .ok v ∧
      body = some (requestBody v settings.mediaTypes) := by
  unfold bodyOf at h
  dsimp only at h
  split at h
  · exact .inl (Except.ok.inj h).symm
  · simp only [bind_eq_ok, map_eq_ok] at h
    obtain ⟨v, hv, p, hp, rfl⟩ := h
    exact .inr ⟨v, hv, by rw [describedBody_eq_ok hp]⟩

end Operation

/-! ## Parameters -/

namespace Parameter

variable {reserved : List String}

/-- A declaration without a known location is no parameter, and any other one is a parameter of that
location, with the type and the default of its schema. -/
theorem ofDeclaration?_eq_ok {o : Option Parameter}
    (h : ofDeclaration? doc declaration reserved = .ok o) :
    (Location.ofValue? (declaration.field "in") = none ∧ o = none) ∨
    ∃ location schema, Location.ofValue? (declaration.field "in") = some location ∧
      schemaOf doc declaration = .ok schema ∧
      o = some ((outline location declaration reserved).withSchema schema) := by
  unfold ofDeclaration? at h
  cases hl : Location.ofValue? (declaration.field "in") with
  | none =>
    rw [hl] at h
    exact .inl ⟨rfl, (Except.ok.inj h).symm⟩
  | some location =>
    simp only [hl, bind_eq_ok, pure_eq_ok] at h
    obtain ⟨-, -, schema, hschema, -, -, ho⟩ := h
    exact .inr ⟨location, schema, rfl, hschema, ho.symm⟩

theorem ofDeclaration?_eq_some {p : Parameter}
    (h : ofDeclaration? doc declaration reserved = .ok (some p)) :
    ∃ location schema, Location.ofValue? (declaration.field "in") = some location ∧
      schemaOf doc declaration = .ok schema ∧
      p = (outline location declaration reserved).withSchema schema := by
  rcases ofDeclaration?_eq_ok h with ⟨-, ho⟩ | ⟨location, schema, hl, hs, hp⟩
  · cases ho
  · exact ⟨location, schema, hl, hs, Option.some.inj hp⟩

end Parameter

/-! ## Responses -/

namespace Response

/-- What a response is before its content is looked at. -/
def outline (code : Int) (declaration : Value) : Response :=
  { code := code, description := (declaration.field "description").nonemptyText? }

/-- A response has the type of the schema that is chosen for it, or reads a header. -/
theorem ofDeclaration_eq_ok {code : Int} {r : Response}
    (h : ofDeclaration doc declaration code mediaTypes = .ok r) :
    (∃ content schema, Content.select (declaration.field "content") mediaTypes = some content ∧
      schemaOf doc content.schema = .ok schema ∧ r = (outline code declaration).withSchema schema) ∨
    (Content.select (declaration.field "content") mediaTypes = none ∧
      r = (outline code declaration).withHeaders (declaration.field "headers")) := by
  simp only [ofDeclaration, bind_eq_ok, Content.choose_eq_ok] at h
  obtain ⟨chosen, ⟨-, rfl⟩, h⟩ := h
  split at h
  next content hselect =>
    simp only [bind_eq_ok, pure_eq_ok] at h
    obtain ⟨schema, hschema, -, -, hr⟩ := h
    exact .inl ⟨content, schema, hselect, hschema, hr.symm⟩
  next hselect =>
    simp only [bind_eq_ok, pure_eq_ok] at h
    obtain ⟨-, -, hr⟩ := h
    exact .inr ⟨hselect, hr.symm⟩

/-- The key of a response is written out, and its digits are few enough to be read. -/
theorem codeOf?_eq_ok {key : Value} {code : Option Nat} :
    codeOf? key = .ok code ↔ key.isWritable = true ∧ statusDigits key.plain ≤ digitLimit ∧
      statusCode? key.plain = code := by
  simp only [codeOf?, bind_eq_ok, pure_eq_ok, Value.ensureWritable_eq_ok,
    Value.ensureReadable_eq_ok, List.mem_singleton, forall_eq, exists_const]

/-- An entry without a status code is passed over, and any other one is described. -/
theorem ofEntries_cons_eq_ok {k : Scalar} {v : Value} {es : Entries} {rs : List Response}
    (h : ofEntries doc mediaTypes ((k, v) :: es) = .ok rs) :
    (statusCode? k.plain = none ∧ ofEntries doc mediaTypes es = .ok rs) ∨
    ∃ code declaration r others, statusCode? k.plain = some code ∧
      Value.dereference doc v = .ok declaration ∧
      ofDeclaration doc declaration code mediaTypes = .ok r ∧
      ofEntries doc mediaTypes es = .ok others ∧ rs = r :: others := by
  simp only [ofEntries, bind_eq_ok, codeOf?_eq_ok] at h
  obtain ⟨code, ⟨-, -, hcode⟩, h⟩ := h
  cases code with
  | none => exact .inl ⟨hcode, h⟩
  | some code =>
    simp only [bind_eq_ok, pure_eq_ok] at h
    obtain ⟨declaration, hd, r, hr, others, hothers, hrs⟩ := h
    exact .inr ⟨code, declaration, r, others, hcode, hd, hr, hothers, hrs.symm⟩

theorem ofEntries_cons_of_some {k : Scalar} {v : Value} {es : Entries} {code : Nat} {r : Response}
    {rs : List Response} (hcode : codeOf? (.scalar k) = .ok (some code))
    (hd : Value.dereference doc v = .ok declaration)
    (hr : ofDeclaration doc declaration code mediaTypes = .ok r)
    (hrs : ofEntries doc mediaTypes es = .ok rs) :
    ofEntries doc mediaTypes ((k, v) :: es) = .ok (r :: rs) := by
  rw [ofEntries, hcode]
  exact bind_eq_ok.mpr ⟨_, rfl, bind_eq_ok.mpr ⟨_, hd, bind_eq_ok.mpr ⟨_, hr,
    bind_eq_ok.mpr ⟨_, hrs, rfl⟩⟩⟩⟩

end Response
end ServiceCatalog
