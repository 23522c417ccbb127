import ServiceCatalog.Proofs.Filing
import ServiceCatalog.Proofs.Transparency

/-!
# Where parameters are declared

The parameters of a path hold for all of its operations, so they may as well be declared on each of
them, in front of the parameters that it has anyway.  This file shows that it makes no difference:
the operation is the same, with its parameters in the same order everywhere, and if a reference
among the declarations leads nowhere, then it is the same one that is reported.

The reason is that reading declarations commutes with having read others before
(`fileDeclaration_extend`): every list of the inputs only grows at its end.  So a run from inputs
that are already there is a run from nothing, put behind them (`foldlM_fileDeclaration_extend`), and
reading two lists one after the other is reading the one and then the other.
-/

namespace ServiceCatalog

open Attempt

variable {doc : Value} {settings : Settings}

namespace Inputs

/-- Nothing behind inputs changes nothing. -/
@[simp] theorem extend_empty (i : Inputs) : i.extend {} = i := by
  simp [extend]

/-- Inputs without a body are their own extension of nothing. -/
theorem empty_extend {i : Inputs} (h : i.body = none) : ({} : Inputs).extend i = i := by
  cases i
  simp_all [extend]

/-- A parameter that is filed behind further inputs is filed in them. -/
theorem file_extend (i j : Inputs) (p : Parameter) : (i.extend j).file p = i.extend (j.file p) := by
  unfold file
  cases p.location <;> simp [extend]

/-- One declaration is read alike behind other inputs. -/
theorem fileDeclaration_extend (i j : Inputs) (v : Value) :
    fileDeclaration doc settings (i.extend j) v =
      (fileDeclaration doc settings j v).map i.extend := by
  rw [fileDeclaration_eq, fileDeclaration_eq]
  cases Parameter.kept? doc settings v with
  | error e => rfl
  | ok o =>
    cases o with
    | none => rfl
    | some p => exact congrArg Except.ok (file_extend i j p)

/-- **A run from inputs that are there is a run from nothing, put behind them.** -/
theorem foldlM_fileDeclaration_extend (vs : List Value) (i : Inputs) :
    vs.foldlM (fileDeclaration doc settings) i =
      (vs.foldlM (fileDeclaration doc settings) {}).map i.extend := by
  have hrun : vs.foldlM (fileDeclaration doc settings) (i.extend {}) =
      (vs.foldlM (fileDeclaration doc settings) {}).map i.extend :=
    foldlM_map (fun v _ j => fileDeclaration_extend i j v) {}
  rwa [extend_empty] at hrun

/-- Declarations are read one list after the other. -/
theorem declared_append {v w : Value} {vs ws : List Value} (hv : v.items? = some vs)
    (hw : w.items? = some (vs ++ ws)) :
    declared doc settings w = declared doc settings v >>= fun i =>
      (ws.foldlM (fileDeclaration doc settings) {}).map i.extend := by
  rw [declared, declared, hv, hw]
  simp only [List.foldlM_append]
  exact congrArg _ (funext fun i => foldlM_fileDeclaration_extend ws i)

/-- What should be a list of declarations is read by its items. -/
theorem declared_eq_foldlM (v : Value) :
    declared doc settings v = (v.items?.getD []).foldlM (fileDeclaration doc settings) {} := by
  unfold declared
  cases v.items? <;> rfl

theorem body_of_declared {v : Value} {i : Inputs} (h : declared doc settings v = .ok i) :
    i.body = none := by
  obtain ⟨ps, -, hfiled⟩ := filed_of_declared h
  exact hfiled.body_eq

end Inputs

namespace Operation

variable {operation moved declarations : Value} {path method : String}

/-- An operation is described alike if it says the same besides its parameters and has the same
inputs together with those of its path. -/
theorem ofDeclaration_eq_of_agreeOutside
    (h : Value.AgreeOutside ["parameters"] operation moved) {i j own ownMoved : Inputs}
    (hown : Inputs.declared doc settings (operation.field "parameters") = .ok own)
    (hmoved : Inputs.declared doc settings (moved.field "parameters") = .ok ownMoved)
    (heq : i.extend own = j.extend ownMoved) :
    ofDeclaration doc path method operation i settings =
      ofDeclaration doc path method moved j settings := by
  have hf : ∀ name, name ≠ "parameters" → operation.field name = moved.field name :=
    fun name hname => h.field_eq (by simpa using hname)
  have hbody : bodyOf doc operation settings = bodyOf doc moved settings := by
    rw [bodyOf, bodyOf, hf "requestBody" (by decide)]
  have houtside : Value.AgreeOutside ["parameters", "requestBody", "responses"] operation moved :=
    h.mono (List.subset_append_left ["parameters"] ["requestBody", "responses"])
  have hassemble : ∀ inputs responses,
      assemble path method operation inputs responses settings =
        assemble path method moved inputs responses settings :=
    fun inputs responses => assemble_eq_of_agreeOutside houtside path method inputs responses
  simp only [ofDeclaration, hown, hmoved, hbody, hf "responses" (by decide), hassemble]
  show (bodyOf doc moved settings >>= fun body => _) = bodyOf doc moved settings >>= fun body => _
  simp only [heq]

/-- **It does not matter where parameters are declared.**  Let an operation be moved: it declares
the parameters of its path in front of its own, says the same as before otherwise, and stands on a
path without parameters.  Then it is described as before, or fails with the same error. -/
theorem ofDeclaration_eq_of_moved {ofPath : List Value} (hpath : declarations.items? = some ofPath)
    (houtside : Value.AgreeOutside ["parameters"] operation moved)
    (hmoved : (moved.field "parameters").items? =
      some (ofPath ++ (operation.field "parameters").items?.getD []))
    (path method : String) (settings : Settings) :
    (Inputs.declared doc settings declarations >>= fun inherited =>
        ofDeclaration doc path method operation inherited settings) =
      Inputs.declared doc settings (.list []) >>= fun inherited =>
        ofDeclaration doc path method moved inherited settings := by
  have hempty : Inputs.declared doc settings (.list []) = .ok {} := rfl
  have happend : Inputs.declared doc settings (moved.field "parameters") =
      Inputs.declared doc settings declarations >>= fun i =>
        (Inputs.declared doc settings (operation.field "parameters")).map i.extend := by
    rw [Inputs.declared_append hpath hmoved, ← Inputs.declared_eq_foldlM]
  rw [hempty]
  show _ = ofDeclaration doc path method moved {} settings
  cases hinherited : Inputs.declared doc settings declarations with
  | error e =>
    rw [hinherited] at happend
    rw [ofDeclaration, happend]
    rfl
  | ok inherited =>
    rw [hinherited] at happend
    cases hown : Inputs.declared doc settings (operation.field "parameters") with
    | error e =>
      rw [hown] at happend
      show ofDeclaration doc path method operation inherited settings = _
      rw [ofDeclaration, ofDeclaration, hown, happend]
      rfl
    | ok own =>
      rw [hown] at happend
      have hbody : inherited.body = none := Inputs.body_of_declared hinherited
      exact ofDeclaration_eq_of_agreeOutside houtside hown happend
        (Inputs.empty_extend (i := inherited.extend own) hbody).symm

/-- A parameter with a location and a name. -/
def sampleNamedParameter (location name : String) (required : Bool) : Value :=
  .mapping [(.text "in", .text location), (.text "name", .text name),
    (.text "required", .bool required)]

/-- An operation with a body and the given parameters. -/
def sampleUpdate (parameters : List Value) : Value :=
  .mapping [(.text "operationId", .text "pets/update"), (.text "parameters", .list parameters),
    (.text "requestBody", sampleContent (sampleSchema "object"))]

theorem ofDeclaration_sampleUpdate_of_moved :
    ∃ o, (Inputs.declared .empty {} (.list [sampleNamedParameter "query" "limit" false]) >>=
        fun inherited => ofDeclaration .empty "/pets" "put"
          (sampleUpdate [sampleNamedParameter "path" "id" true]) inherited {}) = .ok o ∧
      (Inputs.declared .empty {} (.list []) >>= fun inherited =>
        ofDeclaration .empty "/pets" "put"
          (sampleUpdate [sampleNamedParameter "query" "limit" false,
            sampleNamedParameter "path" "id" true]) inherited {}) = .ok o := by
  obtain ⟨o, ho⟩ : ∃ o, (Inputs.declared .empty {} (.list []) >>= fun inherited =>
      ofDeclaration .empty "/pets" "put" (sampleUpdate [sampleNamedParameter "query" "limit" false,
        sampleNamedParameter "path" "id" true]) inherited {}) = .ok o := ⟨_, rfl⟩
  have houtside : Value.AgreeOutside ["parameters"]
      (sampleUpdate [sampleNamedParameter "path" "id" true])
      (sampleUpdate [sampleNamedParameter "query" "limit" false,
        sampleNamedParameter "path" "id" true]) :=
    .cons_same _ _ (.cons (by decide) _ _ (.cons_same _ _ .nil))
  exact ⟨o, (ofDeclaration_eq_of_moved rfl houtside rfl "/pets" "put" {}).trans ho, ho⟩

end Operation
end ServiceCatalog
