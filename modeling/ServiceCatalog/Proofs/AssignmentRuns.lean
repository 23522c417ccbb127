import Mathlib.Data.List.Induction
import ServiceCatalog.Api.Parameter
import ServiceCatalog.Api.Response

/-!
# Runs of assignments

A target may be assigned to more than once, made a handle on a named type and given a model in any
order.  Some of its fields are overwritten then, some grow, the flags are merged or replaced as each
step says, and some fields are not touched.  So after a run the fields of one target come from
different parts of the run.

The step of a run is `Model.assign`, and what it does to a field is one of five things.  Each has a
lemma that carries it along a run, for any field:

* `project_assignAll_of_source`: what every step overwrites is that of the last step;
* `project_assignAll_of_adopted`: what only a model overwrites is that of the last model;
* `append_assignAll_of_source` and `append_assignAll_of_adopted`: what grows is that of the start,
  and then that of all steps, or of all models;
* `flag_assignAll`: a flag is set if the start or a model sets it, but nothing counts that came
  before the last model whose flags replaced the others;
* `project_assignAll_of_kept`: what no step touches is that of the start.

`Model.assignAll_by_field` puts them together into one equation for the whole target.
-/

namespace ServiceCatalog
namespace Model

/-! ## What a step brings along -/

namespace Assignment

/-- The model whose names, form and imports a step hands over.  Those of a reference are handed over
as a reference, whatever its form. -/
def source : Assignment → Model
  | .refer reference => { reference with shape := .reference }
  | .adopt m _ => m

/-- The model that a step adopts, if it adopts one. -/
def adopted? : Assignment → Option Model
  | .refer _ => none
  | .adopt m _ => some m

/-- A step replaces the flags of its target. -/
def replacesFlags : Assignment → Bool
  | .refer _ => false
  | .adopt _ merge => !merge

end Assignment

/-! ## Runs -/

/-- What a run of steps makes of a target. -/
def assignAll (target : Model) (steps : List Assignment) : Model := steps.foldl assign target

/-- The models that a run adopts, in order. -/
def adopted (steps : List Assignment) : List Model := steps.filterMap Assignment.adopted?

/-- What the last step of a run hands over; before any step, the target itself. -/
def lastSource (target : Model) (steps : List Assignment) : Model :=
  (steps.map Assignment.source).getLastD target

/-- The last model that a run adopts; before any model, the target itself. -/
def lastAdopted (target : Model) (steps : List Assignment) : Model :=
  (adopted steps).getLastD target

/-- The models whose flags count after a run: those from the last one on that replaced the flags; if
none did, the target and all models. -/
def HasFlagModels (target : Model) (steps : List Assignment) (ms : List Model) : Prop :=
  (∀ s ∈ steps, s.replacesFlags = false) ∧ ms = target :: adopted steps ∨
    ∃ before m after, steps = before ++ .adopt m false :: after ∧
      (∀ s ∈ after, s.replacesFlags = false) ∧ ms = m :: adopted after

variable {target : Model} {steps : List Assignment} {α : Type}

@[simp] theorem assignAll_nil (target : Model) : target.assignAll [] = target := rfl

@[simp] theorem assignAll_cons (target : Model) (s : Assignment) (steps : List Assignment) :
    target.assignAll (s :: steps) = (target.assign s).assignAll steps := rfl

theorem assignAll_append (target : Model) (before after : List Assignment) :
    target.assignAll (before ++ after) = (target.assignAll before).assignAll after :=
  List.foldl_append

theorem assignAll_concat (target : Model) (steps : List Assignment) (s : Assignment) :
    target.assignAll (steps ++ [s]) = (target.assignAll steps).assign s :=
  assignAll_append target steps [s]

@[simp] theorem adopted_cons_refer (reference : Model) (steps : List Assignment) :
    adopted (.refer reference :: steps) = adopted steps := rfl

@[simp] theorem adopted_cons_adopt (m : Model) (merge : Bool) (steps : List Assignment) :
    adopted (.adopt m merge :: steps) = m :: adopted steps := rfl

/-! ## Fields along a run -/

/-- What every step overwrites is that of the last step. -/
theorem project_assignAll_of_source {f : Model → α} (hf : ∀ t s, f (assign t s) = f s.source)
    (target : Model) (steps : List Assignment) :
    f (target.assignAll steps) = f (lastSource target steps) := by
  induction steps using List.reverseRecOn with
  | nil => rfl
  | append_singleton steps s _ =>
    rw [assignAll_concat, hf, lastSource, List.map_append, List.map_singleton,
      List.getLastD_concat]

/-- What only a model overwrites is that of the last model. -/
theorem project_assignAll_of_adopted {f : Model → α} (hrefer : ∀ t r, f (refer t r) = f t)
    (hadopt : ∀ t m merge, f (adopt t m merge) = f m) (target : Model)
    (steps : List Assignment) : f (target.assignAll steps) = f (lastAdopted target steps) := by
  induction steps using List.reverseRecOn with
  | nil => rfl
  | append_singleton steps s ih =>
    rw [assignAll_concat, lastAdopted, adopted, List.filterMap_append]
    cases s with
    | refer r =>
      rw [assign_refer, hrefer, ih]
      exact congrArg (fun ms => f (List.getLastD ms target)) (List.append_nil _).symm
    | adopt m merge =>
      rw [assign_adopt, hadopt]
      exact congrArg f List.getLastD_concat.symm

/-- What every step appends to is that of the start, and then that of all steps. -/
theorem append_assignAll_of_source {f : Model → List α}
    (hf : ∀ t s, f (assign t s) = f t ++ f s.source) (target : Model) (steps : List Assignment) :
    f (target.assignAll steps) = f target ++ steps.flatMap fun s => f s.source := by
  induction steps generalizing target with
  | nil => exact (List.append_nil _).symm
  | cons s steps ih => rw [assignAll_cons, ih, hf, List.append_assoc, List.flatMap_cons]

/-- What only a model appends to is that of the start, and then that of all models. -/
theorem append_assignAll_of_adopted {f : Model → List α} (hrefer : ∀ t r, f (refer t r) = f t)
    (hadopt : ∀ t m merge, f (adopt t m merge) = f t ++ f m) (target : Model)
    (steps : List Assignment) :
    f (target.assignAll steps) = f target ++ (adopted steps).flatMap f := by
  induction steps generalizing target with
  | nil => exact (List.append_nil _).symm
  | cons s steps ih =>
    cases s with
    | refer r => rw [assignAll_cons, ih, assign_refer, hrefer, adopted_cons_refer]
    | adopt m merge =>
      rw [assignAll_cons, ih, assign_adopt, hadopt, adopted_cons_adopt, List.flatMap_cons,
        List.append_assoc]

/-- What no step touches is that of the start. -/
theorem project_assignAll_of_kept {f : Model → α} (hf : ∀ t s, f (assign t s) = f t)
    (target : Model) (steps : List Assignment) : f (target.assignAll steps) = f target := by
  induction steps generalizing target with
  | nil => rfl
  | cons s steps ih => rw [assignAll_cons, ih, hf]

/-! ## Flags -/

/-- As long as no flags are replaced, a flag is set if the start or a model sets it. -/
theorem flag_assignAll_of_merging {f : Model → Bool} (hrefer : ∀ t r, f (refer t r) = f t)
    (hadopt : ∀ t m merge, f (adopt t m merge) = (merge && f t || f m))
    (hsteps : ∀ s ∈ steps, s.replacesFlags = false) (target : Model) :
    f (target.assignAll steps) = (target :: adopted steps).any f := by
  induction steps generalizing target with
  | nil => exact (Bool.or_false _).symm
  | cons s steps ih =>
    obtain ⟨hs, hsteps⟩ := List.forall_mem_cons.mp hsteps
    rw [assignAll_cons, ih hsteps]
    cases s with
    | refer r => rw [assign_refer, adopted_cons_refer, List.any_cons, hrefer, List.any_cons]
    | adopt m merge =>
      have hmerge : merge = true := by simpa [Assignment.replacesFlags] using hs
      rw [assign_adopt, adopted_cons_adopt, List.any_cons, hadopt, hmerge, Bool.true_and,
        List.any_cons, List.any_cons, Bool.or_assoc]

/-- **Flags after a run.**  A flag is set if one of the models sets it whose flags count. -/
theorem flag_assignAll {f : Model → Bool} (hrefer : ∀ t r, f (refer t r) = f t)
    (hadopt : ∀ t m merge, f (adopt t m merge) = (merge && f t || f m)) {ms : List Model}
    (hms : HasFlagModels target steps ms) : f (target.assignAll steps) = ms.any f := by
  rcases hms with ⟨hsteps, rfl⟩ | ⟨before, m, after, rfl, hafter, rfl⟩
  · exact flag_assignAll_of_merging hrefer hadopt hsteps target
  · -- the step replaces the flags, so those from before are lost
    have hm : f ((target.assignAll before).adopt m false) = f m := by
      rw [hadopt, Bool.false_and, Bool.false_or]
    rw [assignAll_append, assignAll_cons, assign_adopt,
      flag_assignAll_of_merging hrefer hadopt hafter, List.any_cons, hm, List.any_cons]

/-- Either no step replaces the flags, or one of them is the last one that does. -/
theorem exists_hasFlagModels (target : Model) (steps : List Assignment) :
    ∃ ms, HasFlagModels target steps ms := by
  induction steps with
  | nil => exact ⟨_, .inl ⟨fun _ h => absurd h List.not_mem_nil, rfl⟩⟩
  | cons s steps ih =>
    obtain ⟨ms, ⟨hsteps, -⟩ | ⟨before, m, after, rfl, hafter, hms⟩⟩ := ih
    · cases s with
      | refer r => exact ⟨_, .inl ⟨List.forall_mem_cons.mpr ⟨rfl, hsteps⟩, rfl⟩⟩
      | adopt m merge =>
        cases merge with
        | true => exact ⟨_, .inl ⟨List.forall_mem_cons.mpr ⟨rfl, hsteps⟩, rfl⟩⟩
        | false => exact ⟨_, .inr ⟨[], m, steps, rfl, hsteps, rfl⟩⟩
    · exact ⟨ms, .inr ⟨s :: before, m, after, rfl, hafter, hms⟩⟩

end Model

/-! ## Parameters and responses as targets -/

/-- What a step makes of a parameter. -/
def Parameter.assign (p : Parameter) : Model.Assignment → Parameter
  | .refer reference => p.refer reference
  | .adopt m merge => p.adopt m merge

/-- What a run of steps makes of a parameter. -/
def Parameter.assignAll (p : Parameter) (steps : List Model.Assignment) : Parameter :=
  steps.foldl assign p

/-- What a step makes of a response. -/
def Response.assign (r : Response) (s : Model.Assignment) : Response :=
  { r with toModel := r.toModel.assign s }

/-- What a run of steps makes of a response. -/
def Response.assignAll (r : Response) (steps : List Model.Assignment) : Response :=
  steps.foldl assign r

/-- A run sees nothing of a parameter but its model. -/
theorem Parameter.assignAll_eq (p : Parameter) (steps : List Model.Assignment) :
    p.assignAll steps = { p with toModel := p.toModel.assignAll steps } := by
  induction steps generalizing p with
  | nil => rfl
  | cons s steps ih =>
    cases s with
    | refer r => exact ih (p.refer r)
    | adopt m merge => exact ih (p.adopt m merge)

/-- A run sees nothing of a response but its model. -/
theorem Response.assignAll_eq (r : Response) (steps : List Model.Assignment) :
    r.assignAll steps = { r with toModel := r.toModel.assignAll steps } := by
  induction steps generalizing r with
  | nil => rfl
  | cons s steps ih => exact ih (r.assign s)

namespace Model

/-- **A target after any run.**  Its form and its three names are those of the last step, as those
of a reference if the step refers to one; its link, its constraints and whether it is read only are
those of the last model; its imports are those of the start and of all steps in order, and its parts
those of the start and of all models; its flags are those of the models that count, the last one
that replaced the flags and the ones behind it.  Nothing else of it has changed, and of a parameter
or a response nothing but the model. -/
theorem assignAll_by_field (target : Model) (steps : List Assignment) :
    (∃ ms, HasFlagModels target steps ms) ∧
    (∀ ms, HasFlagModels target steps ms → target.assignAll steps =
      { target with
        shape := (lastSource target steps).shape
        type := (lastSource target steps).type
        base := (lastSource target steps).base
        template := (lastSource target steps).template
        link := (lastAdopted target steps).link
        isReadOnly := (lastAdopted target steps).isReadOnly
        constraints := (lastAdopted target steps).constraints
        isRequired := ms.any fun m => m.isRequired
        isNullable := ms.any fun m => m.isNullable
        imports := target.imports ++ steps.flatMap fun s => s.source.imports
        members := target.members ++ (adopted steps).flatMap fun m => m.members
        enums := target.enums ++ (adopted steps).flatMap fun m => m.enums
        properties := target.properties ++ (adopted steps).flatMap fun m => m.properties }) ∧
    (∀ p : Parameter, p.assignAll steps = { p with toModel := p.toModel.assignAll steps }) ∧
    ∀ r : Response, r.assignAll steps = { r with toModel := r.toModel.assignAll steps } := by
  refine ⟨exists_hasFlagModels target steps, fun ms hms => ?_,
    fun p => p.assignAll_eq steps, fun r => r.assignAll_eq steps⟩
  have hsource := project_assignAll_of_source
    (f := fun m => (m.shape, m.type, m.base, m.template)) (fun t s => by cases s <;> rfl) target
    steps
  have hadopted := project_assignAll_of_adopted
    (f := fun m => (m.link, m.isReadOnly, m.constraints)) (fun _ _ => rfl) (fun _ _ _ => rfl)
    target steps
  have hkept := project_assignAll_of_kept
    (f := fun m => (m.name, m.description, m.deprecated, m.default, m.isDefinition))
    (fun t s => by cases s <;> rfl) target steps
  simp only [Prod.mk.injEq] at hsource hadopted hkept
  obtain ⟨hshape, htype, hbase, htemplate⟩ := hsource
  obtain ⟨hlink, hreadOnly, hconstraints⟩ := hadopted
  obtain ⟨hname, hdescription, hdeprecated, hdefault, hdefinition⟩ := hkept
  have hrequired := flag_assignAll (f := fun m => m.isRequired) (fun _ _ => rfl)
    (fun _ _ _ => rfl) hms
  have hnullable := flag_assignAll (f := fun m => m.isNullable) (fun _ _ => rfl)
    (fun _ _ _ => rfl) hms
  have himports := append_assignAll_of_source (f := fun m => m.imports)
    (fun t s => by cases s <;> rfl) target steps
  have hmembers := append_assignAll_of_adopted (f := fun m => m.members) (fun _ _ => rfl)
    (fun _ _ _ => rfl) target steps
  have henums := append_assignAll_of_adopted (f := fun m => m.enums) (fun _ _ => rfl)
    (fun _ _ _ => rfl) target steps
  have hproperties := append_assignAll_of_adopted (f := fun m => m.properties) (fun _ _ => rfl)
    (fun _ _ _ => rfl) target steps
  rw [← hshape, ← htype, ← hbase, ← htemplate, ← hlink, ← hreadOnly, ← hconstraints,
    ← hrequired, ← hnullable, ← himports, ← hmembers, ← henums, ← hproperties, ← hname,
    ← hdescription, ← hdeprecated, ← hdefault, ← hdefinition]
  -- a model may contain models, so that it is its fields has to be said
  generalize target.assignAll steps = result
  cases result
  rfl

/-- A text that may be null. -/
def sampleNullable : Model := { type := "string", base := "string", isNullable := true }

/-- An enum that is read only. -/
def sampleColor : Model :=
  { shape := .enumeration, type := "Color", base := "Color", isReadOnly := true,
    imports := ["Color"], members := [⟨"Red", "1", true⟩] }

/-- A generic type. -/
def samplePage : Model :=
  { type := "Page<Pet>", base := "Page", template := some "Pet", imports := ["Page", "Pet"] }

/-- What a signature knows of a target before any step. -/
def sampleTarget : Model := { name := "q", isRequired := true, imports := ["Existing"] }

/-- The flags are merged, then replaced, and the last step is a reference. -/
def sampleRun : List Assignment :=
  [.adopt sampleNullable true, .adopt sampleColor false, .refer samplePage]

theorem assignAll_by_field_sampleRun :
    (sampleTarget.assignAll sampleRun).shape = .reference ∧
      (sampleTarget.assignAll sampleRun).type = "Page<Pet>" ∧
      (sampleTarget.assignAll sampleRun).isReadOnly = true ∧
      (sampleTarget.assignAll sampleRun).isRequired = false ∧
      (sampleTarget.assignAll sampleRun).isNullable = false ∧
      (sampleTarget.assignAll sampleRun).name = "q" ∧
      (sampleTarget.assignAll sampleRun).imports = ["Existing", "Color", "Page", "Pet"] ∧
      (sampleTarget.assignAll sampleRun).members = sampleColor.members := by
  have hflags : HasFlagModels sampleTarget sampleRun [sampleColor] :=
    .inr ⟨[.adopt sampleNullable true], sampleColor, [.refer samplePage], rfl,
      List.forall_mem_singleton.mpr rfl, rfl⟩
  obtain ⟨-, hfields, -, -⟩ := assignAll_by_field sampleTarget sampleRun
  rw [hfields [sampleColor] hflags]
  exact ⟨rfl, rfl, rfl, rfl, rfl, rfl, rfl, rfl⟩

end Model
end ServiceCatalog
