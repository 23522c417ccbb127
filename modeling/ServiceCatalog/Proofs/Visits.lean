import ServiceCatalog.Api.Service
import ServiceCatalog.Proofs.Attempt

/-!
# Which operations a service visits

The service of a tag is the end of two nested runs, over the paths of the document and over the
methods of the settings.  What a service holds does not depend on how the runs are nested, and this
file takes the nesting away: `Service.Visited` says where an operation of a tag can stand, and
`ofTag_induction` says that a service is made from the empty one by adding operations that are
visited.

The name of a service is what the runs compare tags with, so the first thing to know is that no step
changes it.
-/

namespace ServiceCatalog

open Attempt

variable {doc : Value} {settings : Settings}

namespace Service

/-- A named tag of the document. -/
def IsDeclaredTag (doc : Value) (tag : String) : Prop :=
  ∃ tags, (doc.field "tags").items? = some tags ∧ ∃ t ∈ tags, tagName? t = some tag

/-- An operation that carries a tag: it is a mapping, and stands under a method of the settings on a
path of the document. -/
structure Visited (doc : Value) (settings : Settings) (tag : String) (key : Scalar) (item : Value)
    (method : String) : Prop where
  entry : (key, item) ∈ (doc.field "paths").entries
  method_mem : method ∈ settings.methods
  isMapping : (item.field method).isMapping = true
  carries : carries (item.field method) tag = true

/-! ## One step -/

variable {key : Scalar} {item : Value} {inherited : Inputs} {method : String} {s t : Service}

theorem visitMethod_of_carries
    (h : ((item.field method).isMapping && carries (item.field method) s.name) = true) :
    visitMethod doc settings key item inherited s method =
      (operationAt doc settings key method (item.field method) inherited).map s.add := by
  simp only [visitMethod]
  rw [if_pos h]

theorem visitMethod_of_not_carries
    (h : ((item.field method).isMapping && carries (item.field method) s.name) = false) :
    visitMethod doc settings key item inherited s method = .ok s := by
  simp only [visitMethod]
  rw [if_neg (by simp [h])]

/-- A method adds its operation, or nothing. -/
theorem exists_of_visitMethod
    (h : visitMethod doc settings key item inherited s method = .ok t) :
    t = s ∨ ∃ o, (item.field method).isMapping = true ∧
      carries (item.field method) s.name = true ∧
      operationAt doc settings key method (item.field method) inherited = .ok o ∧
      t = s.add o := by
  cases hc : (item.field method).isMapping && carries (item.field method) s.name with
  | false =>
    rw [visitMethod_of_not_carries hc] at h
    exact .inl (Except.ok.inj h).symm
  | true =>
    rw [visitMethod_of_carries hc, map_eq_ok] at h
    obtain ⟨o, ho, rfl⟩ := h
    obtain ⟨hm, ht⟩ := Bool.and_eq_true_iff.mp hc
    exact .inr ⟨o, hm, ht, ho, rfl⟩

/-- A path that is not empty is read, and then its methods are visited. -/
theorem visitPath_of_ne_nil {e : Scalar × Value} (h : e.2.entries ≠ []) :
    visitPath doc settings s e =
      ((Inputs.declared doc settings (e.2.field "parameters")).mapError .description).bind fun i =>
        settings.methods.foldlM (visitMethod doc settings e.1 e.2 i) s := by
  unfold visitPath
  rw [if_neg (by simpa using h)]
  rfl

theorem visitPath_of_nil {e : Scalar × Value} (h : e.2.entries = []) :
    visitPath doc settings s e = .ok s := by
  unfold visitPath
  rw [if_pos (by simp [h])]

/-- A mapping stands on no empty path. -/
theorem entries_ne_nil_of_isMapping (h : (item.field method).isMapping = true) :
    item.entries ≠ [] := by
  intro hnil
  rw [Value.field, Value.field?, hnil] at h
  exact Bool.false_ne_true h

/-! ## All steps -/

/-- What the operations of the tag preserve, a path preserves. -/
theorem visitPath_preserves {P : Service → Prop} {tag : String} {e : Scalar × Value}
    (he : e ∈ (doc.field "paths").entries)
    (add : ∀ s method inherited o, Visited doc settings tag e.1 e.2 method →
      Inputs.declared doc settings (e.2.field "parameters") = .ok inherited →
      operationAt doc settings e.1 method (e.2.field method) inherited = .ok o → P s → P (s.add o))
    (hname : s.name = tag) (hs : P s) (h : visitPath doc settings s e = .ok t) :
    t.name = tag ∧ P t := by
  by_cases hnil : e.2.entries = []
  · rw [visitPath_of_nil hnil] at h
    rw [← Except.ok.inj h]
    exact ⟨hname, hs⟩
  · rw [visitPath_of_ne_nil hnil] at h
    obtain ⟨inherited, hi, hrun⟩ := bind_eq_ok.mp h
    rw [mapError_eq_ok] at hi
    refine foldlM_preserves (P := fun s => s.name = tag ∧ P s) ?_ ⟨hname, hs⟩ hrun
    rintro method hmethod s t ⟨hname, hs⟩ hstep
    rcases exists_of_visitMethod hstep with rfl | ⟨o, hm, hc, ho, rfl⟩
    · exact ⟨hname, hs⟩
    · exact ⟨hname, add s method inherited o ⟨he, hmethod, hm, hname ▸ hc⟩ hi ho hs⟩

/-- **A service is made by adding operations that carry its tag.** -/
theorem ofTag_induction {P : Service → Prop} {tag : Value}
    (start : P { name := (tagName? tag).getD "",
                 description := (tag.field "description").nonemptyText? })
    (add : ∀ s key item method inherited o,
      Visited doc settings ((tagName? tag).getD "") key item method →
      Inputs.declared doc settings (item.field "parameters") = .ok inherited →
      operationAt doc settings key method (item.field method) inherited = .ok o → P s → P (s.add o))
    (h : ofTag doc tag settings = .ok s) : s.name = (tagName? tag).getD "" ∧ P s := by
  refine foldlM_preserves (P := fun s => s.name = (tagName? tag).getD "" ∧ P s) ?_ ⟨rfl, start⟩ h
  rintro e he s t ⟨hname, hs⟩ hstep
  exact visitPath_preserves he (fun s method inherited o => add s e.1 e.2 method inherited o) hname
    hs hstep

/-- The services of tags are those of the named ones. -/
theorem exists_of_mem_ofTags {tags : List Value} {ss : List Service}
    (h : ofTags doc settings tags = .ok ss) (hs : s ∈ ss) :
    ∃ tag ∈ tags, (tagName? tag).isSome = true ∧ ofTag doc tag settings = .ok s := by
  induction tags generalizing ss with
  | nil =>
    rw [ofTags, Except.ok.injEq] at h
    exact absurd (h ▸ hs) List.not_mem_nil
  | cons tag tags ih =>
    by_cases hn : (tagName? tag).isSome = true
    · simp only [ofTags, if_pos hn, bind_eq_ok, pure_eq_ok] at h
      obtain ⟨first, hfirst, others, hothers, rfl⟩ := h
      rcases List.mem_cons.mp hs with rfl | hs
      · exact ⟨tag, List.mem_cons_self, hn, hfirst⟩
      · obtain ⟨tag', hmem, hrest⟩ := ih hothers hs
        exact ⟨tag', List.mem_cons_of_mem tag hmem, hrest⟩
    · rw [ofTags, if_neg hn] at h
      obtain ⟨tag', hmem, hrest⟩ := ih h hs
      exact ⟨tag', List.mem_cons_of_mem tag hmem, hrest⟩

/-- Every service of a document is the service of one of its tags. -/
theorem exists_of_mem_ofDocument {ss : List Service} (h : ofDocument doc settings = .ok ss)
    (hs : s ∈ ss) : ∃ tag, ofTag doc tag settings = .ok s := by
  unfold ofDocument at h
  split at h
  · obtain ⟨tag, -, -, hof⟩ := exists_of_mem_ofTags h hs
    exact ⟨tag, hof⟩
  · rw [← Except.ok.inj h] at hs
    exact absurd hs List.not_mem_nil

end Service
end ServiceCatalog
