import ServiceCatalog.Proofs.Containers
import ServiceCatalog.Proofs.ModelTrees

/-!
# How deep models are compared

Two models describe the same type if they have the same names level by level, down to the end of
their links.  Of the models that are made here that is too much said.  A container takes its names
from its element, so all levels of a model have the names of the first one (`IsUniform`), and what
is left of the levels below is how many there are: the `depth` of the model.

* `IsUniform.sameType_iff`: uniform models describe the same type exactly if they have the same
  three names and the same depth.
* `Schema.IsModelOf.isUniform`, by induction along the links, and
  `Response.isUniform_ofDeclaration`: whatever is made for a schema or for the declaration of a
  response is uniform.
* `Response.exists_kept`: the loop that drops results compares them and looks at nothing else of
  them.  Two runs over responses that compare alike therefore drop the same places.  The lists are
  read as one list of pairs, and the induction is on that list from its end, as the loop appends.
-/

namespace ServiceCatalog

open Attempt Schema

namespace Model

/-- How many links lead down from a model, one behind the other. -/
def depth (m : Model) : Nat :=
  match _h : m.link with
  | none => 0
  | some l => depth l + 1
termination_by sizeOf m
decreasing_by exact sizeOf_link_lt ‹m.link = some l›

theorem depth_of_link_eq_none {m : Model} (h : m.link = none) : m.depth = 0 := by
  rw [depth]
  split <;> simp_all

theorem depth_of_link_eq_some {m l : Model} (h : m.link = some l) : m.depth = l.depth + 1 := by
  rw [depth]
  split <;> simp_all

/-- A chain has one level more than there are links. -/
theorem length_typeChain (m : Model) : m.typeChain.length = m.depth + 1 := by
  induction m using linkInduction with
  | unlinked m h =>
    rw [typeChain_of_link_eq_none h, depth_of_link_eq_none h]
    rfl
  | linked m l h ih =>
    rw [typeChain_of_link_eq_some h, depth_of_link_eq_some h, List.length_cons, ih]

/-- All levels of a model have its names. -/
def IsUniform (m : Model) : Prop := ∀ n ∈ m.typeChain, n = m.names

theorem isUniform_of_link_eq_none {m : Model} (h : m.link = none) : m.IsUniform := by
  intro n hn
  rw [typeChain_of_link_eq_none h] at hn
  exact List.mem_singleton.mp hn

theorem isUniform_of_link_eq_some {m l : Model} (h : m.link = some l) (hnames : m.names = l.names)
    (hl : l.IsUniform) : m.IsUniform := by
  intro n hn
  rw [typeChain_of_link_eq_some h] at hn
  rcases List.mem_cons.mp hn with hn | hn
  · exact hn
  · rw [hnames]
    exact hl n hn

/-- Whether a model is uniform is said by its names and its link. -/
theorem IsUniform.congr {m n : Model} (hn : n.IsUniform) (hnames : m.names = n.names)
    (hlink : m.link = n.link) : m.IsUniform := by
  unfold IsUniform
  rw [typeChain_congr hnames hlink, hnames]
  exact hn

theorem IsUniform.typeChain_eq {m : Model} (h : m.IsUniform) :
    m.typeChain = List.replicate (m.depth + 1) m.names :=
  List.eq_replicate_iff.mpr ⟨length_typeChain m, h⟩

/-- **Uniform models describe the same type exactly if they have the same names and the same
depth.** -/
theorem IsUniform.sameType_iff {a b : Model} (ha : a.IsUniform) (hb : b.IsUniform) :
    a.sameType b = true ↔ a.names = b.names ∧ a.depth = b.depth := by
  rw [Model.sameType_iff, ha.typeChain_eq, hb.typeChain_eq, List.replicate_inj]
  constructor
  · rintro ⟨hdepth, hzero | hnames⟩
    · exact absurd hzero (Nat.succ_ne_zero _)
    · exact ⟨hnames, Nat.succ.inj hdepth⟩
  · rintro ⟨hnames, hdepth⟩
    exact ⟨congrArg (· + 1) hdepth, .inr hnames⟩

end Model

/-! ## What is made here is uniform -/

namespace Schema

/-- The model of a schema is uniform, at every level of its links. -/
theorem IsModelOf.isUniform {name : String} {schema : Value} {m : Model}
    (h : IsModelOf name schema m) : m.IsUniform := by
  induction m using Model.linkInduction generalizing schema with
  | unlinked m hl => exact Model.isUniform_of_link_eq_none hl
  | linked m l hl ih =>
    obtain ⟨-, -, hmodel, hnames⟩ := h.link hl
    exact Model.isUniform_of_link_eq_some hl hnames (ih hmodel)

theorem isUniform_resolve (name : String) (isDefinition : Bool) (schema : Value) :
    (resolve name isDefinition schema).IsUniform :=
  (isModelOf_resolve name isDefinition schema).isUniform

end Schema

namespace Response

variable {doc : Value} {mediaTypes : List String}

/-- A response has no links of its own, and gets those of the model of its schema. -/
theorem isUniform_withSchema {r : Response} (hlink : r.link = none) (schema : Value) :
    (r.withSchema schema).toModel.IsUniform := by
  unfold withSchema
  split
  · exact Model.isUniform_of_link_eq_none hlink
  · exact (isUniform_resolve "" false schema).congr rfl rfl

theorem link_withHeaders (r : Response) (headers : Value) :
    (r.withHeaders headers).link = r.link := by
  unfold withHeaders
  split <;> rfl

/-- **The response that a declaration describes is uniform**, whether it has a body, reads a header
or has neither. -/
theorem isUniform_ofDeclaration {declaration : Value} {code : Int} {r : Response}
    (h : ofDeclaration doc declaration code mediaTypes = .ok r) : r.toModel.IsUniform := by
  rcases ofDeclaration_eq_ok h with ⟨content, schema, -, -, rfl⟩ | ⟨-, rfl⟩
  · exact isUniform_withSchema rfl schema
  · exact Model.isUniform_of_link_eq_none (link_withHeaders _ _)

end Response

/-- A model that is made for a schema, or for the declaration of a response. -/
inductive IsMade : Model → Prop
  | ofSchema (name : String) (isDefinition : Bool) (schema : Value) :
      IsMade (resolve name isDefinition schema)
  | ofResponse {doc declaration : Value} {code : Int} {mediaTypes : List String} {r : Response}
      (h : Response.ofDeclaration doc declaration code mediaTypes = .ok r) : IsMade r.toModel

theorem IsMade.isUniform {m : Model} (h : IsMade m) : m.IsUniform := by
  cases h with
  | ofSchema name isDefinition schema => exact isUniform_resolve name isDefinition schema
  | ofResponse h => exact Response.isUniform_ofDeclaration h

/-! ## What the choice of results depends on -/

namespace Response

variable {ps : List (Response × Response)}

/-- Two loops over responses that compare alike keep the same places. -/
theorem exists_kept (h : ∀ p ∈ ps, ∀ q ∈ ps,
      p.1.sameType q.1.toModel = p.2.sameType q.2.toModel) :
    ∃ kept : List (Response × Response), kept.Sublist ps ∧ (kept = [] → ps = []) ∧
      distinctTypes (ps.map Prod.fst) = kept.map Prod.fst ∧
      distinctTypes (ps.map Prod.snd) = kept.map Prod.snd := by
  induction ps using List.reverseRecOn with
  | nil => exact ⟨[], List.Sublist.refl _, id, rfl, rfl⟩
  | append_singleton ps p ih =>
    have hp : p ∈ ps ++ [p] := List.mem_append_right ps List.mem_cons_self
    obtain ⟨kept, hsub, -, hfst, hsnd⟩ := ih fun q hq q' hq' =>
      h q (List.mem_append_left _ hq) q' (List.mem_append_left _ hq')
    have hany : ((kept.map Prod.fst).any fun s => s.sameType p.1.toModel) =
        (kept.map Prod.snd).any fun s => s.sameType p.2.toModel := by
      rw [List.any_map, List.any_map, Bool.eq_iff_iff, List.any_eq_true, List.any_eq_true]
      refine exists_congr fun q => and_congr_right fun hq => ?_
      exact Bool.eq_iff_iff.mp (h q (List.mem_append_left _ (hsub.subset hq)) p hp)
    simp only [List.map_append, List.map_singleton, distinctTypes_snoc, hfst, hsnd, keepNew, hany]
    by_cases hnew : ((kept.map Prod.snd).any fun s => s.sameType p.2.toModel) = true
    · refine ⟨kept, hsub.trans (List.sublist_append_left ps [p]), fun hnil => ?_, ?_⟩
      · rw [hnil] at hnew
        exact absurd hnew Bool.false_ne_true
      · simp only [hnew, if_true, and_self]
    · refine ⟨kept ++ [p], hsub.append (List.Sublist.refl [p]), fun hnil => ?_, ?_⟩
      · exact absurd hnil (by simp)
      · simp [hnew]

/-- What the choice of results looks at in two responses is the same. -/
structure LooksAlike (r s : Response) : Prop where
  code_eq : r.code = s.code
  names_eq : r.names = s.names
  depth_eq : r.depth = s.depth

theorem LooksAlike.isResult_eq {r s : Response} (h : r.LooksAlike s) :
    r.isResult = s.isResult := by
  rw [isResult, isResult, h.code_eq]

/-- Made responses that look alike compare alike. -/
theorem sameType_eq_of_looksAlike {p q : Response × Response}
    (hp : IsMade p.1.toModel ∧ IsMade p.2.toModel) (hq : IsMade q.1.toModel ∧ IsMade q.2.toModel)
    (hp' : p.1.LooksAlike p.2) (hq' : q.1.LooksAlike q.2) :
    p.1.sameType q.1.toModel = p.2.sameType q.2.toModel := by
  rw [Bool.eq_iff_iff, hp.1.isUniform.sameType_iff hq.1.isUniform,
    hp.2.isUniform.sameType_iff hq.2.isUniform, hp'.names_eq, hp'.depth_eq, hq'.names_eq,
    hq'.depth_eq]

/-- The results, by whether there is a success. -/
theorem results_eq (rs : List Response) :
    results rs =
      if (rs.filter isResult).isEmpty then [void] else distinctTypes (rs.filter isResult) := by
  rw [results]
  cases rs.filter isResult <;> rfl

/-- **Lists of made responses that look alike have their results at the same places.** -/
theorem exists_results_of_looksAlike
    (hmade : ∀ p ∈ ps, IsMade p.1.toModel ∧ IsMade p.2.toModel)
    (halike : ∀ p ∈ ps, p.1.LooksAlike p.2) :
    ∃ kept : List (Response × Response), kept.Sublist ps ∧
      (kept = [] ↔ ∀ p ∈ ps, ¬ p.1.isResult) ∧
      results (ps.map Prod.fst) = (if kept.isEmpty then [void] else kept.map Prod.fst) ∧
      results (ps.map Prod.snd) = if kept.isEmpty then [void] else kept.map Prod.snd := by
  have hfst : (ps.map Prod.fst).filter isResult =
      (ps.filter fun p => p.1.isResult).map Prod.fst := List.filter_map
  have hsnd : (ps.map Prod.snd).filter isResult =
      (ps.filter fun p => p.1.isResult).map Prod.snd := by
    rw [List.filter_map]
    exact congrArg (List.map Prod.snd)
      (List.filter_congr fun p hp => (halike p hp).isResult_eq.symm)
  have hagree : ∀ p ∈ ps.filter (fun p => p.1.isResult), ∀ q ∈ ps.filter (fun p => p.1.isResult),
      p.1.sameType q.1.toModel = p.2.sameType q.2.toModel := by
    intro p hp q hq
    have hp := List.mem_of_mem_filter hp
    have hq := List.mem_of_mem_filter hq
    exact sameType_eq_of_looksAlike (hmade p hp) (hmade q hq) (halike p hp) (halike q hq)
  obtain ⟨kept, hsub, hnil, hkeptFst, hkeptSnd⟩ := exists_kept hagree
  have hkept : kept = [] ↔ (ps.filter fun p => p.1.isResult) = [] :=
    ⟨hnil, fun h => List.eq_nil_of_sublist_nil (h ▸ hsub)⟩
  have hempty : (ps.filter fun p => p.1.isResult).isEmpty = kept.isEmpty := by
    rw [Bool.eq_iff_iff, List.isEmpty_iff, List.isEmpty_iff, hkept]
  refine ⟨kept, hsub.trans List.filter_sublist, hkept.trans List.filter_eq_nil_iff, ?_, ?_⟩
  · rw [results_eq, hfst, hkeptFst, List.isEmpty_map, hempty]
  · rw [results_eq, hsnd, hkeptSnd, List.isEmpty_map, hempty]

end Response

/-- **What it means to describe the same type.**  It is an equivalence of models.  Two models that
are made for schemas or for responses describe the same type exactly if they have the same type,
base and template, and links of the same length.  Nothing else counts where results are dropped: in
two lists of such responses that agree in this and in their codes, whatever else they hold, the
results stand at the same places, and if nothing succeeds they are the placeholder. -/
theorem sameType_of_made :
    (∀ m : Model, m.sameType m) ∧
    (∀ a b : Model, a.sameType b → b.sameType a) ∧
    (∀ a b c : Model, a.sameType b → b.sameType c → a.sameType c) ∧
    (∀ a b : Model, IsMade a → IsMade b →
      (a.sameType b ↔
        a.type = b.type ∧ a.base = b.base ∧ a.template = b.template ∧ a.depth = b.depth)) ∧
    ∀ ps : List (Response × Response),
      (∀ p ∈ ps, IsMade p.1.toModel ∧ IsMade p.2.toModel) → (∀ p ∈ ps, p.1.LooksAlike p.2) →
      ∃ kept : List (Response × Response), kept.Sublist ps ∧
        (kept = [] ↔ ∀ p ∈ ps, ¬ p.1.isResult) ∧
        Response.results (ps.map Prod.fst) =
          (if kept.isEmpty then [Response.void] else kept.map Prod.fst) ∧
        Response.results (ps.map Prod.snd) =
          if kept.isEmpty then [Response.void] else kept.map Prod.snd := by
  refine ⟨Model.sameType_self, fun a b => Model.sameType_symm, fun a b c => Model.sameType_trans,
    fun a b ha hb => ?_, fun ps hmade halike => ?_⟩
  · rw [ha.isUniform.sameType_iff hb.isUniform]
    simp only [Model.names, Prod.mk.injEq, and_assoc]
  · exact Response.exists_results_of_looksAlike hmade halike

/-- A text, as a schema. -/
def sampleWord : Value := .mapping [(.text "type", .text "string")]

/-- A declaration of a response that only has a header. -/
def sampleTotal : Value :=
  .mapping [(.text "headers", .mapping [(.text "X-Total", .mapping [])])]

/-- A header and a body that is a text are one type, and may stand for each other. -/
theorem sameType_of_made_header_and_body :
    ∃ r s, Response.ofDeclaration .empty sampleTotal 200 = .ok r ∧
      Response.ofDeclaration .empty (Response.sampleAnswer sampleWord) 200 = .ok s ∧
      r.source ≠ s.source ∧ r.sameType s.toModel ∧
      (Response.results [r, r]).length = (Response.results [s, r]).length := by
  obtain ⟨r, hr, hrsource, hrnames, hrlink⟩ :
      ∃ r, Response.ofDeclaration .empty sampleTotal 200 = .ok r ∧ r.source = .header ∧
        r.names = ("string", "string", none) ∧ r.link.isNone := ⟨_, rfl, rfl, rfl, rfl⟩
  obtain ⟨s, hs, hssource, hsnames, hslink⟩ :
      ∃ s, Response.ofDeclaration .empty (Response.sampleAnswer sampleWord) 200 = .ok s ∧
        s.source = .body ∧ s.names = ("string", "string", none) ∧ s.link.isNone :=
    ⟨_, rfl, rfl, by decide +kernel, by decide +kernel⟩
  have hdepth : r.depth = s.depth := by
    rw [Model.depth_of_link_eq_none (Option.isNone_iff_eq_none.mp hrlink),
      Model.depth_of_link_eq_none (Option.isNone_iff_eq_none.mp hslink)]
  have hnames : r.names = s.names := hrnames.trans hsnames.symm
  have hcode : r.code = s.code :=
    (Response.code_of_ofDeclaration hr).1.trans (Response.code_of_ofDeclaration hs).1.symm
  obtain ⟨-, -, -, hiff, hresults⟩ := sameType_of_made
  obtain ⟨kept, -, -, hfst, hsnd⟩ := hresults [(r, s), (r, r)]
    (by simp [IsMade.ofResponse hr, IsMade.ofResponse hs])
    (by simp [show r.LooksAlike s from ⟨hcode, hnames, hdepth⟩,
      show r.LooksAlike r from ⟨rfl, rfl, rfl⟩])
  refine ⟨r, s, hr, hs, by rw [hrsource, hssource]; decide, ?_, ?_⟩
  · simp only [Model.names, Prod.mk.injEq] at hnames
    exact (hiff _ _ (.ofResponse hr) (.ofResponse hs)).mpr
      ⟨hnames.1, hnames.2.1, hnames.2.2, hdepth⟩
  · simp only [List.map_cons, List.map_nil] at hfst hsnd
    rw [hfst, hsnd]
    cases kept.isEmpty <;> simp

end ServiceCatalog
