import Mathlib.Data.List.TakeWhile
import ServiceCatalog.Proofs.Requirements

/-!
# When an extraction fails

The services of a document are read from many places, and most of them may be malformed.  This file
shows that a document has services exactly if what is required for its tags is met, that is, if the
references that are consulted for them lead somewhere and the integers that are converted for them
are short (`Service.ofDocument_fails_iff`).

A service is a fold over the paths, and what is required in a step depends on the service so far
only through its name.  So each step is compared with the tag, and the sum of the steps is compared
with `Consulted` and `Converted` once for a tag and once for all of them (`among_iff`).
-/

namespace ServiceCatalog

open Attempt
open Requirement (Among)

variable {doc : Value} {settings : Settings}

namespace Service

/-- Meets a demand of an extraction, or fails. -/
def meet (doc : Value) (d : Requirement) : Except ExtractionError Unit :=
  (Requirement.meet doc d).mapError .description

/-- A demand that is not met is a reference that leads nowhere or an integer that is too long. -/
theorem meet_eq_error {d : Requirement} {e : ExtractionError} : meet doc d = .error e ↔
    (∃ ref cause, d = .reference ref ∧ Pointer.resolve doc ref = .error cause ∧
      e = .description (.pointer cause)) ∨
    ∃ c o, d = .conversion c ∧ c.fault? = some o ∧ e = .description (.overlong o) := by
  rw [meet, mapError_eq_error]
  cases d with
  | reference ref =>
    simp only [Requirement.meet_reference_eq_error]
    constructor
    · rintro ⟨_, ⟨cause, hcause, rfl⟩, rfl⟩
      exact .inl ⟨ref, cause, rfl, hcause, rfl⟩
    · rintro (⟨_, cause, hdef, hcause, rfl⟩ | ⟨_, _, hdef, -⟩)
      · obtain rfl := Requirement.reference.inj hdef
        exact ⟨_, ⟨cause, hcause, rfl⟩, rfl⟩
      · cases hdef
  | conversion c =>
    simp only [Requirement.meet_conversion_eq_error]
    constructor
    · rintro ⟨_, ⟨o, ho, rfl⟩, rfl⟩
      exact .inr ⟨c, o, rfl, ho, rfl⟩
    · rintro (⟨_, _, hdef, -⟩ | ⟨_, o, hdef, ho, rfl⟩)
      · cases hdef
      · obtain rfl := Requirement.conversion.inj hdef
        exact ⟨_, ⟨o, ho, rfl⟩, rfl⟩

variable {s : Service}

theorem demands_operationAt (path method : String) (operation : Value) (inherited : Inputs) :
    Demands (meet doc) (operationAt doc settings (.text path) method operation inherited)
      (Among (Operation.Consults doc settings operation)
        (Operation.Converts doc settings operation)) :=
  (Operation.demands_ofDeclaration path method operation inherited).mapError

theorem demands_visitMethod (path : String) (item : Value) (inherited : Inputs) (method : String) :
    Demands (meet doc) (visitMethod doc settings (.text path) item inherited s method) fun d =>
      ((item.field method).isMapping = true ∧ carries (item.field method) s.name = true) ∧
        Among (Operation.Consults doc settings (item.field method))
          (Operation.Converts doc settings (item.field method)) d := by
  cases hc : (item.field method).isMapping && carries (item.field method) s.name with
  | false =>
    rw [visitMethod_of_not_carries hc]
    refine (Demands.ok s).congr fun d => ?_
    rw [← Bool.and_eq_true_iff, hc]
    simp
  | true =>
    rw [visitMethod_of_carries hc]
    refine (demands_operationAt path method _ inherited).map.congr fun d => ?_
    rw [← Bool.and_eq_true_iff, hc]
    simp

/-- What a path and the operations on it that carry a tag demand. -/
def PathDemands (doc : Value) (settings : Settings) (tag : String) (e : Scalar × Value)
    (d : Requirement) : Prop :=
  (e.2.entries ≠ [] ∧ Among (Inputs.Consults doc (e.2.field "parameters"))
    (Inputs.Converts doc (e.2.field "parameters")) d) ∨
  ∃ method, Visited doc settings tag e.1 e.2 method ∧
    Among (Operation.Consults doc settings (e.2.field method))
      (Operation.Converts doc settings (e.2.field method)) d

/-- A path reads its parameters unless it is empty, and the operations on it that carry the tag. -/
theorem demands_visitPath {tag : String} (hs : s.name = tag) {e : Scalar × Value}
    (he : e ∈ (doc.field "paths").entries) (hkey : ∃ path, e.1 = .text path) :
    Demands (meet doc) (visitPath doc settings s e) (PathDemands doc settings tag e) := by
  by_cases hnil : e.2.entries = []
  · rw [visitPath_of_nil hnil]
    refine (Demands.ok s).congr fun d => ?_
    constructor
    · exact False.elim
    · rintro (⟨hne, -⟩ | ⟨method, hv, -⟩)
      · exact hne hnil
      · exact entries_ne_nil_of_isMapping hv.isMapping hnil
  · obtain ⟨path, hpath⟩ := hkey
    have hmethods : ∀ inherited, Demands (meet doc)
        (settings.methods.foldlM (visitMethod doc settings e.1 e.2 inherited) s) fun d =>
          ∃ method ∈ settings.methods,
            ((e.2.field method).isMapping = true ∧ carries (e.2.field method) tag = true) ∧
              Among (Operation.Consults doc settings (e.2.field method))
                (Operation.Converts doc settings (e.2.field method)) d := by
      intro inherited
      refine Demands.foldlM (P := fun s => s.name = tag) ?_ ?_ hs
      · rintro method - s t hname hstep
        rcases exists_of_visitMethod hstep with rfl | ⟨o, -, -, -, rfl⟩ <;> exact hname
      · rintro method - s hname
        rw [hpath, ← hname]
        exact demands_visitMethod path e.2 inherited method
    rw [visitPath_of_ne_nil hnil]
    refine ((Inputs.demands_declared _).mapError.andThen fun inherited _ =>
      hmethods inherited).congr fun d => ?_
    constructor
    · rintro (h | ⟨method, hmem, ⟨hm, hc⟩, h⟩)
      · exact .inl ⟨hnil, h⟩
      · exact .inr ⟨method, ⟨he, hmem, hm, hc⟩, h⟩
    · rintro (⟨-, h⟩ | ⟨method, hv, h⟩)
      · exact .inl h
      · exact .inr ⟨method, hv.method_mem, ⟨hv.isMapping, hv.carries⟩, h⟩

/-- What is demanded for some tags is demanded for the paths. -/
theorem among_iff {tags : String → Prop} {d : Requirement} :
    Among (Consulted doc settings tags) (Converted doc settings tags) d ↔
      (∃ e ∈ (doc.field "paths").entries, e.2.entries ≠ [] ∧
        Among (Inputs.Consults doc (e.2.field "parameters"))
          (Inputs.Converts doc (e.2.field "parameters")) d) ∨
      ∃ tag, tags tag ∧ ∃ key item method, Visited doc settings tag key item method ∧
        Among (Operation.Consults doc settings (item.field method))
          (Operation.Converts doc settings (item.field method)) d := by
  cases d with
  | reference ref =>
    constructor
    · rintro (⟨he, hne, h⟩ | ⟨ht, hv, h⟩)
      · exact .inl ⟨_, he, hne, h⟩
      · exact .inr ⟨_, ht, _, _, _, hv, h⟩
    · rintro (⟨e, he, hne, h⟩ | ⟨tag, ht, key, item, method, hv, h⟩)
      · exact .ofPath he hne h
      · exact .ofOperation ht hv h
  | conversion c =>
    constructor
    · rintro (⟨he, hne, h⟩ | ⟨ht, hv, h⟩)
      · exact .inl ⟨_, he, hne, h⟩
      · exact .inr ⟨_, ht, _, _, _, hv, h⟩
    · rintro (⟨e, he, hne, h⟩ | ⟨tag, ht, key, item, method, hv, h⟩)
      · exact .ofPath he hne h
      · exact .ofOperation ht hv h

section

variable (hkeys : ∀ e ∈ (doc.field "paths").entries, ∃ path, e.1 = .text path)
include hkeys

/-- The service of a tag demands what is demanded for the tag. -/
theorem demands_ofTag (tag : Value) :
    Demands (meet doc) (ofTag doc tag settings)
      (Among (Consulted doc settings fun name => name = (tagName? tag).getD "")
        (Converted doc settings fun name => name = (tagName? tag).getD "")) := by
  unfold ofTag
  refine Demands.congr (Demands.foldlM (P := fun s => s.name = (tagName? tag).getD "") ?_
    (fun e he s hs => demands_visitPath hs he (hkeys e he)) ?_) fun d => ?_
  · intro e he s t hname hstep
    exact (visitPath_preserves (P := fun _ => True) he
      (fun _ _ _ _ _ _ _ _ => trivial) hname trivial hstep).1
  · rfl
  · rw [among_iff]
    constructor
    · rintro ⟨e, he, ⟨hne, h⟩ | ⟨method, hv, h⟩⟩
      · exact .inl ⟨e, he, hne, h⟩
      · exact .inr ⟨_, rfl, e.1, e.2, method, hv, h⟩
    · rintro (⟨e, he, hne, h⟩ | ⟨_, rfl, key, item, method, hv, h⟩)
      · exact ⟨e, he, .inl ⟨hne, h⟩⟩
      · exact ⟨_, hv.entry, .inr ⟨method, hv, h⟩⟩

theorem demands_ofTags (tags : List Value) :
    Demands (meet doc) (ofTags doc settings tags) fun d =>
      ∃ t ∈ tags, ∃ tag, tagName? t = some tag ∧
        Among (Consulted doc settings fun name => name = tag)
          (Converted doc settings fun name => name = tag) d := by
  induction tags with
  | nil => exact (Demands.ok _).congr fun d => by simp
  | cons t tags ih =>
    cases hn : tagName? t with
    | none =>
      rw [ofTags, if_neg (by simp [hn])]
      refine ih.congr fun d => ?_
      simp [hn]
    | some tag =>
      have hfirst : Demands (meet doc) (ofTag doc t settings) _ := demands_ofTag hkeys t
      rw [hn, Option.getD_some] at hfirst
      rw [ofTags, if_pos (by rw [hn]; rfl)]
      refine (hfirst.andThen fun first _ =>
        ih.andThen fun others _ => Demands.ok (first :: others)).congr fun d => ?_
      simp [hn]

/-- The services of a document demand what is demanded for its tags, if it has any. -/
theorem demands_ofDocument :
    Demands (meet doc) (ofDocument doc settings) fun d =>
      (∃ tag, IsDeclaredTag doc tag) ∧
        Among (Consulted doc settings (IsDeclaredTag doc))
          (Converted doc settings (IsDeclaredTag doc)) d := by
  unfold ofDocument
  cases htags : (doc.field "tags").items? with
  | none =>
    refine (Demands.ok _).congr fun d => ?_
    simp [IsDeclaredTag, htags]
  | some tags =>
    refine (demands_ofTags hkeys tags).congr fun d => ?_
    simp only [among_iff]
    constructor
    · rintro ⟨t, ht, tag, hn, h⟩
      have hdeclared : IsDeclaredTag doc tag := ⟨tags, htags, t, ht, hn⟩
      refine ⟨⟨tag, hdeclared⟩, ?_⟩
      rcases h with h | ⟨_, rfl, h⟩
      · exact .inl h
      · exact .inr ⟨_, hdeclared, h⟩
    · rintro ⟨⟨tag, tags', htags', t, ht, hn⟩, h | ⟨tag', hdeclared, h⟩⟩
      · obtain rfl : tags = tags' := Option.some.inj (htags.symm.trans htags')
        exact ⟨t, ht, tag, hn, .inl h⟩
      · obtain ⟨tags'', htags'', t', ht', hn'⟩ := hdeclared
        obtain rfl : tags = tags'' := Option.some.inj (htags.symm.trans htags'')
        exact ⟨t', ht', tag', hn', .inr ⟨tag', rfl, h⟩⟩

/-- The error of a document is that of a reference or an integer that is required for its tags. -/
theorem exists_unmet_of_ofDocument {e : ExtractionError} (he : ofDocument doc settings = .error e) :
    (∃ ref cause, Consulted doc settings (IsDeclaredTag doc) ref ∧
      Pointer.resolve doc ref = .error cause ∧ e = .description (.pointer cause)) ∨
    ∃ c o, Converted doc settings (IsDeclaredTag doc) c ∧ c.fault? = some o ∧
      e = .description (.overlong o) := by
  obtain ⟨d, ⟨-, hd⟩, hmeet⟩ := (demands_ofDocument hkeys).fails e he
  rcases meet_eq_error.mp hmeet with ⟨ref, cause, rfl, hcause, rfl⟩ | ⟨c, o, rfl, ho, rfl⟩
  · exact .inl ⟨ref, cause, hd, hcause, rfl⟩
  · exact .inr ⟨c, o, hd, ho, rfl⟩

/-- One that cannot be met is enough, if there is a tag. -/
theorem exists_error_iff_unmet :
    (∃ e, ofDocument doc settings = .error e) ↔
      (∃ tag, IsDeclaredTag doc tag) ∧
        ((∃ ref, Consulted doc settings (IsDeclaredTag doc) ref ∧
          ∃ cause, Pointer.resolve doc ref = .error cause) ∨
        ∃ c, Converted doc settings (IsDeclaredTag doc) c ∧ ∃ o, c.fault? = some o) := by
  rw [(demands_ofDocument hkeys).error_iff]
  constructor
  · rintro ⟨d, ⟨htag, hd⟩, e, hmeet⟩
    refine ⟨htag, ?_⟩
    rcases meet_eq_error.mp hmeet with ⟨ref, cause, rfl, hcause, -⟩ | ⟨c, o, rfl, ho, -⟩
    · exact .inl ⟨ref, hd, cause, hcause⟩
    · exact .inr ⟨c, hd, o, ho⟩
  · rintro ⟨htag, ⟨ref, hd, cause, hcause⟩ | ⟨c, hd, o, ho⟩⟩
    · exact ⟨.reference ref, ⟨htag, hd⟩, _,
        meet_eq_error.mpr (.inl ⟨ref, cause, rfl, hcause, rfl⟩)⟩
    · exact ⟨.conversion c, ⟨htag, hd⟩, _, meet_eq_error.mpr (.inr ⟨c, o, rfl, ho, rfl⟩)⟩

end

/-- **When an extraction fails.**  If all paths are texts, then a document has services or a part of
it cannot be described, and nothing else can happen, whatever stands in it.  It fails exactly if it
has a named tag and one of the references that are consulted leads nowhere, or one of the integers
that are converted is too long for that; the error is that of such a reference or integer.  So as
long as the integers are short, it fails because of a pointer, and just if there is one that leads
nowhere. -/
theorem ofDocument_fails_iff (doc : Value) (settings : Settings)
    (hkeys : ∀ e ∈ (doc.field "paths").entries, ∃ path, e.1 = .text path) :
    ((∃ ss, ofDocument doc settings = .ok ss) ∨
      ∃ cause, ofDocument doc settings = .error (.description cause)) ∧
    ((∃ e, ofDocument doc settings = .error e) ↔
      (∃ tag, IsDeclaredTag doc tag) ∧
        ((∃ ref, Consulted doc settings (IsDeclaredTag doc) ref ∧
          ∃ cause, Pointer.resolve doc ref = .error cause) ∨
        ∃ c, Converted doc settings (IsDeclaredTag doc) c ∧ ∃ o, c.fault? = some o)) ∧
    (∀ e, ofDocument doc settings = .error e →
      (∃ ref cause, Consulted doc settings (IsDeclaredTag doc) ref ∧
        Pointer.resolve doc ref = .error cause ∧ e = .description (.pointer cause)) ∨
      ∃ c o, Converted doc settings (IsDeclaredTag doc) c ∧ c.fault? = some o ∧
        e = .description (.overlong o)) ∧
    ((∀ c, Converted doc settings (IsDeclaredTag doc) c → c.fault? = none) →
      ((∃ ss, ofDocument doc settings = .ok ss) ∨
        ∃ cause, ofDocument doc settings = .error (.description (.pointer cause))) ∧
      ((∃ e, ofDocument doc settings = .error e) ↔
        (∃ tag, IsDeclaredTag doc tag) ∧
          ∃ ref, Consulted doc settings (IsDeclaredTag doc) ref ∧
            ∃ cause, Pointer.resolve doc ref = .error cause)) := by
  have herror := fun e => @exists_unmet_of_ofDocument _ settings hkeys e
  have hiff := @exists_error_iff_unmet _ settings hkeys
  refine ⟨?_, hiff, herror, fun hshort => ⟨?_, ?_⟩⟩
  · cases hx : ofDocument doc settings with
    | ok ss => exact .inl ⟨ss, rfl⟩
    | error e =>
      rcases herror e hx with ⟨ref, cause, -, -, rfl⟩ | ⟨c, o, -, -, rfl⟩
      · exact .inr ⟨.pointer cause, rfl⟩
      · exact .inr ⟨.overlong o, rfl⟩
  · cases hx : ofDocument doc settings with
    | ok ss => exact .inl ⟨ss, rfl⟩
    | error e =>
      rcases herror e hx with ⟨ref, cause, -, -, rfl⟩ | ⟨c, o, hc, ho, -⟩
      · exact .inr ⟨cause, rfl⟩
      · rw [hshort c hc] at ho
        cases ho
  · have hnone : ¬ ∃ c, Converted doc settings (IsDeclaredTag doc) c ∧ ∃ o, c.fault? = some o := by
      rintro ⟨c, hc, o, ho⟩
      rw [hshort c hc] at ho
      cases ho
    rw [hiff, or_iff_left hnone]

/-- A path with a parameter that is declared nowhere, and no operation. -/
def sampleDangling : Value :=
  .mapping [
    (.text "tags", .list [.mapping [(.text "name", .text "pets")]]),
    (.text "paths", .mapping [(.text "/files", .mapping [
      (.text "parameters", .list [
        .mapping [(.text "$ref", .text "#/components/parameters/Limit")]])])])]

theorem ofDocument_fails_of_dangling :
    (∀ e ∈ (sampleDangling.field "paths").entries, ∃ path, e.1 = .text path) ∧
      ∃ e, ofDocument sampleDangling = .error e := by
  have hkeys : ∀ e ∈ (sampleDangling.field "paths").entries, ∃ path, e.1 = .text path := by
    intro e he
    obtain rfl := List.mem_singleton.mp he
    exact ⟨"/files", rfl⟩
  have hconsulted : Consulted sampleDangling {} (IsDeclaredTag sampleDangling)
      "#/components/parameters/Limit" :=
    .ofPath (List.mem_singleton_self _) (List.cons_ne_nil _ _)
      ⟨_, rfl, _, List.mem_singleton_self _, .entry rfl⟩
  have hdangling : Pointer.resolve sampleDangling "#/components/parameters/Limit" =
      .error (.missingKey "#/components/parameters/Limit" "components") := rfl
  have htag : IsDeclaredTag sampleDangling "pets" :=
    ⟨_, rfl, _, List.mem_singleton_self _, rfl⟩
  exact ⟨hkeys, (ofDocument_fails_iff sampleDangling {} hkeys).2.1.mpr
    ⟨⟨"pets", htag⟩, .inl ⟨"#/components/parameters/Limit", hconsulted, _, hdangling⟩⟩⟩

/-- One operation with one response, of which nothing is said. -/
def sampleResponse (key : String) : Value :=
  .mapping [
    (.text "tags", .list [.mapping [(.text "name", .text "pets")]]),
    (.text "paths", .mapping [(.text "/files", .mapping [
      (.text "get", .mapping [
        (.text "tags", .list [.text "pets"]),
        (.text "responses", .mapping [(.text key, .mapping [])])])])])]

variable {key : String}

theorem not_consulted_sampleResponse {tags : String → Prop} {ref : String} :
    ¬ Consulted (sampleResponse key) {} tags ref := by
  rintro (⟨he, -, vs, hvs, -⟩ | @⟨tag, _, _, method, -, hv, h⟩)
  · obtain rfl := List.mem_singleton.mp he
    cases hvs
  · obtain ⟨rfl, rfl⟩ := Prod.mk.inj (List.mem_singleton.mp hv.entry)
    obtain rfl : method = "get" := by
      by_contra hne
      have hmapping := hv.isMapping
      simp [Value.field, Entries.get?, Ne.symm hne, Value.isMapping, Value.entries?] at hmapping
    rcases h with ⟨vs, hvs, -⟩ | h | ⟨he, h⟩
    · cases hvs
    · cases h
    · obtain rfl := List.mem_singleton.mp he
      rcases h with ⟨-, h⟩ | ⟨-, hd, hs, -⟩
      · cases h
      · cases hd
        cases hs

/-- The code 200 behind zeros. -/
def sampleCode (zeros : Nat) : String :=
  String.ofList ('0' :: (List.replicate zeros '0' ++ ['2', '0', '0']))

theorem statusDigits_sampleCode (zeros : Nat) :
    statusDigits (sampleCode zeros).toList = zeros + 4 := by
  have hdigits : ∀ c ∈ '0' :: (List.replicate zeros '0' ++ ['2', '0', '0']),
      Text.isDigit c = true := by
    intro c hc
    rw [List.mem_cons, List.mem_append, List.mem_replicate] at hc
    rcases hc with rfl | ⟨-, rfl⟩ | hc
    · decide
    · decide
    · simp only [List.mem_cons, List.not_mem_nil, or_false] at hc
      rcases hc with rfl | rfl | rfl <;> decide
  have hblank : Text.isBlank '0' = false := by decide
  have hsign : ∀ cs, withoutSign ('0' :: cs) = '0' :: cs := fun _ => rfl
  rw [sampleCode, String.toList_ofList, statusDigits,
    List.dropWhile_cons_of_neg (by rw [hblank]; exact Bool.false_ne_true), hsign,
    List.takeWhile_eq_self_iff.mpr hdigits]
  simp

/-- Services can be missing although no reference is consulted. -/
theorem ofDocument_of_longCode :
    (∀ e ∈ ((sampleResponse (sampleCode 4297)).field "paths").entries, ∃ path, e.1 = .text path) ∧
      (∀ ref, ¬ Consulted (sampleResponse (sampleCode 4297)) {}
        (IsDeclaredTag (sampleResponse (sampleCode 4297))) ref) ∧
      ∃ o, ofDocument (sampleResponse (sampleCode 4297)) = .error (.description (.overlong o)) := by
  have hkeys : ∀ e ∈ ((sampleResponse (sampleCode 4297)).field "paths").entries,
      ∃ path, e.1 = .text path := by
    intro e he
    obtain rfl := List.mem_singleton.mp he
    exact ⟨"/files", rfl⟩
  have hvisited : Visited (sampleResponse (sampleCode 4297)) {} "pets" (.text "/files")
      (((sampleResponse (sampleCode 4297)).field "paths").field "/files") "get" :=
    ⟨List.mem_singleton_self _, List.mem_cons_self, rfl, rfl⟩
  have htag : IsDeclaredTag (sampleResponse (sampleCode 4297)) "pets" :=
    ⟨_, rfl, _, List.mem_singleton_self _, rfl⟩
  have hread : Converted (sampleResponse (sampleCode 4297)) {}
      (IsDeclaredTag (sampleResponse (sampleCode 4297)))
      (.read (statusDigits (sampleCode 4297).toList)) :=
    .ofOperation htag hvisited (.response (List.mem_singleton_self _) .code)
  have hlong : (Conversion.read (statusDigits (sampleCode 4297).toList)).fault? =
      some (.read 4301) := by
    rw [statusDigits_sampleCode]
    decide
  refine ⟨hkeys, fun ref => not_consulted_sampleResponse, ?_⟩
  obtain ⟨e, he⟩ := (exists_error_iff_unmet hkeys).mpr ⟨⟨_, htag⟩, .inr ⟨_, hread, _, hlong⟩⟩
  rcases exists_unmet_of_ofDocument hkeys he with ⟨ref, -, hd, -, -⟩ | ⟨-, o, -, -, rfl⟩
  · exact (not_consulted_sampleResponse hd).elim
  · exact ⟨o, he⟩

end Service
end ServiceCatalog
