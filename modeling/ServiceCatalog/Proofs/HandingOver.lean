import ServiceCatalog.CommandLine.Run

/-!
# Handing over

A run hands over one file, or some texts on the standard output (`Effect.IsDelivery`).  That is done
effect by effect, and it may stop half way.

* If nothing stops it, everything is done (`Effect.allCarriedOut_eq_self`).
* There are three ways to stop (`Effect.Stops`).  Something is in the way of the file, and nothing
  is done.  The text for the file cannot be encoded, but the file has been opened by then, and it is
  empty.  Or a text on the standard output cannot be encoded, and those in front of it are printed.

What is printed and what is written at the end of a run depends on its data alone, whatever remarks
stand between (`Outcome.output_of_texts`, `Outcome.saved_of_file`).
-/

namespace ServiceCatalog
namespace Effect

/-- The effect hands something over: it prints data or writes a file. -/
def isData : Effect → Bool
  | .remark _ => false
  | _ => true

/-- What is handed over by a run: one file, or texts on the standard output. -/
inductive IsDelivery : List Effect → Prop where
  | file (path text : String) : IsDelivery [.save path text]
  | texts (ts : List String) : IsDelivery (ts.map .output)

/-- There are no remarks in a delivery. -/
theorem IsDelivery.filter_isData {es : List Effect} (h : IsDelivery es) :
    es.filter isData = es := by
  cases h with
  | file path text => rfl
  | texts ts =>
    rw [List.filter_eq_self]
    intro e he
    obtain ⟨text, -, rfl⟩ := List.mem_map.mp he
    rfl

variable {files : FileTree}

/-! ## Without a stop -/

theorem carriedOut_eq_self {e : Effect} (h : (e.carriedOut files).2 = none) :
    (e.carriedOut files).1 = [e] := by
  cases e with
  | remark text => rfl
  | output text =>
    unfold carriedOut at h ⊢
    dsimp only at h ⊢
    split at h
    · rfl
    · cases h
  | save path text =>
    unfold carriedOut at h ⊢
    dsimp only at h ⊢
    split at h
    · cases h
    · rfl
    · cases h

/-- **What is not stopped is done as a whole.** -/
theorem allCarriedOut_eq_self {es : List Effect} (h : (allCarriedOut files es).2 = none) :
    (allCarriedOut files es).1 = es := by
  induction es with
  | nil => rfl
  | cons e es ih =>
    have hself : (e.carriedOut files).2 = none → (e.carriedOut files).1 = [e] := carriedOut_eq_self
    rw [allCarriedOut] at h ⊢
    cases hdone : e.carriedOut files with
    | mk done failure =>
      rw [hdone] at h hself
      cases failure with
      | some f => cases h
      | none =>
        dsimp only at h hself ⊢
        rw [ih h, hself rfl, List.singleton_append]

/-- One effect is done by itself. -/
theorem allCarriedOut_singleton (e : Effect) : allCarriedOut files [e] = e.carriedOut files := by
  rw [allCarriedOut]
  cases e.carriedOut files with
  | mk done failure =>
    cases failure with
    | some f => rfl
    | none => exact congrArg (·, none) (List.append_nil done)

end Effect

/-! ## What is left of a run -/

namespace Outcome

variable {r : Outcome}

/-- What is printed depends on the data alone. -/
theorem output_eq_join :
    r.output = String.join ((r.effects.filter Effect.isData).map fun
      | .output text => text
      | _ => "") := by
  unfold output
  induction r.effects with
  | nil => rfl
  | cons e es ih =>
    rw [List.map_cons, String.join_cons, ih]
    cases e with
    | output text => rw [List.filter_cons_of_pos rfl, List.map_cons, String.join_cons]
    | save path text => rw [List.filter_cons_of_pos rfl, List.map_cons, String.join_cons]
    | remark text =>
      rw [List.filter_cons_of_neg Bool.false_ne_true]
      exact String.empty_append

/-- What is written depends on the data alone. -/
theorem saved_eq_filterMap :
    r.saved = (r.effects.filter Effect.isData).filterMap fun
      | .save path text => some (path, text)
      | _ => none := by
  unfold saved
  rw [List.filterMap_filter]
  refine congrArg (List.filterMap · r.effects) (funext fun e => ?_)
  cases e <;> rfl

theorem output_of_texts (ts : List String)
    (h : r.effects.filter Effect.isData = ts.map .output) : r.output = String.join ts := by
  rw [output_eq_join, h, List.map_map]
  exact congrArg String.join (List.map_id ts)

theorem saved_of_texts (ts : List String)
    (h : r.effects.filter Effect.isData = ts.map .output) : r.saved = [] := by
  rw [saved_eq_filterMap, h, List.filterMap_map]
  exact List.filterMap_eq_nil_iff.mpr fun _ _ => rfl

theorem output_of_file {path text : String}
    (h : r.effects.filter Effect.isData = [.save path text]) : r.output = "" := by
  rw [output_eq_join, h]
  rfl

theorem saved_of_file {path text : String}
    (h : r.effects.filter Effect.isData = [.save path text]) : r.saved = [(path, text)] := by
  rw [saved_eq_filterMap, h]
  rfl

theorem output_of_none (h : r.effects.filter Effect.isData = []) : r.output = "" :=
  output_of_texts [] h

theorem saved_of_none (h : r.effects.filter Effect.isData = []) : r.saved = [] :=
  saved_of_texts [] h

end Outcome

/-! ## The ways to stop -/

namespace Effect

/-- How handing over can stop: the data, the failure, and what is printed and written by then. -/
inductive Stops (files : FileTree) :
    List Effect → Failure → String → List (String × String) → Prop where
  /-- Something is in the way of the file, and nothing is done. -/
  | obstructed {path text : String} {cause : Obstacle}
      (hcause : files.obstacle? path = some cause) :
      Stops files [.save path text] (.obstacle path cause) "" []
  /-- The text for the file cannot be encoded, but the file has been opened, and is empty. -/
  | emptied {path text : String} {u : Text.Unencodable} (hfree : files.obstacle? path = none)
      (hu : Text.unencodable? text = some u) :
      Stops files [.save path text] (.unencodable u) "" [(path, "")]
  /-- A text cannot be encoded, and those in front of it have been printed. -/
  | cut {printed after : List String} {text : String} {u : Text.Unencodable}
      (hprinted : ∀ t ∈ printed, Text.unencodable? t = none)
      (hu : Text.unencodable? text = some u) :
      Stops files ((printed ++ text :: after).map .output) (.unencodable u)
        (String.join printed) []

variable {files : FileTree} {data : List Effect} {f : Failure}

/-- Texts are printed up to the first that cannot be encoded. -/
theorem allCarriedOut_texts (files : FileTree) {printed : List String}
    (hprinted : ∀ t ∈ printed, Text.unencodable? t = none) (es : List Effect) :
    allCarriedOut files (printed.map .output ++ es) =
      (printed.map .output ++ (allCarriedOut files es).1, (allCarriedOut files es).2) := by
  induction printed with
  | nil => rfl
  | cons t ts ih =>
    obtain ⟨ht, hts⟩ := List.forall_mem_cons.mp hprinted
    rw [List.map_cons, List.cons_append, allCarriedOut, carriedOut, ht, ih hts]
    rfl

/-- Either all texts can be encoded, or there is a first that cannot. -/
theorem encodable_or_exists (ts : List String) :
    (∀ t ∈ ts, Text.unencodable? t = none) ∨
    ∃ printed text after u, ts = printed ++ text :: after ∧
      (∀ t ∈ printed, Text.unencodable? t = none) ∧ Text.unencodable? text = some u := by
  induction ts with
  | nil => exact .inl fun _ h => absurd h List.not_mem_nil
  | cons t ts ih =>
    cases ht : Text.unencodable? t with
    | some u => exact .inr ⟨[], t, ts, u, rfl, fun _ h => absurd h List.not_mem_nil, ht⟩
    | none =>
      rcases ih with h | ⟨printed, text, after, u, rfl, hprinted, hu⟩
      · exact .inl (List.forall_mem_cons.mpr ⟨ht, h⟩)
      · exact .inr ⟨t :: printed, text, after, u, rfl, List.forall_mem_cons.mpr ⟨ht, hprinted⟩, hu⟩

/-- **A delivery is carried out as a whole, or it stops in one of three ways.** -/
theorem IsDelivery.carriedOut_or_stops (files : FileTree) (hdata : IsDelivery data) :
    (allCarriedOut files data).2 = none ∨
    ∃ f printed written, Stops files data f printed written := by
  cases hdata with
  | file path text =>
    rw [allCarriedOut_singleton, carriedOut]
    cases hcause : files.obstacle? path with
    | some cause => exact .inr ⟨_, _, _, .obstructed hcause⟩
    | none =>
      cases hu : Text.unencodable? text with
      | some u => exact .inr ⟨_, _, _, .emptied hcause hu⟩
      | none => exact .inl rfl
  | texts ts =>
    rcases encodable_or_exists ts with hall | ⟨printed, text, after, u, rfl, hprinted, hu⟩
    · have h := allCarriedOut_texts files hall []
      rw [List.append_nil] at h
      rw [h]
      exact .inl rfl
    · exact .inr ⟨_, _, _, .cut hprinted hu⟩

/-- A stop determines the failure and what is done, and so what is printed and what is written. -/
theorem Stops.allCarriedOut {printed : String} {written : List (String × String)}
    (h : Stops files data f printed written) :
    ∃ done, allCarriedOut files data = (done, some f) ∧ IsDelivery done ∧
      ∀ r : Outcome, r.effects.filter isData = done →
        r.output = printed ∧ r.saved = written := by
  cases h with
  | obstructed hcause =>
    refine ⟨[], ?_, .texts [], fun r hr => ⟨Outcome.output_of_none hr, Outcome.saved_of_none hr⟩⟩
    rw [allCarriedOut_singleton, carriedOut, hcause]
  | @emptied path text u hfree hu =>
    refine ⟨[.save path ""], ?_, .file path "", fun r hr =>
      ⟨Outcome.output_of_file hr, Outcome.saved_of_file hr⟩⟩
    rw [allCarriedOut_singleton, carriedOut, hfree, hu]
  | @cut ts after text u hprinted hu =>
    refine ⟨ts.map .output, ?_, .texts ts, fun r hr =>
      ⟨Outcome.output_of_texts ts hr, Outcome.saved_of_texts ts hr⟩⟩
    rw [List.map_append, List.map_cons, allCarriedOut_texts files hprinted, Effect.allCarriedOut,
      carriedOut, hu, List.append_nil]

/-- Nothing that stops the handing over is foreseen. -/
theorem Stops.exitCode {printed : String} {written : List (String × String)}
    (h : Stops files data f printed written) : f.exitCode = 1 := by
  cases h <;> rfl

/-- What is done of a delivery is one as well. -/
theorem IsDelivery.allCarriedOut (h : IsDelivery data) :
    IsDelivery (allCarriedOut files data).1 := by
  rcases h.carriedOut_or_stops files with hnone | ⟨f, printed, written, hstops⟩
  · rw [allCarriedOut_eq_self hnone]
    exact h
  · obtain ⟨done, hdone, hdelivery, -⟩ := hstops.allCarriedOut
    rw [hdone]
    exact hdelivery

end Effect
end ServiceCatalog
