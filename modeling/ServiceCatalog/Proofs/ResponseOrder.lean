import ServiceCatalog.Proofs.Alike
import ServiceCatalog.Proofs.Results
import ServiceCatalog.Proofs.Transparency

/-!
# The order in which responses are declared

The responses of an operation are read one by one, in the order of the document, and much of what
follows depends on an order: which of several equal results is kept, which header is returned, and
in which order types are imported.  But that order is not the one of the document.  The responses
are sorted by their codes before anything is made of them, and if no code is there twice, the sorted
list does not remember how it came about.

So the entries of the mapping may be written in any order (`Operation.ofDeclaration_of_reordered`).
What an entry contributes does not depend on those around it (`ofEntry`), whence a reordered mapping
is read as a reordered list, and reading it fails if any entry cannot be read, wherever that entry
stands; only which failure is reported first depends on the order.
-/

namespace ServiceCatalog

open Attempt

variable {doc : Value} {settings : Settings}

namespace Response

variable {mediaTypes : List String}

/-- The status codes of the usable entries, in the order of the document. -/
def codes (es : Entries) : List Nat := es.filterMap fun e => statusCode? e.1.plain

/-- The response of one entry, if the entry is usable. -/
def ofEntry (doc : Value) (mediaTypes : List String) (e : Scalar × Value) :
    Except DescriptionError (Option Response) := do
  match ← codeOf? (.scalar e.1) with
  | none => return none
  | some code =>
    let declaration ← Value.dereference doc e.2
    let response ← ofDeclaration doc declaration code mediaTypes
    return some response

/-- Every entry is read for itself. -/
theorem ofEntries_cons (e : Scalar × Value) (es : Entries) :
    ofEntries doc mediaTypes (e :: es) = do
      let o ← ofEntry doc mediaTypes e
      let rs ← ofEntries doc mediaTypes es
      return o.toList ++ rs := by
  obtain ⟨k, v⟩ := e
  rw [ofEntries, ofEntry, bind_assoc]
  refine bind_congr fun code => ?_
  cases code with
  | none =>
    show _ = ofEntries doc mediaTypes es >>= fun rs => pure ([] ++ rs)
    simp only [List.nil_append, bind_pure]
  | some code =>
    simp only [bind_assoc, pure_bind]
    rfl

/-- Reordered entries are read as reordered responses, or neither can be read. -/
theorem alike_ofEntries_of_perm {es fs : Entries} (h : es.Perm fs) :
    Alike List.Perm (ofEntries doc mediaTypes es) (ofEntries doc mediaTypes fs) := by
  induction h with
  | nil => exact .ok (List.Perm.refl [])
  | cons e _ ih =>
    rw [ofEntries_cons, ofEntries_cons]
    refine (Alike.of_eq rfl).bind ?_
    rintro o _ - rfl
    refine ih.bind fun rs rs' _ hrs => ?_
    exact .ok (hrs.append_left o.toList)
  | swap e f es =>
    simp only [ofEntries_cons]
    -- whichever of the two is read first, both have to be readable, and so have those behind them
    cases ofEntry doc mediaTypes e with
    | error c =>
      cases ofEntry doc mediaTypes f with
      | error d => exact .error _ _
      | ok p => exact .error _ _
    | ok o =>
      cases ofEntry doc mediaTypes f with
      | error d => exact .error _ _
      | ok p =>
        cases ofEntries doc mediaTypes es with
        | error c => exact .error _ _
        | ok rs =>
          refine .ok ?_
          show (p.toList ++ (o.toList ++ rs)).Perm (o.toList ++ (p.toList ++ rs))
          simp only [← List.append_assoc]
          exact List.perm_append_comm.append_right rs
  | trans _ _ ih ih' => exact ih.trans ih' fun _ _ _ => List.Perm.trans

theorem map_code_of_isRead {es : Entries} {rs : List Response}
    (h : List.Forall₂ (IsRead doc mediaTypes) es rs) :
    rs.map Response.code = (codes es).map Int.ofNat := by
  induction h with
  | nil => rfl
  | cons hhead _ ih =>
    obtain ⟨code, _, hcode, hr, -⟩ := hhead
    simp only [codes, List.filterMap_cons, hcode, List.map_cons, hr]
    exact congrArg _ ih

theorem codes_usable (es : Entries) : codes (usable es) = codes es := by
  rw [codes, usable, List.filterMap_filter]
  refine List.filterMap_congr fun e _ => ?_
  cases statusCode? e.1.plain <;> rfl

/-- Responses have the codes of the usable entries. -/
theorem map_code_of_ofEntries {es : Entries} {rs : List Response}
    (h : ofEntries doc mediaTypes es = .ok rs) :
    rs.map Response.code = (codes es).map Int.ofNat := by
  rw [map_code_of_isRead (forall₂_of_ofEntries h), codes_usable]

/-- **The order of the entries is forgotten.**  If no two usable entries have the same code, then
reordered entries describe the same responses in the same order, or neither can be read. -/
theorem alike_declared_of_perm {v w : Value} (h : v.entries.Perm w.entries)
    (hcodes : (codes v.entries).Nodup) :
    Alike Eq (declared doc v mediaTypes) (declared doc w mediaTypes) := by
  have halike : Alike List.Perm (ofEntries doc mediaTypes v.entries)
      (ofEntries doc mediaTypes w.entries) := alike_ofEntries_of_perm h
  unfold declared
  generalize hv : ofEntries doc mediaTypes v.entries = x at halike ⊢
  generalize ofEntries doc mediaTypes w.entries = y at halike ⊢
  cases halike with
  | error c d => exact .error c d
  | @ok rs rs' hperm =>
    have hnodup : (rs.map Response.code).Nodup := by
      rw [map_code_of_ofEntries hv]
      exact hcodes.map fun _ _ => Int.ofNat.inj
    exact .ok (StableSort.sortBy_eq_of_perm Response.code hperm hnodup)

end Response

namespace Operation

variable {operation reordered : Value}

/-- **The order in which responses are declared does not matter.**  Let the usable entries among the
responses of an operation have different codes, and let a second operation say the same, with the
entries of its responses in another order.  Then both are described by the same operation, with the
same results, errors, header and imports, or neither can be described. -/
theorem ofDeclaration_of_reordered (houtside : Value.AgreeOutside ["responses"] operation reordered)
    (hperm : (operation.field "responses").entries.Perm (reordered.field "responses").entries)
    (hcodes : (Response.codes (operation.field "responses").entries).Nodup)
    (path method : String) (inherited : Inputs) (settings : Settings) :
    (∃ o, ofDeclaration doc path method operation inherited settings = .ok o ∧
        ofDeclaration doc path method reordered inherited settings = .ok o) ∨
      (∃ e, ofDeclaration doc path method operation inherited settings = .error e) ∧
        ∃ e, ofDeclaration doc path method reordered inherited settings = .error e := by
  rw [← Alike.eq_iff]
  have hf : ∀ name, name ≠ "responses" → operation.field name = reordered.field name :=
    fun name hname => houtside.field_eq (by simpa using hname)
  have hbody : bodyOf doc operation settings = bodyOf doc reordered settings := by
    rw [bodyOf, bodyOf, hf "requestBody" (by decide)]
  have hthree : Value.AgreeOutside ["parameters", "requestBody", "responses"] operation reordered :=
    houtside.mono (List.subset_append_right ["parameters", "requestBody"] ["responses"])
  unfold ofDeclaration
  rw [hf "parameters" (by decide), hbody]
  refine (Alike.of_eq rfl).bind ?_
  rintro own _ - rfl
  refine (Alike.of_eq rfl).bind ?_
  rintro body _ - rfl
  refine (Response.alike_declared_of_perm hperm hcodes).bind ?_
  rintro responses _ - rfl
  exact .ok (assemble_eq_of_agreeOutside hthree path method _ responses)

/-- A success that only has a header. -/
def sampleTotal : Scalar × Value :=
  (.text "201", .mapping [(.text "headers", .mapping [(.text "X-Total", .mapping [])])])

/-- A described failure. -/
def sampleFailure : Scalar × Value :=
  (.int 404, .mapping [(.text "description", .text "missing")])

/-- The default response, which has a type. -/
def sampleDefault : Scalar × Value :=
  (.text "default", sampleContent (sampleSchema "string"))

/-- An operation with some responses. -/
def sampleReplies (responses : Entries) : Value :=
  .mapping [(.text "summary", .text "list names"), (.text "responses", .mapping responses)]

theorem ofDeclaration_sampleReplies :
    ∃ o, ofDeclaration .empty "/names" "get"
          (sampleReplies [sampleTotal, sampleFailure, sampleDefault]) {} = .ok o ∧
        ofDeclaration .empty "/names" "get"
          (sampleReplies [sampleDefault, sampleTotal, sampleFailure]) {} = .ok o ∧
        (Response.codes [sampleTotal, sampleFailure, sampleDefault]).Nodup := by
  have hcodes : (Response.codes [sampleTotal, sampleFailure, sampleDefault]).Nodup := by
    have hlist : Response.codes [sampleTotal, sampleFailure, sampleDefault] = [201, 404, 200] := rfl
    rw [hlist]
    decide
  have houtside : Value.AgreeOutside ["responses"]
      (sampleReplies [sampleTotal, sampleFailure, sampleDefault])
      (sampleReplies [sampleDefault, sampleTotal, sampleFailure]) :=
    .cons_same _ _ (.cons (by decide) _ _ .nil)
  have hperm : [sampleTotal, sampleFailure, sampleDefault].Perm
      [sampleDefault, sampleTotal, sampleFailure] :=
    @List.perm_append_comm _ [sampleTotal, sampleFailure] [sampleDefault]
  obtain ⟨o, ho⟩ : ∃ o, ofDeclaration .empty "/names" "get"
      (sampleReplies [sampleTotal, sampleFailure, sampleDefault]) {} = .ok o := ⟨_, rfl⟩
  rcases ofDeclaration_of_reordered houtside hperm hcodes "/names" "get" {} {} with
    ⟨o', ho', hreordered⟩ | ⟨⟨e, he⟩, -⟩
  · exact ⟨o', ho', hreordered, hcodes⟩
  · exact absurd (ho.symm.trans he) (by simp)

end Operation
end ServiceCatalog
