import Mathlib.Data.List.Forall2
import Mathlib.Data.List.Induction
import Mathlib.Data.List.Pairwise
import ServiceCatalog.Proofs.Descriptions
import ServiceCatalog.Proofs.SameType
import ServiceCatalog.Proofs.StableSort

/-!
# Results and errors of an operation

The responses of an operation come from the entries of a mapping, sorted by their codes.  A success
that describes the same type as an earlier one is dropped, and what is left are the results; the
errors are picked from the same list without any of this.

## Marked responses

Which of several equal successes is kept matters, because the kept one brings its description and
its code.  A list of responses may hold equal ones, so "the first of them" is a statement about
places: `Represents rs kept marked` says that `kept` are the responses in `marked`, that each of
these is marked with its place in `rs`, and that every success of `rs` has a representative which
stands at its place or before.  It is an invariant of the loop: it holds of nothing
(`represents_nil`), and one more response keeps it, whether the loop skips the response
(`Represents.skip`) or keeps it (`Represents.keep`).

## The placeholder

An operation without a success has one result of type `void`.  It cannot be confused with a result
that was documented, because its description is the empty text, which no documented response has.
-/

namespace ServiceCatalog
namespace Response

open Attempt

variable {doc : Value} {mediaTypes : List String}

/-! ## Reading the mapping -/

/-- The entries whose keys are status codes. -/
def usable (es : Entries) : Entries := es.filter fun e => (statusCode? e.1.plain).isSome

/-- A response is what an entry is read as. -/
def IsRead (doc : Value) (mediaTypes : List String) (e : Scalar × Value) (r : Response) : Prop :=
  ∃ code declaration, statusCode? e.1.plain = some code ∧ r.code = code ∧ code ≠ 0 ∧
    Value.dereference doc e.2 = .ok declaration ∧
    ofDeclaration doc declaration code mediaTypes = .ok r

/-- A response has the code that it is read with, and no empty description. -/
theorem code_of_ofDeclaration {declaration : Value} {code : Int} {r : Response}
    (h : ofDeclaration doc declaration code mediaTypes = .ok r) :
    r.code = code ∧ r.description ≠ some "" := by
  rcases ofDeclaration_eq_ok h with ⟨content, schema, -, -, rfl⟩ | ⟨-, rfl⟩
  all_goals simp [outline, Value.nonemptyText?_ne_empty]

/-- One response for each usable entry, in the order of the document. -/
theorem forall₂_of_ofEntries {es : Entries} {rs : List Response}
    (h : ofEntries doc mediaTypes es = .ok rs) :
    List.Forall₂ (IsRead doc mediaTypes) (usable es) rs := by
  induction es generalizing rs with
  | nil =>
    cases h
    exact List.Forall₂.nil
  | cons e es ih =>
    obtain ⟨k, v⟩ := e
    rcases ofEntries_cons_eq_ok h with
      ⟨hcode, h⟩ | ⟨code, declaration, r, others, hcode, hd, hr, hothers, rfl⟩
    · rw [usable, List.filter_cons_of_neg (by simp [hcode])]
      exact ih h
    · rw [usable, List.filter_cons_of_pos (by simp [hcode])]
      refine List.Forall₂.cons ?_ (ih hothers)
      exact ⟨code, declaration, hcode, (code_of_ofDeclaration hr).1, statusCode?_ne_zero hcode,
        hd, hr⟩

theorem description_ne_of_isRead {e : Scalar × Value} {r : Response}
    (h : IsRead doc mediaTypes e r) : r.description ≠ some "" := by
  obtain ⟨code, declaration, -, -, -, -, hr⟩ := h
  exact (code_of_ofDeclaration hr).2

/-- **The responses are the usable entries, sorted.**  The order is that of the codes, and entries
with the same code keep the order of the document. -/
theorem sorted_of_declared {responses : Value} {rs : List Response}
    (h : declared doc responses mediaTypes = .ok rs) :
    ∃ unsorted, List.Forall₂ (IsRead doc mediaTypes) (usable responses.entries) unsorted ∧
      rs.Perm unsorted ∧ rs.Pairwise (fun a b => a.code ≤ b.code) ∧
      ∀ c : Int, (rs.filter fun r => r.code = c) = unsorted.filter fun r => r.code = c := by
  rw [declared, map_eq_ok] at h
  obtain ⟨unsorted, hread, rfl⟩ := h
  refine ⟨unsorted, forall₂_of_ofEntries hread, List.mergeSort_perm _ _, ?_, fun c => ?_⟩
  · exact StableSort.pairwise_sortBy code unsorted
  · refine StableSort.filter_sortBy code (fun a b ha hb => ?_) unsorted
    rw [decide_eq_true_eq] at ha hb
    exact ha.trans hb.symm

theorem exists_isRead_of_mem {es : Entries} {rs : List Response}
    (h : List.Forall₂ (IsRead doc mediaTypes) es rs) {r : Response} (hr : r ∈ rs) :
    ∃ e, IsRead doc mediaTypes e r := by
  induction h with
  | nil => exact absurd hr List.not_mem_nil
  | cons he _ ih =>
    rcases List.mem_cons.mp hr with rfl | hr
    · exact ⟨_, he⟩
    · exact ih hr

theorem description_ne_of_mem_declared {responses : Value} {rs : List Response}
    (h : declared doc responses mediaTypes = .ok rs) {r : Response} (hr : r ∈ rs) :
    r.description ≠ some "" := by
  obtain ⟨unsorted, hread, hperm, -, -⟩ := sorted_of_declared h
  obtain ⟨e, he⟩ := exists_isRead_of_mem hread (hperm.mem_iff.mp hr)
  exact description_ne_of_isRead he

/-! ## Representatives -/

/-- **The invariant of the loop.**  Some responses represent the successes of a list: each is marked
with its place in the list, they stand apart, and every success has a representative at its place or
before. -/
structure Represents (rs kept : List Response) (marked : List (Nat × Response)) : Prop where
  kept_eq : kept = marked.map Prod.snd
  sublist : kept.Sublist rs
  read : ∀ m ∈ marked, rs[m.1]? = some m.2 ∧ m.2.isResult
  apart : marked.Pairwise fun m n => m.1 < n.1 ∧ m.2.sameType n.2.toModel = false
  covers : ∀ (j : Nat) r, rs[j]? = some r → r.isResult →
    ∃ m ∈ marked, m.1 ≤ j ∧ m.2.sameType r.toModel

theorem represents_nil : Represents [] [] [] where
  kept_eq := rfl
  sublist := List.Sublist.refl _
  read := fun m hm => absurd hm List.not_mem_nil
  apart := List.Pairwise.nil
  covers := fun j r hr _ => by simp at hr

variable {rs kept : List Response} {marked : List (Nat × Response)}

/-- A response behind the list needs no representative if it is no success, or if it has one. -/
theorem Represents.skip (h : Represents rs kept marked) {r : Response}
    (hr : r.isResult → ∃ m ∈ marked, m.2.sameType r.toModel) :
    Represents (rs ++ [r]) kept marked where
  kept_eq := h.kept_eq
  sublist := h.sublist.trans (List.sublist_append_left rs [r])
  read := fun m hm => by
    obtain ⟨hget, hresult⟩ := h.read m hm
    obtain ⟨hlt, -⟩ := List.getElem?_eq_some_iff.mp hget
    exact ⟨by rw [List.getElem?_append_left hlt, hget], hresult⟩
  apart := h.apart
  covers := fun j s hs hresult => by
    rcases Nat.lt_or_ge j rs.length with hlt | hge
    · rw [List.getElem?_append_left hlt] at hs
      exact h.covers j s hs hresult
    · rw [List.getElem?_append_right hge, List.getElem?_singleton] at hs
      split at hs
      · cases hs
        obtain ⟨m, hm, hsame⟩ := hr hresult
        obtain ⟨hlt, -⟩ := List.getElem?_eq_some_iff.mp (h.read m hm).1
        exact ⟨m, hm, by omega, hsame⟩
      · cases hs

/-- A success without a representative becomes one. -/
theorem Represents.keep (h : Represents rs kept marked) {r : Response} (hr : r.isResult)
    (hnew : ∀ m ∈ marked, m.2.sameType r.toModel = false) :
    Represents (rs ++ [r]) (kept ++ [r]) (marked ++ [(rs.length, r)]) where
  kept_eq := by rw [h.kept_eq, List.map_append, List.map_singleton]
  sublist := h.sublist.append (List.Sublist.refl [r])
  read := fun m hm => by
    rcases List.mem_append.mp hm with hm | hm
    · obtain ⟨hget, hresult⟩ := h.read m hm
      obtain ⟨hlt, -⟩ := List.getElem?_eq_some_iff.mp hget
      exact ⟨by rw [List.getElem?_append_left hlt, hget], hresult⟩
    · rw [List.mem_singleton.mp hm]
      exact ⟨List.getElem?_concat_length, hr⟩
  apart := by
    refine List.pairwise_append.mpr ⟨h.apart, List.pairwise_singleton _ _, fun m hm n hn => ?_⟩
    rw [List.mem_singleton.mp hn]
    obtain ⟨hlt, -⟩ := List.getElem?_eq_some_iff.mp (h.read m hm).1
    exact ⟨hlt, hnew m hm⟩
  covers := fun j s hs hresult => by
    rcases Nat.lt_or_ge j rs.length with hlt | hge
    · rw [List.getElem?_append_left hlt] at hs
      obtain ⟨m, hm, hle, hsame⟩ := h.covers j s hs hresult
      exact ⟨m, List.mem_append_left _ hm, hle, hsame⟩
    · rw [List.getElem?_append_right hge, List.getElem?_singleton] at hs
      split at hs
      · cases hs
        exact ⟨(rs.length, r), List.mem_append_right _ List.mem_cons_self, hge,
          Model.sameType_self _⟩
      · cases hs

theorem distinctTypes_snoc (rs : List Response) (r : Response) :
    distinctTypes (rs ++ [r]) = keepNew (distinctTypes rs) r := by
  rw [distinctTypes, List.foldl_append]
  rfl

/-- **The loop keeps a representative of every success.** -/
theorem exists_represents (rs : List Response) :
    ∃ marked, Represents rs (distinctTypes (rs.filter isResult)) marked := by
  induction rs using List.reverseRecOn with
  | nil => exact ⟨[], represents_nil⟩
  | append_singleton rs r ih =>
    obtain ⟨marked, h⟩ := ih
    rw [List.filter_append]
    by_cases hr : r.isResult
    · rw [List.filter_cons_of_pos hr, List.filter_nil, distinctTypes_snoc, keepNew]
      split
      · rename_i hany
        refine ⟨marked, h.skip fun _ => ?_⟩
        rw [h.kept_eq, List.any_map, List.any_eq_true] at hany
        exact hany
      · rename_i hany
        refine ⟨marked ++ [(_, r)], h.keep hr fun m hm => ?_⟩
        rw [h.kept_eq, List.any_map, Bool.not_eq_true, List.any_eq_false] at hany
        simpa using hany m hm
    · rw [List.filter_cons_of_neg hr, List.filter_nil, List.append_nil]
      exact ⟨marked, h.skip fun hresult => absurd hresult hr⟩

/-- The representative of a success is the only one. -/
theorem Represents.unique (h : Represents rs kept marked) {m n : Nat × Response} (hm : m ∈ marked)
    (hn : n ∈ marked) {r : Response} (hmr : m.2.sameType r.toModel)
    (hnr : n.2.sameType r.toModel) : n = m := by
  by_contra hne
  have happart : marked.Pairwise fun m n => m.2.sameType n.2.toModel = false :=
    h.apart.imp fun hmn => hmn.2
  have hsymm : Std.Symm fun m n : Nat × Response => m.2.sameType n.2.toModel = false := by
    refine ⟨fun m n hmn => ?_⟩
    rw [← Bool.not_eq_true] at hmn ⊢
    exact fun hnm => hmn (Model.sameType_symm hnm)
  have hfalse := happart.forall hn hm hne
  have htrue := Model.sameType_trans hnr (Model.sameType_symm hmr)
  exact Bool.false_ne_true (hfalse.symm.trans htrue)

/-- Responses that stand apart represent themselves. -/
theorem distinctTypes_of_pairwise {rs : List Response}
    (h : rs.Pairwise fun a b => a.sameType b.toModel = false) : distinctTypes rs = rs := by
  induction rs using List.reverseRecOn with
  | nil => rfl
  | append_singleton rs r ih =>
    obtain ⟨hrs, -, hlast⟩ := List.pairwise_append.mp h
    have hany : (rs.any fun s => s.sameType r.toModel) = false :=
      List.any_eq_false.mpr fun s hs => by simp [hlast s hs r List.mem_cons_self]
    rw [distinctTypes_snoc, ih hrs, keepNew, hany, if_neg Bool.false_ne_true]

theorem Represents.pairwise (h : Represents rs kept marked) :
    kept.Pairwise fun a b => a.sameType b.toModel = false := by
  rw [h.kept_eq]
  exact List.pairwise_map.mpr (h.apart.imp fun hmn => hmn.2)

/-! ## The results -/

theorem results_of_forall_not {rs : List Response} (h : ∀ r ∈ rs, ¬ r.isResult) :
    results rs = [void] := by
  rw [results, List.filter_eq_nil_iff.mpr h]
  rfl

theorem results_of_exists {rs : List Response} (h : ∃ r ∈ rs, r.isResult) :
    results rs = distinctTypes (rs.filter isResult) := by
  rw [results]
  split
  · rename_i hnil
    obtain ⟨r, hr, hresult⟩ := h
    exact absurd hresult (List.filter_eq_nil_iff.mp hnil r hr)
  · rfl

/-- A result is the placeholder, or one of the responses that are declared. -/
theorem eq_void_or_ofDeclaration_of_mem_results {responses : Value} {rs : List Response}
    (h : declared doc responses mediaTypes = .ok rs) {r : Response} (hr : r ∈ results rs) :
    r = void ∨ ∃ declaration code, ofDeclaration doc declaration code mediaTypes = .ok r := by
  by_cases hex : ∃ s ∈ rs, s.isResult
  · obtain ⟨marked, hrep⟩ := exists_represents rs
    rw [results_of_exists hex] at hr
    obtain ⟨unsorted, hread, hperm, -, -⟩ := sorted_of_declared h
    have hmem : r ∈ unsorted := hperm.mem_iff.mp (hrep.sublist.subset hr)
    obtain ⟨e, code, declaration, -, -, -, -, hof⟩ := exists_isRead_of_mem hread hmem
    exact .inr ⟨declaration, code, hof⟩
  · rw [results_of_forall_not fun s hs hresult => hex ⟨s, hs, hresult⟩] at hr
    exact .inl (List.mem_singleton.mp hr)

/-- Whatever the responses are, their results are successes that stand apart. -/
theorem results_apart (rs : List Response) :
    (∀ r ∈ results rs, r.isResult) ∧
      (results rs).Pairwise fun a b => a.sameType b.toModel = false := by
  by_cases hex : ∃ r ∈ rs, r.isResult
  · obtain ⟨marked, h⟩ := exists_represents rs
    rw [results_of_exists hex]
    refine ⟨fun r hr => ?_, h.pairwise⟩
    rw [h.kept_eq] at hr
    obtain ⟨m, hm, rfl⟩ := List.mem_map.mp hr
    exact (h.read m hm).2
  · rw [results_of_forall_not fun r hr hresult => hex ⟨r, hr, hresult⟩]
    exact ⟨fun r hr => by rw [List.mem_singleton.mp hr]; rfl, List.pairwise_singleton _ _⟩

theorem results_ne_nil (rs : List Response) : results rs ≠ [] := by
  by_cases hex : ∃ r ∈ rs, r.isResult
  · obtain ⟨marked, h⟩ := exists_represents rs
    obtain ⟨r, hr, hresult⟩ := hex
    obtain ⟨j, hj, hget⟩ := List.getElem_of_mem hr
    obtain ⟨m, hm, -, -⟩ := h.covers j r (by rw [List.getElem?_eq_getElem hj, hget]) hresult
    rw [results_of_exists ⟨r, hr, hresult⟩, h.kept_eq]
    exact fun hnil => List.not_mem_nil (List.map_eq_nil_iff.mp hnil ▸ hm)
  · rw [results_of_forall_not fun r hr hresult => hex ⟨r, hr, hresult⟩]
    exact List.cons_ne_nil _ _

/-- **Results are their own results.** -/
theorem results_idem (rs : List Response) : results (results rs) = results rs := by
  obtain ⟨hresult, hapart⟩ := results_apart rs
  obtain ⟨r, hr⟩ := List.exists_mem_of_ne_nil _ (results_ne_nil rs)
  rw [results_of_exists ⟨r, hr, hresult r hr⟩, List.filter_eq_self.mpr hresult,
    distinctTypes_of_pairwise hapart]

/-- The placeholder stands for no documented success: its description is the empty text. -/
theorem results_eq_void_iff {rs : List Response} (h : ∀ r ∈ rs, r.description ≠ some "") :
    results rs = [void] ↔ ∀ r ∈ rs, ¬ r.isResult := by
  refine ⟨fun hvoid r hr hresult => ?_, results_of_forall_not⟩
  obtain ⟨marked, hrep⟩ := exists_represents rs
  rw [results_of_exists ⟨r, hr, hresult⟩] at hvoid
  have hmem : void ∈ rs := hrep.sublist.subset (hvoid ▸ List.mem_cons_self)
  exact h void hmem rfl

/-! ## The errors -/

/-- A response stands for a failure and says what it means. -/
def isError (r : Response) : Bool := 300 ≤ r.code && r.description.any fun d => d ≠ ""

/-- The error that a response describes. -/
def asError (r : Response) : ResponseError := ⟨r.code, r.description.getD ""⟩

theorem error?_eq (r : Response) : r.error? = if r.isError then some r.asError else none := by
  unfold error? isError asError
  cases r.description with
  | none => simp
  | some d => simp

theorem errors_eq (rs : List Response) : errors rs = (rs.filter isError).map asError := by
  induction rs with
  | nil => rfl
  | cons r rs ih =>
    rw [errors, List.filterMap_cons, error?_eq, ← errors, ih]
    by_cases hr : r.isError <;> simp [hr]

theorem isResult_iff {r : Response} :
    r.isResult = true ↔ 200 ≤ r.code ∧ r.code < 300 ∧ r.code ≠ 204 := by
  simp [isResult, and_assoc]

theorem le_code_of_isError {r : Response} (h : r.isError) : 300 ≤ r.code := by
  rw [isError, Bool.and_eq_true, decide_eq_true_eq] at h
  exact h.1

/-- **Results and errors of the responses of an operation.**  The responses are one for each usable
entry, by code, and in the order of the document where codes are equal.  There always is a result,
and it is the placeholder exactly if nothing succeeds; otherwise the results are successes at
ascending places, no two describe the same type, and every success is represented by exactly one of
them, which stands at its place or before.  The errors are the described responses from 300 on, in
order; no response is both, and one below 200 or with code 204 is neither.  Results are their own
results. -/
theorem results_and_errors {responses : Value} {rs : List Response}
    (h : declared doc responses mediaTypes = .ok rs) :
    (∃ unsorted, List.Forall₂ (IsRead doc mediaTypes) (usable responses.entries) unsorted ∧
      rs.Perm unsorted ∧ rs.Pairwise (fun a b => a.code ≤ b.code) ∧
      ∀ c : Int, (rs.filter fun r => r.code = c) = unsorted.filter fun r => r.code = c) ∧
    results rs ≠ [] ∧
    (results rs = [void] ↔ ∀ r ∈ rs, ¬ r.isResult) ∧
    ((∃ r ∈ rs, r.isResult) →
      (results rs).Sublist rs ∧ ∃ marked : List (Nat × Response),
        results rs = marked.map Prod.snd ∧
        (∀ m ∈ marked, rs[m.1]? = some m.2 ∧ m.2.isResult) ∧
        marked.Pairwise (fun m n => m.1 < n.1 ∧ m.2.sameType n.2.toModel = false) ∧
        ∀ (j : Nat) r, rs[j]? = some r → r.isResult →
          ∃ m ∈ marked, m.1 ≤ j ∧ m.2.sameType r.toModel ∧
            ∀ n ∈ marked, n.2.sameType r.toModel → n = m) ∧
    errors rs = (rs.filter isError).map asError ∧
    (∀ r ∈ rs, ¬ (r.isResult ∧ r.isError)) ∧
    (∀ r ∈ rs, r.code < 200 ∨ r.code = 204 → ¬ r.isResult ∧ ¬ r.isError) ∧
    results (results rs) = results rs := by
  refine ⟨sorted_of_declared h, results_ne_nil rs,
    results_eq_void_iff fun r => description_ne_of_mem_declared h, fun hex => ?_, errors_eq rs,
    ?_, ?_, results_idem rs⟩
  · obtain ⟨marked, hrep⟩ := exists_represents rs
    rw [results_of_exists hex]
    refine ⟨hrep.sublist, marked, hrep.kept_eq, hrep.read, hrep.apart, fun j r hj hresult => ?_⟩
    obtain ⟨m, hm, hle, hsame⟩ := hrep.covers j r hj hresult
    exact ⟨m, hm, hle, hsame, fun n hn hnr => hrep.unique hm hn hsame hnr⟩
  · rintro r - ⟨hresult, herror⟩
    have hlt := (isResult_iff.mp hresult).2.1
    have hge := le_code_of_isError herror
    omega
  · intro r _ hcode
    refine ⟨fun hresult => ?_, fun herror => ?_⟩
    · obtain ⟨hge, -, hne⟩ := isResult_iff.mp hresult
      omega
    · have hge := le_code_of_isError herror
      omega

/-- Two successes of one type, the later one declared by its number, and between them a failure and
an empty success. -/
def sampleResponses : Value :=
  .mapping [
    (.text "default", .mapping [(.text "description", .text "found")]),
    (.text "404", .mapping [(.text "description", .text "missing")]),
    (.int 204, .mapping []),
    (.int 200, .mapping [(.text "description", .text "found as well")])]

theorem results_and_errors_of_default :
    ∃ rs, declared .empty sampleResponses = .ok rs ∧ (∃ r ∈ rs, r.isResult) ∧
      results rs ≠ [void] ∧ (results rs).Sublist rs ∧ results (results rs) = results rs := by
  obtain ⟨unsorted, hread, hany⟩ : ∃ unsorted,
      ofEntries .empty defaultMediaTypes sampleResponses.entries = .ok unsorted ∧
        unsorted.any isResult = true := ⟨_, rfl, by decide +kernel⟩
  have h : declared .empty sampleResponses =
      .ok (unsorted.mergeSort fun a b => a.code ≤ b.code) := by
    rw [declared, hread]
    rfl
  obtain ⟨r, hr, hresult⟩ := List.any_eq_true.mp hany
  have hex : ∃ r ∈ unsorted.mergeSort fun a b => a.code ≤ b.code, r.isResult :=
    ⟨r, List.mem_mergeSort.mpr hr, hresult⟩
  obtain ⟨-, -, hvoid, hmarked, -, -, -, hidem⟩ := results_and_errors h
  refine ⟨_, h, hex, fun heq => ?_, (hmarked hex).1, hidem⟩
  obtain ⟨s, hs, hsuccess⟩ := hex
  exact hvoid.mp heq s hs hsuccess

end Response
end ServiceCatalog
