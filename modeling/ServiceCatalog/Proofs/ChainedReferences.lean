import ServiceCatalog.Proofs.Redeclaration
import ServiceCatalog.Proofs.Requirements
import ServiceCatalog.Proofs.Transparency

/-!
# References to references

A declaration of a parameter may be a reference, and what it refers to may be a reference again.
Such a chain has an end if it does not turn back on itself, and a reader would take the entry for
the parameter that is declared there.  It is read otherwise: an entry is followed once
(`Value.dereference`), and what it leads to is read as a declaration, whatever it is.

So the first target alone decides (`declared_of_chain`).  Where the chain has one step, the first
target is its end, and the entry leaves the parameter that is declared there.  Where it has more,
the first target is a reference, which names no location unless somebody wrote one beside it; then
nothing is left of the entry, and nothing is said about it (`declared_of_alias`).
-/

namespace ServiceCatalog

open Attempt

variable {doc : Value} {settings : Settings}

/-- From the first value the references lead, one by one and in so many steps, to the second one,
which is no reference. -/
inductive Value.Chain (doc : Value) : Nat → Value → Value → Prop
  | done {e : Value} (hplain : e.reference? = none) : Chain doc 0 e e
  | step {n : Nat} {v w e : Value} {ref : String} (href : v.reference? = some ref)
      (htarget : Pointer.resolve doc ref = .ok w) (hrest : Chain doc n w e) : Chain doc (n + 1) v e

namespace Value.Chain

variable {n m : Nat} {v w e f : Value}

theorem eq_of_zero (h : Chain doc 0 v e) : v = e := by
  cases h
  rfl

/-- The first step of a chain. -/
theorem exists_target (h : Chain doc (n + 1) v e) :
    ∃ w, dereference doc v = .ok w ∧ Chain doc n w e := by
  cases h with
  | step href htarget hrest =>
    refine ⟨_, ?_, hrest⟩
    unfold dereference
    simp only [href, htarget]
    rfl

end Value.Chain

namespace Parameter

/-- The place that a declaration names, taken as it stands. -/
def ownPlace? (declaration : Value) : Option (Location × String) :=
  (Location.ofValue? (declaration.field "in")).map fun location =>
    (location, ((declaration.field? "name").map Value.plainText).getD "")

/-- A value, taken as it stands, declares a parameter that is listed. -/
def Declares (settings : Settings) (declaration : Value) : Prop :=
  ∃ place, ownPlace? declaration = some place ∧ isListed settings place = true

theorem place?_of_dereference {v declaration : Value}
    (h : Value.dereference doc v = .ok declaration) : place? doc v = ownPlace? declaration := by
  simp only [place?, h, ownPlace?]

/-- What is left of an entry is a parameter exactly if its first target declares one. -/
theorem isSome_of_kept? {v first : Value} {o : Option Parameter}
    (hfirst : Value.dereference doc v = .ok first) (h : kept? doc settings v = .ok o) :
    o.isSome = true ↔ Declares settings first := by
  have hplace := map_place_of_kept? h
  rw [place?_of_dereference hfirst] at hplace
  rw [← Option.isSome_map (f := place), hplace, Option.isSome_filter, Option.any_eq_true]
  rfl

/-- What is left of an entry if its first target declares a parameter: that parameter, unless the
schema is looked up in vain, or something that has to be written out is too long for that. -/
inductive Outcome (doc v first : Value) : Except DescriptionError (Option Parameter) → Prop
  | parameter {p : Parameter} (hplace : ownPlace? first = some p.place) :
      Outcome doc v first (.ok (some p))
  | unresolved {cause : DescriptionError} (h : schemaOf doc first = .error cause) :
      Outcome doc v first (.error cause)
  | overlong {c : Conversion} {o : Overlong} (hc : Converts doc v c) (ho : c.fault? = some o) :
      Outcome doc v first (.error (.overlong o))

theorem outcome_of_declares {v first : Value} (hfirst : Value.dereference doc v = .ok first)
    (h : Declares settings first) : Outcome doc v first (kept? doc settings v) := by
  have hdemands : Demands (Requirement.meet doc) (kept? doc settings v) _ := demands_kept? v
  cases hk : kept? doc settings v with
  | ok o =>
    obtain ⟨p, rfl⟩ := Option.isSome_iff_exists.mp ((isSome_of_kept? hfirst hk).mpr h)
    have hplace := map_place_of_kept? hk
    rw [place?_of_dereference hfirst, Option.map_some] at hplace
    exact .parameter (Option.filter_eq_some_iff.mp hplace.symm).1
  | error e =>
    obtain ⟨d, hd, hmeet⟩ := hdemands.fails e hk
    cases d with
    | conversion c =>
      obtain ⟨o, ho, rfl⟩ := Requirement.meet_conversion_eq_error.mp hmeet
      exact .overlong hd ho
    | reference ref =>
      obtain ⟨cause, hcause, rfl⟩ := Requirement.meet_reference_eq_error.mp hmeet
      rcases hd with href | ⟨hd, -, hs, hh⟩
      · simp only [Value.dereference, href, hcause] at hfirst
        cases hfirst
      · obtain rfl := Except.ok.inj (hfirst.symm.trans hd)
        refine .unresolved ?_
        simp only [schemaOf, Value.dereferenceFrom, hs, if_pos hh, hcause]
        rfl

/-- Without a location in its first target, nothing is left of an entry, and nothing fails. -/
theorem kept?_of_ownPlace?_eq_none {v first : Value}
    (hfirst : Value.dereference doc v = .ok first) (h : ownPlace? first = none) :
    kept? doc settings v = .ok none := by
  have hlocation : Location.ofValue? (first.field "in") = none := Option.map_eq_none_iff.mp h
  have hdeclaration : ∀ reserved, ofDeclaration? doc first reserved = .ok none := by
    intro reserved
    rw [ofDeclaration?, hlocation]
  rw [kept?, hfirst]
  show (ofDeclaration? doc first _ >>= fun p => pure (p.filter (isKept settings))) = _
  rw [hdeclaration]
  rfl

/-- What an entry leaves stands between what the entries before it leave and those behind it. -/
theorem exists_of_keptAll_append {before after : List Value} {v : Value} {ps : List Parameter}
    (h : keptAll doc settings (before ++ v :: after) = .ok ps) :
    ∃ qs o rs, keptAll doc settings before = .ok qs ∧ kept? doc settings v = .ok o ∧
      keptAll doc settings after = .ok rs ∧ ps = qs ++ o.toList ++ rs := by
  induction before generalizing ps with
  | nil =>
    simp only [List.nil_append, keptAll, bind_eq_ok, pure_eq_ok] at h
    obtain ⟨o, ho, rs, hrs, rfl⟩ := h
    exact ⟨[], o, rs, rfl, ho, hrs, rfl⟩
  | cons w before ih =>
    simp only [List.cons_append, keptAll, bind_eq_ok, pure_eq_ok] at h
    obtain ⟨o, ho, qs, hqs, rfl⟩ := h
    obtain ⟨us, p, rs, hus, hp, hrs, rfl⟩ := ih hqs
    refine ⟨o.toList ++ us, p, rs, ?_, hp, hrs, by simp only [List.append_assoc]⟩
    simp only [keptAll, ho, hus]
    rfl

end Parameter

namespace Inputs

open Parameter

variable {declarations v e : Value} {before after : List Value} {n : Nat}

/-- An entry of which nothing is left may as well be missing. -/
theorem declared_eq_of_kept?_eq_none (hitems : declarations.items? = some (before ++ v :: after))
    (h : kept? doc settings v = .ok none) :
    declared doc settings declarations = declared doc settings (.list (before ++ after)) := by
  have hstep : ∀ i, fileDeclaration doc settings i v = .ok i := by
    intro i
    rw [fileDeclaration_eq, h]
    rfl
  simp only [declared, hitems, Value.items?_list, List.foldlM_append, List.foldlM_cons, hstep]
  rfl

/-- **The first target of an entry decides.**  Let an entry of a list of declarations be a reference
from which a chain of references leads to the declaration of a parameter.  If its first target is
the end of the chain, or declares a parameter beside being a reference, then that parameter is left
of the entry, unless its schema is looked up in vain or something is too long to be written out; in
its place in a list it is the only one.
If the first target declares none, then none is left, and if it names no location at all, then the
list is read as if the entry were missing. -/
theorem declared_of_chain (hchain : Value.Chain doc (n + 1) v e) (hend : Declares settings e) :
    ∃ first, Value.dereference doc v = .ok first ∧ Value.Chain doc n first e ∧
      (n = 0 → first = e ∧ Declares settings first) ∧
      (Declares settings first → Outcome doc v first (kept? doc settings v)) ∧
      (∀ declarations before after i, declarations.items? = some (before ++ v :: after) →
        declared doc settings declarations = .ok i →
        ∃ ps, ∃ o : Option Parameter, ∃ qs,
          keptAll doc settings before = .ok ps ∧ keptAll doc settings after = .ok qs ∧
          i.Filed (ps ++ o.toList ++ qs) ∧ (o.isSome = true ↔ Declares settings first)) ∧
      (ownPlace? first = none → ∀ declarations before after,
        declarations.items? = some (before ++ v :: after) →
        declared doc settings declarations = declared doc settings (.list (before ++ after))) := by
  obtain ⟨first, hfirst, hrest⟩ := hchain.exists_target
  refine ⟨first, hfirst, hrest, ?_, outcome_of_declares hfirst, ?_, ?_⟩
  · rintro rfl
    obtain rfl := hrest.eq_of_zero
    exact ⟨rfl, hend⟩
  · intro declarations before after i hitems hi
    obtain ⟨all, hall, hfiled⟩ := filed_of_declared hi
    simp only [kept, hitems] at hall
    obtain ⟨ps, o, qs, hps, ho, hqs, rfl⟩ := exists_of_keptAll_append hall
    exact ⟨ps, o, qs, hps, hqs, hfiled, isSome_of_kept? hfirst ho⟩
  · intro hnone declarations before after hitems
    exact declared_eq_of_kept?_eq_none hitems (kept?_of_ownPlace?_eq_none hfirst hnone)

/-- A limit on the query. -/
def sampleSize : Value := Operation.sampleLimit (Operation.sampleSchema "integer")

/-- A document that declares a limit under one name and refers to it under another. -/
def sampleNames : Value :=
  .mapping [(.text "components", .mapping [(.text "parameters", .mapping [
    (.text "Limit", sampleSize),
    (.text "Size", Operation.sampleReference "#/components/parameters/Limit")])])]

/-- An entry that refers to a declared parameter. -/
def sampleEntry (name : String) : Value :=
  Operation.sampleReference ("#/components/parameters/" ++ name)

theorem declares_sampleSize : Declares {} sampleSize := ⟨(.query, "limit"), rfl, by decide⟩

theorem chain_sampleEntry :
    Value.Chain sampleNames 1 (sampleEntry "Limit") sampleSize ∧
      Value.Chain sampleNames 2 (sampleEntry "Size") sampleSize := by
  have hlimit : Value.Chain sampleNames 1 (sampleEntry "Limit") sampleSize :=
    .step rfl rfl (.done rfl)
  exact ⟨hlimit, .step rfl rfl hlimit⟩

theorem declared_of_chain_of_names :
    Value.Chain sampleNames (0 + 1) (sampleEntry "Limit") sampleSize ∧
      Value.Chain sampleNames (1 + 1) (sampleEntry "Size") sampleSize ∧ Declares {} sampleSize ∧
      (∃ p, kept? sampleNames {} (sampleEntry "Limit") = .ok (some p)) ∧
      declared sampleNames {} (.list [sampleEntry "Size", sampleEntry "Limit"]) =
        declared sampleNames {} (.list [sampleEntry "Limit"]) := by
  obtain ⟨hlimit, hsize⟩ := chain_sampleEntry
  refine ⟨hlimit, hsize, declares_sampleSize, ?_, ?_⟩
  · obtain ⟨first, hfirst, -, hdirect, hone, -, -⟩ := declared_of_chain hlimit declares_sampleSize
    obtain ⟨rfl, hdeclares⟩ := hdirect rfl
    have houtcome := hone hdeclares
    generalize hkept : kept? sampleNames {} (sampleEntry "Limit") = x at houtcome
    cases houtcome with
    | parameter hplace => exact ⟨_, rfl⟩
    | unresolved hschema => cases hschema
    | overlong => cases hkept
  · obtain ⟨first, hfirst, -, -, -, -, hlost⟩ := declared_of_chain hsize declares_sampleSize
    cases hfirst
    exact hlost rfl _ [] [sampleEntry "Limit"] rfl

/-- **A parameter under its second name is lost.**  An entry refers to a name that refers to a
parameter; the parameter is on the query and not ignored, and nothing is left of the entry. -/
theorem declared_of_alias :
    ∃ e, Value.Chain sampleNames 2 (sampleEntry "Size") e ∧ Declares {} e ∧
      declared sampleNames {} (.list [sampleEntry "Size"]) = .ok {} :=
  ⟨sampleSize, chain_sampleEntry.2, declares_sampleSize, rfl⟩

end Inputs
end ServiceCatalog
