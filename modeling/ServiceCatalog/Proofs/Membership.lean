import ServiceCatalog.Proofs.Locality

/-!
# Which operations a service has

An extraction is a loop over tags, in which there is a loop over paths, in which there is a loop
over methods.  The outcome can be said without loops.  A *slot* is a method of a path, and the slots
of a tag (`Service.slots`) are those where an operation stands that lists the tag, in the order of
the document and then in that of the settings.  The operations of a service are those of its slots,
one for each and in this order, and what an operation is depends on its slot and not on the service
(`Service.ofDocument_membership`).

Every loop adds to the operations that are there already, so the statement about a loop is one about
the difference of its start and its end: `Grows ts s t` says that `t` is `s` with the operations of
the slots `ts` behind its own.  The loops compose as `Grows.trans` does, and `Grows.foldlM` turns a
statement about the steps of a loop into one about the loop.

How often a method of a path occurs is then a matter of counting slots.  The parameters of a path
do not enter, since they are read once for all methods and do not decide whether an operation is
listed.
-/

namespace ServiceCatalog

open Attempt

variable {doc doc' : Value} {settings : Settings}

namespace Service

/-! ## Slots -/

/-- A method of a path. -/
structure Slot where
  key : Scalar
  item : Value
  method : String

/-- The operation that stands in a slot, with the inputs of its path. -/
def Slot.operation (doc : Value) (settings : Settings) (x : Slot) :
    Except ExtractionError Operation := do
  let inherited ← (Inputs.declared doc settings (x.item.field "parameters")).mapError .description
  operationAt doc settings x.key x.method (x.item.field x.method) inherited

/-- The slots of a path where an operation lists the tag. -/
def slotsOn (settings : Settings) (tag : String) (e : Scalar × Value) : List Slot :=
  (settings.methods.filter (lists tag e.2)).map (Slot.mk e.1 e.2)

/-- The slots of a document where an operation lists the tag. -/
def slots (doc : Value) (settings : Settings) (tag : String) : List Slot :=
  (doc.field "paths").entries.flatMap (slotsOn settings tag)

/-- An operation lists a tag if it is a mapping and has the tag in its list of tags. -/
theorem lists_iff {tag : String} {item : Value} {method : String} :
    lists tag item method = true ↔ (item.field method).isMapping = true ∧
      ∃ tags, ((item.field method).field "tags").items? = some tags ∧ .text tag ∈ tags := by
  rw [lists, Bool.and_eq_true_iff, carries]
  refine and_congr_right fun _ => ?_
  cases ((item.field method).field "tags").items? with
  | none => simp
  | some tags =>
    have htext : ∀ v : Value, v.text? = some tag ↔ v = .text tag := by
      intro v
      unfold Value.text?
      split <;> simp_all
    simp [htext]

/-- Nothing is listed on a path that is empty, or no mapping. -/
theorem slotsOn_of_nil {tag : String} {e : Scalar × Value} (h : e.2.entries = []) :
    slotsOn settings tag e = [] := by
  have hnone : settings.methods.filter (lists tag e.2) = [] := by
    refine List.filter_eq_nil_iff.mpr fun method _ hlists => ?_
    exact entries_ne_nil_of_isMapping (lists_iff.mp hlists).1 h
  rw [slotsOn, hnone, List.map_nil]

/-! ## Loops -/

/-- The second service is the first one with the operations of some slots behind its own. -/
structure Grows (doc : Value) (settings : Settings) (ts : List Slot) (s t : Service) : Prop where
  name : t.name = s.name
  description : t.description = s.description
  operations : ∃ os, t.operations = s.operations ++ os ∧
    List.Forall₂ (fun x o => Slot.operation doc settings x = .ok o) ts os

variable {s t u : Service} {ts us : List Slot} {tag : String}

theorem Grows.refl (s : Service) : Grows doc settings [] s s where
  name := rfl
  description := rfl
  operations := ⟨[], (List.append_nil _).symm, .nil⟩

theorem Grows.trans (h : Grows doc settings ts s t) (h' : Grows doc settings us t u) :
    Grows doc settings (ts ++ us) s u where
  name := h'.name.trans h.name
  description := h'.description.trans h.description
  operations := by
    obtain ⟨os, hos, hts⟩ := h.operations
    obtain ⟨ps, hps, hus⟩ := h'.operations
    refine ⟨os ++ ps, ?_, List.rel_append hts hus⟩
    rw [hps, hos, List.append_assoc]

/-- A loop grows by what its steps grow by. -/
theorem Grows.foldlM {α ε : Type} {step : Service → α → Except ε Service} {f : α → List Slot}
    {as : List α}
    (hstep : ∀ a s t, s.name = tag → step s a = .ok t → Grows doc settings (f a) s t)
    (hs : s.name = tag) (h : as.foldlM step s = .ok t) :
    Grows doc settings (as.flatMap f) s t := by
  induction as generalizing s with
  | nil =>
    rw [List.foldlM_nil, pure_eq_ok] at h
    rw [← h]
    exact .refl s
  | cons a as ih =>
    rw [List.foldlM_cons, bind_eq_ok] at h
    obtain ⟨m, hm, h⟩ := h
    have hfirst : Grows doc settings (f a) s m := hstep a s m hs hm
    rw [List.flatMap_cons]
    exact hfirst.trans (ih (hfirst.name.trans hs) h)

/-- A method adds the operation of its slot, if that lists the tag. -/
theorem grows_of_visitMethod {key : Scalar} {item : Value} {inherited : Inputs} {method : String}
    (hi : Inputs.declared doc settings (item.field "parameters") = .ok inherited)
    (hs : s.name = tag) (h : visitMethod doc settings key item inherited s method = .ok t) :
    Grows doc settings (if lists tag item method then [⟨key, item, method⟩] else []) s t := by
  subst hs
  cases hlists : lists s.name item method with
  | false =>
    rw [visitMethod_of_not_carries hlists] at h
    rw [← Except.ok.inj h]
    exact .refl s
  | true =>
    rw [visitMethod_of_carries hlists, map_eq_ok] at h
    obtain ⟨o, ho, rfl⟩ := h
    have hslot : Slot.operation doc settings ⟨key, item, method⟩ = .ok o := by
      rw [Slot.operation, hi]
      exact ho
    exact ⟨rfl, rfl, [o], rfl, .cons hslot .nil⟩

theorem flatMap_ite_singleton {α β : Type} (p : α → Bool) (f : α → β) (as : List α) :
    (as.flatMap fun a => if p a then [f a] else []) = (as.filter p).map f := by
  induction as with
  | nil => rfl
  | cons a as ih =>
    rw [List.flatMap_cons, ih, List.filter_cons]
    split <;> rfl

/-- A path adds the operations of its slots. -/
theorem grows_of_visitPath {e : Scalar × Value} (hs : s.name = tag)
    (h : visitPath doc settings s e = .ok t) : Grows doc settings (slotsOn settings tag e) s t := by
  by_cases hnil : e.2.entries = []
  · rw [visitPath_of_nil hnil] at h
    rw [slotsOn_of_nil hnil, ← Except.ok.inj h]
    exact .refl s
  · rw [visitPath_of_ne_nil hnil] at h
    obtain ⟨inherited, hi, hrun⟩ := bind_eq_ok.mp h
    rw [mapError_eq_ok] at hi
    rw [slotsOn, ← flatMap_ite_singleton]
    exact Grows.foldlM (fun method s t hname => grows_of_visitMethod hi hname) hs hrun

/-- The service of a tag has its name and its description, and the operations of its slots. -/
theorem grows_of_ofTag {v : Value} (h : ofTag doc v settings = .ok s) :
    Grows doc settings (slots doc settings ((tagName? v).getD ""))
      { name := (tagName? v).getD "", description := (v.field "description").nonemptyText? } s :=
  Grows.foldlM (fun _ _ _ hname => grows_of_visitPath hname) rfl h

/-! ## Services and tags -/

/-- The tags of a document that have a name. -/
def namedTags (doc : Value) : List Value :=
  ((doc.field "tags").items?.getD []).filter fun tag => (tagName? tag).isSome

theorem forall₂_of_ofTags {tags : List Value} {ss : List Service}
    (h : ofTags doc settings tags = .ok ss) :
    List.Forall₂ (fun tag s => ofTag doc tag settings = .ok s)
      (tags.filter fun tag => (tagName? tag).isSome) ss := by
  induction tags generalizing ss with
  | nil =>
    rw [ofTags, Except.ok.injEq] at h
    rw [← h]
    exact .nil
  | cons tag tags ih =>
    by_cases hn : (tagName? tag).isSome = true
    · simp only [ofTags, if_pos hn, bind_eq_ok, pure_eq_ok] at h
      obtain ⟨first, hfirst, others, hothers, rfl⟩ := h
      rw [List.filter_cons, if_pos hn]
      exact .cons hfirst (ih hothers)
    · rw [ofTags, if_neg hn] at h
      rw [List.filter_cons, if_neg hn]
      exact ih h

/-- The services of a document are those of its named tags, one for each. -/
theorem forall₂_of_ofDocument {ss : List Service} (h : ofDocument doc settings = .ok ss) :
    List.Forall₂ (fun tag s => ofTag doc tag settings = .ok s) (namedTags doc) ss := by
  unfold ofDocument at h
  unfold namedTags
  cases htags : (doc.field "tags").items? with
  | none =>
    rw [htags] at h
    rw [← Except.ok.inj h]
    exact .nil
  | some tags =>
    rw [htags] at h
    exact forall₂_of_ofTags h

/-! ## How often a slot occurs -/

theorem key_of_mem_slotsOn {e : Scalar × Value} {x : Slot} (h : x ∈ slotsOn settings tag e) :
    x.key = e.1 := by
  obtain ⟨method, -, rfl⟩ := List.mem_map.mp h
  rfl

/-- On its own path, a method has as many slots as the settings name it. -/
theorem countP_slotsOn (path : String) (v : Value) (method : String) :
    (slotsOn settings tag (.text path, v)).countP
        (fun x => x.key = .text path ∧ x.method = method) =
      if lists tag v method then settings.methods.count method else 0 := by
  rw [slotsOn, List.countP_map]
  have hcount : (settings.methods.filter (lists tag v)).count method =
      if lists tag v method then settings.methods.count method else 0 := by
    split
    · next hlists => exact List.count_filter hlists
    · next hlists =>
      exact List.count_eq_zero.mpr fun hmem => hlists (List.mem_filter.mp hmem).2
  rw [← hcount, List.count]
  refine List.countP_congr fun m _ => ?_
  simp

/-- The slots of other paths do not count. -/
theorem countP_eq_zero_of_key {path : String} (h : ∀ x ∈ ts, x.key ≠ .text path)
    (method : String) : ts.countP (fun x => x.key = .text path ∧ x.method = method) = 0 := by
  refine List.countP_eq_zero.mpr fun x hx => ?_
  rw [decide_eq_true_iff]
  exact fun hslot => h x hx hslot.1

/-- If every path stands there once, then a method of it has as many slots as the settings name it,
or none. -/
theorem countP_flatMap_slotsOn {es : Entries} (hdistinct : (es.map Prod.fst).Nodup)
    (path method : String) :
    (es.flatMap (slotsOn settings tag)).countP
        (fun x => x.key = .text path ∧ x.method = method) =
      if lists tag ((Value.mapping es).field path) method then settings.methods.count method
      else 0 := by
  induction es with
  | nil => rfl
  | cons e es ih =>
    obtain ⟨key, v⟩ := e
    rw [List.map_cons, List.nodup_cons] at hdistinct
    rw [List.flatMap_cons, List.countP_append]
    by_cases hkey : key = .text path
    · subst hkey
      have hothers : ∀ x ∈ es.flatMap (slotsOn settings tag), x.key ≠ .text path := by
        intro x hx heq
        obtain ⟨e, he, hxe⟩ := List.mem_flatMap.mp hx
        have hmem : e.1 ∈ es.map Prod.fst := List.mem_map_of_mem he
        rw [← key_of_mem_slotsOn hxe, heq] at hmem
        exact hdistinct.1 hmem
      have hfield : (Value.mapping ((.text path, v) :: es)).field path = v := by
        simp [Value.field, Entries.get?]
      rw [countP_eq_zero_of_key hothers, hfield, countP_slotsOn, Nat.add_zero]
    · have hfield :
          (Value.mapping ((key, v) :: es)).field path = (Value.mapping es).field path := by
        simp [Value.field, Entries.get?, hkey]
      have hhead : ∀ x ∈ slotsOn settings tag (key, v), x.key ≠ .text path := by
        intro x hx heq
        exact hkey ((key_of_mem_slotsOn hx).symm.trans heq)
      rw [countP_eq_zero_of_key hhead, hfield, ih hdistinct.2, Nat.zero_add]

/-! ## The services of a document -/

/-- An operation has the method of its slot, in capitals, and the path. -/
theorem method_and_path_of_operation {x : Slot} {o : Operation}
    (h : Slot.operation doc settings x = .ok o) :
    o.method = String.ofList (Text.upper x.method.toList) ∧
      ∀ path, x.key = .text path → o.path = path := by
  simp only [Slot.operation, operationAt, bind_eq_ok, mapError_eq_ok] at h
  obtain ⟨inherited, -, path, hpath, hof⟩ := h
  obtain ⟨own, body, responses, -, -, -, rfl⟩ := Operation.exists_of_ofDeclaration hof
  refine ⟨rfl, fun p hp => ?_⟩
  rw [hp, pathOf, Except.ok.injEq] at hpath
  exact hpath.symm

/-- The operations of a service are those of the slots of its name. -/
theorem forall₂_operations_of_mem {ss : List Service} (h : ofDocument doc settings = .ok ss)
    (hs : s ∈ ss) :
    List.Forall₂ (fun x o => Slot.operation doc settings x = .ok o) (slots doc settings s.name)
      s.operations := by
  obtain ⟨v, hv⟩ := exists_of_mem_ofDocument h hs
  have hgrows := grows_of_ofTag hv
  obtain ⟨os, hos, hforall⟩ := hgrows.operations
  rw [hgrows.name, hos, List.nil_append]
  exact hforall

/-- A slot of a tag stands on a path of the document. -/
theorem mem_entries_of_mem_slots {x : Slot} (h : x ∈ slots doc settings tag) :
    (x.key, x.item) ∈ (doc.field "paths").entries := by
  obtain ⟨e, he, hx⟩ := List.mem_flatMap.mp h
  obtain ⟨method, -, rfl⟩ := List.mem_map.mp hx
  exact he

/-- If every path stands there once, then a slot is given by its path and its method. -/
theorem slot_eq_of_mem_slots {tag' : String} {x y : Slot}
    (hdistinct : ((doc.field "paths").entries.map Prod.fst).Nodup)
    (hx : x ∈ slots doc settings tag) (hy : y ∈ slots doc settings tag') (hkey : x.key = y.key)
    (hmethod : x.method = y.method) : x = y := by
  have hitem : (x.key, x.item) = (y.key, y.item) :=
    List.inj_on_of_nodup_map hdistinct (mem_entries_of_mem_slots hx) (mem_entries_of_mem_slots hy)
      hkey
  obtain ⟨key, item, method⟩ := x
  obtain ⟨key', item', method'⟩ := y
  obtain ⟨rfl, rfl⟩ := Prod.mk.inj hitem
  cases hmethod
  rfl

/-- The name and the description of a service are those of its tag. -/
theorem map_name_eq {ss : List Service} (h : ofDocument doc settings = .ok ss) :
    ss.map (fun s => (some s.name, s.description)) =
      (namedTags doc).map fun tag => (tagName? tag, (tag.field "description").nonemptyText?) := by
  have hnamed : ∀ tag ∈ namedTags doc, some ((tagName? tag).getD "") = tagName? tag := by
    intro tag htag
    obtain ⟨name, hname⟩ := Option.isSome_iff_exists.mp (List.mem_filter.mp htag).2
    rw [hname, Option.getD_some]
  have hof := forall₂_imp_of_mem (forall₂_of_ofDocument h) fun tag htag s hs =>
    And.intro htag (grows_of_ofTag hs)
  refine (map_eq_of_forall₂ hof fun tag s hs => ?_).symm
  obtain ⟨htag, hgrows⟩ := hs
  rw [hgrows.name, hgrows.description, hnamed tag htag]

/-- In all services, the operation of a method of a path is the same. -/
theorem getElem?_operations_eq {ss : List Service} (h : ofDocument doc settings = .ok ss)
    (hdistinct : ((doc.field "paths").entries.map Prod.fst).Nodup) (hs : s ∈ ss) (ht : t ∈ ss)
    {i j : Nat} {x y : Slot} (hx : (slots doc settings s.name)[i]? = some x)
    (hy : (slots doc settings t.name)[j]? = some y) (hkey : x.key = y.key)
    (hmethod : x.method = y.method) : s.operations[i]? = t.operations[j]? := by
  obtain ⟨o, ho, hxo⟩ := exists_getElem?_of_forall₂ (forall₂_operations_of_mem h hs) hx
  obtain ⟨p, hp, hyp⟩ := exists_getElem?_of_forall₂ (forall₂_operations_of_mem h ht) hy
  have hslot : x = y := slot_eq_of_mem_slots hdistinct (List.mem_of_getElem? hx)
    (List.mem_of_getElem? hy) hkey hmethod
  rw [hslot, hyp, Except.ok.injEq] at hxo
  rw [ho, hp, hxo]

/-- **Membership in services is exact, and a matter of the tag alone.**  Let the services of a
document be `ss`.

* There is one for each named tag, in their order, with the name and the description of the tag.
* The operations of a service are those of the slots of its name, one for each and in their order:
  first in that of the paths, then in that of the methods.  Each has the path and the method of its
  slot.
* If every path stands there once, then a method of a path has as many slots as the settings name
  it, if an operation on the path lists the name under it, and none otherwise; and what a slot
  describes is the same in all services that have it.
* In another document that has services, a tag has the same service if the paths are the same to it
  and nothing that is consulted for it is touched, wherever it stands among the tags. -/
theorem ofDocument_membership (doc : Value) (settings : Settings) (ss : List Service)
    (h : ofDocument doc settings = .ok ss) :
    (ss.map fun s => (some s.name, s.description)) =
        ((namedTags doc).map fun tag => (tagName? tag, (tag.field "description").nonemptyText?)) ∧
    (∀ s ∈ ss,
      List.Forall₂ (fun x o => Slot.operation doc settings x = .ok o ∧
          o.method = String.ofList (Text.upper x.method.toList) ∧
          ∀ path, x.key = .text path → o.path = path)
        (slots doc settings s.name) s.operations) ∧
    (((doc.field "paths").entries.map Prod.fst).Nodup →
      (∀ s ∈ ss, ∀ path method,
        (slots doc settings s.name).countP (fun x => x.key = .text path ∧ x.method = method) =
          if lists s.name ((doc.field "paths").field path) method then settings.methods.count method
          else 0) ∧
      ∀ s ∈ ss, ∀ t ∈ ss, ∀ (i j : Nat) (x y : Slot),
        (slots doc settings s.name)[i]? = some x → (slots doc settings t.name)[j]? = some y →
        x.key = y.key → x.method = y.method → s.operations[i]? = t.operations[j]?) ∧
    ∀ doc' ss', ofDocument doc' settings = .ok ss' → ∀ (i j : Nat) (tag : Value) (name : String),
      (namedTags doc)[i]? = some tag → (namedTags doc')[j]? = some tag → tagName? tag = some name →
      List.Forall₂ (EntryRel (SameFor settings name)) (doc.field "paths").entries
        (doc'.field "paths").entries →
      (∀ ref, Consulted doc settings (· = name) ref → Untouched doc doc' ref) →
      ss[i]? = ss'[j]? := by
  refine ⟨map_name_eq h, fun s hs => ?_, fun hdistinct => ⟨fun s hs path method => ?_, ?_⟩, ?_⟩
  · exact (forall₂_operations_of_mem h hs).imp fun x o ho => ⟨ho, method_and_path_of_operation ho⟩
  · exact countP_flatMap_slotsOn hdistinct path method
  · intro s hs t ht i j x y hx hy hkey hmethod
    exact getElem?_operations_eq h hdistinct hs ht hx hy hkey hmethod
  · intro doc' ss' h' i j tag name hi hj hname hpaths huntouched
    obtain ⟨s, hs, hof⟩ := exists_getElem?_of_forall₂ (forall₂_of_ofDocument h) hi
    obtain ⟨s', hs', hof'⟩ := exists_getElem?_of_forall₂ (forall₂_of_ofDocument h') hj
    have halike : Alike Eq (ofTag doc tag settings) (ofTag doc' tag settings) := by
      refine alike_ofTag tag ?_ ?_
      · rw [hname]
        exact hpaths
      · rw [hname]
        exact huntouched
    rw [hof, hof'] at halike
    cases halike with
    | ok heq => rw [hs, hs', heq]

/-! ## A catalog with another tag -/

/-- The catalog with another tag in front, an operation that lists it, and no schemas. -/
def sampleStore : Value :=
  .mapping [
    (.text "tags", .list [.mapping [(.text "name", .text "stores")],
      .mapping [(.text "name", .text "pets")]]),
    (.text "paths", .mapping [(.text "/pets", .mapping [
      (.text "post", .mapping [(.text "tags", .list [.text "stores"])]),
      (.text "get", sampleListing)])]),
    (.text "components", .mapping [
      (.text "parameters", .mapping [(.text "Limit", sampleLimit)])])]

theorem exists_ofDocument_sampleStore : ∃ ss, ofDocument sampleStore = .ok ss :=
  exists_eq_ok_of_isOk (by decide +kernel)

/-- To the tag of the catalog, the path is the same in both. -/
theorem sameFor_sampleStore :
    List.Forall₂ (EntryRel (SameFor {} "pets"))
      ((sampleCatalog sampleSchemas).field "paths").entries
      (sampleStore.field "paths").entries := by
  refine .cons (.mk _ ⟨by simp, rfl, fun method hmethod => ?_⟩) .nil
  by_cases hpost : method = "post"
  · subst hpost
    exact .inr ⟨rfl, by decide⟩
  · left
    simp [Value.field, Entries.get?, Ne.symm hpost]

theorem ofDocument_membership_sampleStore :
    ∃ ss ss', ofDocument (sampleCatalog sampleSchemas) = .ok ss ∧ ofDocument sampleStore = .ok ss' ∧
      (ss'.map fun s => (some s.name, s.description)) =
        [(some "stores", none), (some "pets", none)] ∧
      ss[0]? = ss'[1]? := by
  obtain ⟨ss, hss⟩ := exists_ofDocument_sampleCatalog
  obtain ⟨ss', hss'⟩ := exists_ofDocument_sampleStore
  refine ⟨ss, ss', hss, hss', (ofDocument_membership sampleStore {} ss' hss').1, ?_⟩
  refine (ofDocument_membership (sampleCatalog sampleSchemas) {} ss hss).2.2.2 sampleStore ss' hss'
    0 1 (.mapping [(.text "name", .text "pets")]) "pets" rfl rfl rfl sameFor_sampleStore ?_
  intro ref href
  rw [eq_of_consulted_sampleCatalog href]
  exact untouched_of_alike (.ok rfl)

end Service
end ServiceCatalog
