import ServiceCatalog.Proofs.Filing

/-!
# Parameters that are declared twice

A path declares parameters for all of its operations, and an operation may declare one of them
again.  Nothing brings the two declarations together: the parameters of the operation are filed
behind those of its path, and both are there.

## Places

The *place* of a parameter is its location with the name under which it is sent there.  Names are
compared as they are sent, so the number one and the text `1` are one name.  A list of declarations
names some places, and `map_place_of_kept` says that the parameters it leaves have just these, in
order, without the bodies and without the names that the settings ignore.

So if neither list names a place twice, a place is taken once by each list that names it, and
`bucketed_of_redeclared` says when that makes two of one: exactly if both lists name a place.
-/

namespace ServiceCatalog

open Attempt

variable {doc : Value} {settings : Settings}

/-! ## Places -/

namespace Parameter

/-- Where a parameter is sent, and under which name. -/
def place (p : Parameter) : Location × String := (p.location, p.prop)

/-- There is a list for the location of a place, and its name is not ignored. -/
def isListed (settings : Settings) (place : Location × String) : Bool :=
  place.1 ≠ .body && !settings.ignoredParameters.contains place.2

/-- The place that a declaration names, after it is looked up.  Without a known location there is
none; a missing name is empty. -/
def place? (doc v : Value) : Option (Location × String) :=
  match Value.dereference doc v with
  | .ok declaration =>
    (Location.ofValue? (declaration.field "in")).map fun location =>
      (location, ((declaration.field? "name").map Value.plainText).getD "")
  | .error _ => none

/-- The places that a list of declarations names, in order. -/
def places (doc v : Value) : List (Location × String) :=
  (v.items?.getD []).filterMap (place? doc)

theorem isKept_eq (p : Parameter) : isKept settings p = isListed settings p.place := rfl

@[simp] theorem place_withSchema (p : Parameter) (schema : Value) :
    (p.withSchema schema).place = p.place := by
  unfold withSchema
  split
  · rfl
  · split <;> rfl

/-- A declaration that is no reference describes a parameter with the place that it names. -/
theorem map_place_of_ofDeclaration? {v declaration : Value} {reserved : List String}
    {o : Option Parameter} (hd : Value.dereference doc v = .ok declaration)
    (h : ofDeclaration? doc declaration reserved = .ok o) : o.map place = place? doc v := by
  unfold place?
  simp only [hd]
  rcases ofDeclaration?_eq_ok h with ⟨hlocation, rfl⟩ | ⟨location, schema, hlocation, -, rfl⟩
  · rw [hlocation]
    rfl
  · rw [hlocation, Option.map_some, Option.map_some, place_withSchema]
    rfl

/-- One declaration leaves the place that it names, if that is listed. -/
theorem map_place_of_kept? {v : Value} {o : Option Parameter}
    (h : kept? doc settings v = .ok o) :
    o.map place = (place? doc v).filter (isListed settings) := by
  simp only [kept?, bind_eq_ok, pure_eq_ok] at h
  obtain ⟨declaration, hd, p, hp, rfl⟩ := h
  rw [← map_place_of_ofDeclaration? hd hp]
  cases p with
  | none => rfl
  | some p =>
    rw [Option.map_some, Option.filter_some, Option.filter_some, isKept_eq]
    split <;> rfl

theorem map_place_of_keptAll {vs : List Value} {ps : List Parameter}
    (h : keptAll doc settings vs = .ok ps) :
    ps.map place = (vs.filterMap (place? doc)).filter (isListed settings) := by
  induction vs generalizing ps with
  | nil =>
    cases h
    rfl
  | cons v vs ih =>
    simp only [keptAll, bind_eq_ok, pure_eq_ok] at h
    obtain ⟨o, ho, qs, hqs, rfl⟩ := h
    have hhead := map_place_of_kept? ho
    rw [List.map_append, ih hqs, ← Option.toList_map, hhead]
    cases hplace : place? doc v with
    | none => rw [List.filterMap_cons_none hplace]; rfl
    | some place =>
      rw [List.filterMap_cons_some hplace, List.filter_cons, Option.filter_some]
      split <;> rfl

/-- **A list of declarations leaves the places that it names and that are listed.** -/
theorem map_place_of_kept {v : Value} {ps : List Parameter} (h : kept doc settings v = .ok ps) :
    ps.map place = (places doc v).filter (isListed settings) := by
  unfold kept at h
  unfold places
  cases hvs : v.items? with
  | none =>
    rw [hvs] at h
    cases h
    rfl
  | some vs =>
    rw [hvs] at h
    exact map_place_of_keptAll h

theorem mem_map_place_iff {v : Value} {ps : List Parameter} (h : kept doc settings v = .ok ps)
    {place : Location × String} :
    place ∈ ps.map Parameter.place ↔ place ∈ places doc v ∧ isListed settings place = true := by
  rw [map_place_of_kept h, List.mem_filter]

/-- If no place is named twice, then none is left twice. -/
theorem nodup_map_place {v : Value} {ps : List Parameter} (h : kept doc settings v = .ok ps)
    (hplaces : (places doc v).Nodup) : (ps.map place).Nodup := by
  rw [map_place_of_kept h]
  exact hplaces.filter _

/-- Who has a place also has its location. -/
theorem filter_place_filter_location (ps : List Parameter) (pl : Location × String) :
    ((ps.filter fun p => p.location = pl.1).filter fun p => p.place = pl) =
      ps.filter fun p => p.place = pl := by
  rw [List.filter_filter]
  refine List.filter_congr fun p _ => ?_
  by_cases hp : p.place = pl
  · simp [← hp, place]
  · simp [hp]

end Parameter

/-- Of items with different keys one has a given key. -/
theorem exists_filter_eq_singleton {α κ : Type} [DecidableEq κ] {key : α → κ} {l : List α}
    (hl : (l.map key).Nodup) {k : κ} (hk : k ∈ l.map key) :
    ∃ a ∈ l, (l.filter fun b => key b = k) = [a] := by
  induction l with
  | nil => exact absurd hk List.not_mem_nil
  | cons a l ih =>
    rw [List.map_cons, List.nodup_cons] at hl
    by_cases ha : key a = k
    · have hrest : (l.filter fun b => key b = k) = [] := by
        refine List.filter_eq_nil_iff.mpr fun b hb hkey => hl.1 ?_
        rw [ha, ← of_decide_eq_true hkey]
        exact List.mem_map_of_mem hb
      exact ⟨a, List.mem_cons_self, by rw [List.filter_cons_of_pos (by simpa using ha), hrest]⟩
    · have hk' : k ∈ l.map key := (List.mem_cons.mp hk).resolve_left (Ne.symm ha)
      obtain ⟨b, hb, hfilter⟩ := ih hl.2 hk'
      refine ⟨b, List.mem_cons_of_mem a hb, ?_⟩
      rw [List.filter_cons_of_neg (by simpa using ha), hfilter]

/-! ## The lists by location -/

/-- The lists by location, one after the other. -/
def Inputs.bucketed (i : Inputs) : List Parameter :=
  i.pathParameters ++ i.queryParameters ++ i.formParameters ++ i.cookieParameters ++
    i.headerParameters

namespace Operation

open Parameter

variable {path method : String} {declarations operation : Value} {inherited inputs : Inputs}
  {o : Operation} {ps : List Parameter}

/-- The lists by location of an operation hold what is filed. -/
theorem bucketed_assemble_perm (h : inputs.Filed ps) (body : Option Parameter)
    (responses : List Response) :
    (assemble path method operation (inputs.withBody? body) responses settings).bucketed.Perm
      ps := by
  cases body <;> exact h.perm.symm

/-- **Parameters of a path that an operation declares again.**  Let neither the declarations of the
path nor those of the operation name a place twice.  Then the path leaves each place once and so
does the operation, and the lists by location hold the parameters of the path and behind them those
of the operation.  No place is taken twice exactly if no listed place is named by both; and where
both name one, both of its parameters are there, that of the path first. -/
theorem bucketed_of_redeclared
    (hpath : Inputs.declared doc settings declarations = .ok inherited)
    (ho : ofDeclaration doc path method operation inherited settings = .ok o)
    (hpathPlaces : (places doc declarations).Nodup)
    (hownPlaces : (places doc (operation.field "parameters")).Nodup) :
    ∃ ofPath own,
      kept doc settings declarations = .ok ofPath ∧
      kept doc settings (operation.field "parameters") = .ok own ∧
      (ofPath.map place).Nodup ∧ (own.map place).Nodup ∧
      (∀ l, o.bucket l = (ofPath.filter fun p => p.location = l) ++
        own.filter fun p => p.location = l) ∧
      ((o.bucketed.map place).Nodup ↔ ∀ pl ∈ places doc declarations,
        isListed settings pl = true → pl ∉ places doc (operation.field "parameters")) ∧
      ∀ pl, isListed settings pl = true → pl ∈ places doc declarations →
        pl ∈ places doc (operation.field "parameters") →
        ∃ p ∈ ofPath, ∃ q ∈ own, ((o.bucket pl.1).filter fun r => r.place = pl) = [p, q] := by
  obtain ⟨ofPath, own, inputs, body, responses, hofPath, hown, hfiled, -, -, rfl, -, -⟩ :=
    exists_filed_of_ofDeclaration hpath ho
  have hbucket : ∀ l, (assemble path method operation (inputs.withBody? body) responses
      settings).bucket l = (ofPath ++ own).filter fun p => p.location = l := by
    intro l
    rw [bucket_assemble, Inputs.bucket_withBody?, hfiled.bucket_eq]
  have hofPathNodup := nodup_map_place hofPath hpathPlaces
  have hownNodup := nodup_map_place hown hownPlaces
  refine ⟨ofPath, own, hofPath, hown, hofPathNodup, hownNodup, ?_, ?_, ?_⟩
  · intro l
    rw [hbucket, List.filter_append]
  · rw [((bucketed_assemble_perm hfiled body responses).map place).nodup_iff, List.map_append,
      List.nodup_append']
    constructor
    · rintro ⟨-, -, hdisjoint⟩ pl hp hlisted hq
      exact hdisjoint ((mem_map_place_iff hofPath).mpr ⟨hp, hlisted⟩)
        ((mem_map_place_iff hown).mpr ⟨hq, hlisted⟩)
    · intro hnone
      refine ⟨hofPathNodup, hownNodup, fun pl hp hq => ?_⟩
      obtain ⟨hp, hlisted⟩ := (mem_map_place_iff hofPath).mp hp
      exact hnone pl hp hlisted ((mem_map_place_iff hown).mp hq).1
  · intro pl hlisted hp hq
    obtain ⟨p, hmemp, hp⟩ :=
      exists_filter_eq_singleton hofPathNodup ((mem_map_place_iff hofPath).mpr ⟨hp, hlisted⟩)
    obtain ⟨q, hmemq, hq⟩ :=
      exists_filter_eq_singleton hownNodup ((mem_map_place_iff hown).mpr ⟨hq, hlisted⟩)
    refine ⟨p, hmemp, q, hmemq, ?_⟩
    rw [hbucket, filter_place_filter_location, List.filter_append, hp, hq]
    rfl

/-- A limit on the query, with a description and a type. -/
def sampleBound (description type : String) : Value :=
  .mapping [(.text "in", .text "query"), (.text "name", .text "limit"),
    (.text "description", .text description),
    (.text "schema", .mapping [(.text "type", .text type)])]

/-- A list with the limit of a path. -/
def samplePathLimits : Value := .list [sampleBound "of the path" "integer"]

/-- An operation with a limit and a tenant of its own. -/
def sampleOwnLimits : Value :=
  .mapping [(.text "parameters", .list [sampleBound "of the operation" "string",
    .mapping [(.text "in", .text "header"), (.text "name", .text "tenant")]])]

theorem bucketed_of_redeclared_limit :
    ∃ inherited o, Inputs.declared .empty {} samplePathLimits = .ok inherited ∧
      ofDeclaration .empty "/pets" "get" sampleOwnLimits inherited = .ok o ∧
      (places .empty samplePathLimits).Nodup ∧
      (places .empty (sampleOwnLimits.field "parameters")).Nodup ∧
      ¬ (o.bucketed.map place).Nodup ∧
      ∃ p q, ((o.bucket .query).filter fun r => r.place = (.query, "limit")) = [p, q] := by
  obtain ⟨inherited, hpath⟩ : ∃ i, Inputs.declared .empty {} samplePathLimits = .ok i := ⟨_, rfl⟩
  obtain ⟨o, ho⟩ : ∃ o, ofDeclaration .empty "/pets" "get" sampleOwnLimits inherited = .ok o :=
    ⟨_, rfl⟩
  have hpathPlaces : places .empty samplePathLimits = [(.query, "limit")] := rfl
  have hownPlaces : places .empty (sampleOwnLimits.field "parameters") =
      [(.query, "limit"), (.header, "tenant")] := rfl
  have hpathNodup : (places .empty samplePathLimits).Nodup := by
    rw [hpathPlaces]
    decide
  have hownNodup : (places .empty (sampleOwnLimits.field "parameters")).Nodup := by
    rw [hownPlaces]
    decide
  obtain ⟨ofPath, own, -, -, -, -, -, hiff, hboth⟩ :=
    bucketed_of_redeclared hpath ho hpathNodup hownNodup
  rw [hpathPlaces, hownPlaces] at hiff hboth
  obtain ⟨p, -, q, -, hpq⟩ := hboth (.query, "limit") (by decide) (by decide) (by decide)
  refine ⟨inherited, o, hpath, ho, hpathNodup, hownNodup, fun hnodup => ?_, p, q, hpq⟩
  exact hiff.mp hnodup (.query, "limit") (by decide) (by decide) (by decide)

/-- Two parameters on the query whose names differ until they are sent. -/
def sampleOnes : Value :=
  .list [.mapping [(.text "in", .text "query"), (.text "name", .scalar (.int 1))],
    .mapping [(.text "in", .text "query"), (.text "name", .text "1")]]

/-- **A limit that is declared twice is there twice.**  A path and its operation each declare one
limit on the query, and both become parameters of the operation.  And the number one and the text
are different names in a document, but name one place. -/
theorem bucketed_of_two_limits :
    (∃ inherited o, Inputs.declared .empty {} samplePathLimits = .ok inherited ∧
      ofDeclaration .empty "/pets" "get" (.mapping [(.text "parameters",
        .list [sampleBound "of the operation" "string"])]) inherited = .ok o ∧
      o.bucketed.map place = [(.query, "limit"), (.query, "limit")] ∧
      o.bucketed.map (fun p => p.description) = [some "of the path", some "of the operation"]) ∧
    ∃ o, ofDeclaration .empty "/pets" "get" (.mapping [(.text "parameters", sampleOnes)]) {} =
        .ok o ∧
      o.bucketed.map place = [(.query, "1"), (.query, "1")] :=
  ⟨⟨_, _, rfl, rfl, rfl, rfl⟩, _, rfl, rfl⟩

end Operation
end ServiceCatalog
