import Mathlib.Data.List.TakeWhile
import Mathlib.Data.String.Basic
import ServiceCatalog.Api.Content
import ServiceCatalog.Proofs.Reach

/-!
# Which content is chosen

A body is documented in several media types, and one of them is chosen by two rules.  The first
entry counts that carries a schema and whose media type is listed; if there is none, the first one
that carries a schema at all.  `Content.select` follows them in one pass over the entries, after it
has brought the listed ones to the front.

`Content.IsChosen mediaTypes before e after` states the rules for an entry `e` with the entries
`before` and `after` it.  It speaks of a mapping and not of the program, down to the name of a media
type (`IsMediaTypeName`) and to what carrying a schema means (`Content.Carries`).

* `Content.select_eq_of_isChosen` and `Content.exists_isChosen`: the entry that is chosen by the
  rules is the one that is selected, and there is one if any entry carries a schema.
* `Content.IsChosen.of_others`: an entry stays chosen wherever no other entries with a schema come
  in.  This is read off the rules, since they only ever say what the other entries are *not*.
* `Content.select_by_rules`: the selection, and what it does not depend on.
-/

namespace ServiceCatalog

/-! ## Names of media types -/

namespace Text

theorem before_cons (cut c : Char) (cs : List Char) :
    before cut (c :: cs) = if c = cut then [] else c :: before cut cs := by
  simp only [before, pieces, beq_iff_eq]
  split <;> rfl

/-- What stands before the first cut ends there, or at the end of the text. -/
theorem before_eq_iff {cut : Char} {cs front : List Char} :
    before cut cs = front ↔ cut ∉ front ∧ (cs = front ∨ ∃ rest, cs = front ++ cut :: rest) := by
  constructor
  · rintro rfl
    induction cs with
    | nil => exact ⟨List.not_mem_nil, .inl rfl⟩
    | cons c cs ih =>
      rw [before_cons]
      split
      · rename_i hc
        exact ⟨List.not_mem_nil, .inr ⟨cs, hc ▸ rfl⟩⟩
      · rename_i hc
        refine ⟨?_, ?_⟩
        · rw [List.mem_cons, not_or]
          exact ⟨Ne.symm hc, ih.1⟩
        · rcases ih.2 with hwhole | ⟨rest, hrest⟩
          · exact .inl (congrArg (c :: ·) hwhole)
          · exact .inr ⟨rest, congrArg (c :: ·) hrest⟩
  · rintro ⟨hnotMem, hsplit⟩
    induction front generalizing cs with
    | nil =>
      rcases hsplit with rfl | ⟨rest, rfl⟩
      · rfl
      · rw [List.nil_append, before_cons, if_pos rfl]
    | cons c front ih =>
      rw [List.mem_cons, not_or] at hnotMem
      obtain ⟨hne, hnotMem⟩ := hnotMem
      rcases hsplit with rfl | ⟨rest, rfl⟩
      · rw [before_cons, if_neg (Ne.symm hne), ih hnotMem (.inl rfl)]
      · rw [List.cons_append, before_cons, if_neg (Ne.symm hne), ih hnotMem (.inr ⟨rest, rfl⟩)]

/-- Neither end of a text is blank. -/
def HasBareEnds (cs : List Char) : Prop :=
  (∀ c ∈ cs.head?, isBlank c = false) ∧ ∀ c ∈ cs.getLast?, isBlank c = false

theorem dropWhile_blanks_append {blanks cs : List Char} (hblanks : ∀ c ∈ blanks, isBlank c = true)
    (hcs : ∀ c ∈ cs.head?, isBlank c = false) : (blanks ++ cs).dropWhile isBlank = cs := by
  rw [List.dropWhile_append_of_pos hblanks]
  cases cs with
  | nil => rfl
  | cons c cs => exact List.dropWhile_cons_of_neg (by simp [hcs c rfl])

theorem isBlank_of_head?_dropWhile {cs : List Char} :
    ∀ c ∈ (cs.dropWhile isBlank).head?, isBlank c = false := by
  intro c hc
  have h := List.head?_dropWhile_not isBlank cs
  rwa [Option.mem_def.mp hc] at h

/-- What is trimmed off are the blanks at both ends. -/
theorem trim_eq_iff {cs name : List Char} :
    trim cs = name ↔ HasBareEnds name ∧ ∃ left right, cs = left ++ name ++ right ∧
      (∀ c ∈ left, isBlank c = true) ∧ ∀ c ∈ right, isBlank c = true := by
  constructor
  · rintro rfl
    have hleft : cs = cs.takeWhile isBlank ++ cs.dropWhile isBlank :=
      List.takeWhile_append_dropWhile.symm
    have hright : cs.dropWhile isBlank =
        trim cs ++ ((cs.dropWhile isBlank).reverse.takeWhile isBlank).reverse := by
      rw [trim, trimEnd, ← List.reverse_append, List.takeWhile_append_dropWhile,
        List.reverse_reverse]
    refine ⟨⟨fun c hc => ?_, fun c hc => ?_⟩, cs.takeWhile isBlank,
      ((cs.dropWhile isBlank).reverse.takeWhile isBlank).reverse, ?_, fun c hc => ?_,
      fun c hc => ?_⟩
    · -- what is left starts like the text without the blanks in front
      have hhead : c ∈ (cs.dropWhile isBlank).head? := by
        rw [hright, List.head?_append, hc, Option.some_or]
        exact Option.mem_some_self c
      exact isBlank_of_head?_dropWhile c hhead
    · rw [trim, trimEnd, List.getLast?_reverse] at hc
      exact isBlank_of_head?_dropWhile c hc
    · rw [List.append_assoc, ← hright]
      exact hleft
    · exact List.mem_takeWhile_imp hc
    · exact List.mem_takeWhile_imp (List.mem_reverse.mp hc)
  · rintro ⟨hends, left, right, rfl, hleft, hright⟩
    by_cases hname : name = []
    · have hall : ∀ c ∈ left ++ right, isBlank c = true :=
        fun c hc => (List.mem_append.mp hc).elim (hleft c) (hright c)
      rw [hname, List.append_nil, trim, List.dropWhile_eq_nil_iff.mpr hall]
      rfl
    · have hstart : ∀ c ∈ (name ++ right).head?, isBlank c = false := by
        rw [List.head?_append_of_ne_nil name hname]
        exact hends.1
      have hend : ∀ c ∈ name.reverse.head?, isBlank c = false := by
        rw [List.head?_reverse]
        exact hends.2
      rw [trim, List.append_assoc, dropWhile_blanks_append hleft hstart, trimEnd,
        List.reverse_append,
        dropWhile_blanks_append (fun c hc => hright c (List.mem_reverse.mp hc)) hend,
        List.reverse_reverse]

end Text

/-- The name of a media type stands in front of the first `;` and has blanks around it at most. -/
def IsMediaTypeName (text name : List Char) : Prop :=
  ∃ left right rest, text = left ++ name ++ right ++ rest ∧ (rest = [] ∨ rest.head? = some ';') ∧
    ';' ∉ left ++ name ++ right ∧ Text.HasBareEnds name ∧
    (∀ c ∈ left, Text.isBlank c = true) ∧ ∀ c ∈ right, Text.isBlank c = true

theorem baseMediaType_eq_iff {mediaType name : String} :
    baseMediaType mediaType = name ↔ IsMediaTypeName mediaType.toList name.toList := by
  rw [baseMediaType, String.ofList_eq, Text.trim_eq_iff]
  constructor
  · rintro ⟨hends, left, right, hfront, hleft, hright⟩
    obtain ⟨hnotMem, hsplit⟩ := Text.before_eq_iff.mp hfront
    rcases hsplit with hwhole | ⟨rest, hrest⟩
    · exact ⟨left, right, [], by rw [List.append_nil, hwhole], .inl rfl, hnotMem, hends, hleft,
        hright⟩
    · exact ⟨left, right, ';' :: rest, hrest, .inr rfl, hnotMem, hends, hleft, hright⟩
  · rintro ⟨left, right, rest, htext, hrest, hnotMem, hends, hleft, hright⟩
    refine ⟨hends, left, right, Text.before_eq_iff.mpr ⟨hnotMem, ?_⟩, hleft, hright⟩
    rcases hrest with rfl | hrest
    · exact .inl (by rw [htext, List.append_nil])
    · obtain ⟨rest, rfl⟩ := List.head?_eq_some_iff.mp hrest
      exact .inr ⟨rest, htext⟩

/-! ## The rules -/

namespace Content

/-- An entry carries a schema: it is a mapping, and there is something under `schema` that is
neither null nor the empty text. -/
def Carries (e : Scalar × Value) (schema : Value) : Prop :=
  e.2.isMapping = true ∧ e.2.field? "schema" = some schema ∧ schema ≠ .null ∧ schema ≠ .text ""

/-- An entry carries some schema. -/
def HasSchema (e : Scalar × Value) : Prop := ∃ schema, Carries e schema

/-- The key of an entry, taken as a text, has the name of a listed media type. -/
def HasListedName (mediaTypes : List String) (e : Scalar × Value) : Prop :=
  ∃ name ∈ mediaTypes, IsMediaTypeName e.1.plainText.toList name.toList

/-- With the entries `before` in front of it, an entry is the first one with a property. -/
def IsFirst (P : Scalar × Value → Prop) (before : Entries) (e : Scalar × Value) : Prop :=
  P e ∧ ∀ d ∈ before, ¬ P d

/-- **The rules.**  Of the entries `before ++ e :: after` the choice is `e`: it is the first one
that carries a schema and is listed; or no entry does both, and it is the first one that carries a
schema. -/
def IsChosen (mediaTypes : List String) (before : Entries) (e : Scalar × Value) (after : Entries) :
    Prop :=
  IsFirst (fun d => HasSchema d ∧ HasListedName mediaTypes d) before e ∨
    (∀ d ∈ before ++ e :: after, ¬ (HasSchema d ∧ HasListedName mediaTypes d)) ∧
      IsFirst HasSchema before e

section rules

variable {mediaTypes : List String} {before before' after after' es : Entries} {e : Scalar × Value}

theorem IsChosen.hasSchema (h : IsChosen mediaTypes before e after) : HasSchema e :=
  h.elim (fun h => h.1.1) fun h => h.2.1

/-- An entry stays chosen wherever no other entries with a schema come in, before or after it. -/
theorem IsChosen.of_others (h : IsChosen mediaTypes before e after)
    (hbefore : ∀ d ∈ before', HasSchema d → d ∈ before)
    (hafter : ∀ d ∈ after', HasSchema d → d ∈ after) : IsChosen mediaTypes before' e after' := by
  rcases h with ⟨he, hfirst⟩ | ⟨hnone, he, hfirst⟩
  · exact .inl ⟨he, fun d hd hboth => hfirst d (hbefore d hd hboth.1) hboth⟩
  · refine .inr ⟨fun d hd hboth => ?_, he, fun d hd hd' => hfirst d (hbefore d hd hd') hd'⟩
    rcases List.mem_append.mp hd with hd | hd
    · exact hnone d (List.mem_append_left _ (hbefore d hd hboth.1)) hboth
    · rcases List.mem_cons.mp hd with rfl | hd
      · exact hnone d (List.mem_append_right _ List.mem_cons_self) hboth
      · exact hnone d (List.mem_append_right _ (List.mem_cons_of_mem e (hafter d hd hboth.1))) hboth

/-- Of the entries that have a property there is a first one. -/
theorem exists_isFirst {P : Scalar × Value → Prop} (h : ∃ e ∈ es, P e) :
    ∃ before e after, es = before ++ e :: after ∧ IsFirst P before e := by
  induction es with
  | nil =>
    obtain ⟨e, he, -⟩ := h
    exact absurd he List.not_mem_nil
  | cons d es ih =>
    by_cases hd : P d
    · exact ⟨[], d, es, rfl, hd, fun _ h => absurd h List.not_mem_nil⟩
    · obtain ⟨e, he, hP⟩ := h
      have he : e ∈ es := (List.mem_cons.mp he).resolve_left fun heq => hd (heq ▸ hP)
      obtain ⟨before, e, after, rfl, hfirst⟩ := ih ⟨e, he, hP⟩
      exact ⟨d :: before, e, after, rfl, hfirst.1, List.forall_mem_cons.mpr ⟨hd, hfirst.2⟩⟩

/-- **If some entry carries a schema, one is chosen.** -/
theorem exists_isChosen (mediaTypes : List String) (h : ∃ e ∈ es, HasSchema e) :
    ∃ before e after, es = before ++ e :: after ∧ IsChosen mediaTypes before e after := by
  by_cases hboth : ∃ e ∈ es, HasSchema e ∧ HasListedName mediaTypes e
  · obtain ⟨before, e, after, hes, hfirst⟩ := exists_isFirst hboth
    exact ⟨before, e, after, hes, .inl hfirst⟩
  · obtain ⟨before, e, after, rfl, hfirst⟩ := exists_isFirst h
    exact ⟨before, e, after, rfl, .inr ⟨fun d hd hd' => hboth ⟨d, hd, hd'⟩, hfirst⟩⟩

end rules

/-! ## The selection follows the rules -/

variable {content : Value} {mediaTypes : List String} {before after : Entries}
  {e : Scalar × Value}

theorem isListed_iff : isListed mediaTypes e = true ↔ HasListedName mediaTypes e := by
  rw [isListed, List.contains_iff_mem]
  constructor
  · exact fun h => ⟨_, h, baseMediaType_eq_iff.mp rfl⟩
  · rintro ⟨name, hname, hof⟩
    rwa [baseMediaType_eq_iff.mpr hof]

/-- What is not null is there. -/
theorem field?_of_field {v w : Value} {name : String} (h : v.field name = w) (hw : w ≠ .null) :
    v.field? name = some w := by
  unfold Value.field at h
  cases hfield : v.field? name with
  | none =>
    rw [hfield] at h
    exact absurd h.symm hw
  | some u =>
    rw [hfield] at h
    exact congrArg some h

theorem schema?_eq_some_iff {v schema : Value} : schema? v = some schema ↔
    v.field? "schema" = some schema ∧ schema ≠ .null ∧ schema ≠ .text "" := by
  unfold schema?
  constructor
  · intro h
    split at h
    · cases h
    · rename_i s hfield
      split at h
      · cases h
      · rename_i hs
        cases h
        refine ⟨field?_of_field hfield nofun, nofun, fun heq => hs ?_⟩
        injection heq with heq
        injection heq
    · rename_i hnull htext
      cases h
      exact ⟨field?_of_field rfl hnull, hnull, htext ""⟩
  · rintro ⟨hfield, hnull, htext⟩
    have hfield : v.field "schema" = schema := by rw [Value.field, hfield, Option.getD_some]
    rw [hfield]
    split
    · exact absurd rfl hnull
    · rename_i s
      rw [if_neg fun hs => htext (by rw [hs])]
    · rfl

/-- An entry is offered exactly as what it carries. -/
theorem ofEntry?_eq_some_iff {c : Content} :
    ofEntry? e = some c ↔ c.mediaType = e.1.plainText ∧ Carries e c.schema := by
  unfold ofEntry?
  rw [Option.map_eq_some_iff]
  constructor
  · rintro ⟨schema, hschema, rfl⟩
    obtain ⟨hfield, hsome⟩ := schema?_eq_some_iff.mp hschema
    exact ⟨rfl, Value.isMapping_of_field? hfield, hfield, hsome⟩
  · rintro ⟨hmediaType, -, hcarries⟩
    refine ⟨c.schema, schema?_eq_some_iff.mpr hcarries, ?_⟩
    rw [← hmediaType]

theorem ofEntry?_eq_none_iff : ofEntry? e = none ↔ ¬ HasSchema e := by
  rw [Option.eq_none_iff_forall_ne_some]
  constructor
  · rintro h ⟨schema, hcarries⟩
    exact h ⟨_, schema⟩ (ofEntry?_eq_some_iff.mpr ⟨rfl, hcarries⟩)
  · intro h c hc
    exact h ⟨c.schema, (ofEntry?_eq_some_iff.mp hc).2⟩

theorem select_eq_none_iff :
    select content mediaTypes = none ↔ ∀ e ∈ content.entries, ¬ HasSchema e := by
  rw [select, List.findSome?_eq_none_iff]
  constructor
  · intro h e he
    refine ofEntry?_eq_none_iff.mp (h e ?_)
    by_cases hlisted : isListed mediaTypes e = true
    · exact List.mem_append_left _ (List.mem_filter.mpr ⟨he, hlisted⟩)
    · exact List.mem_append_right _ (List.mem_filter.mpr ⟨he, by simpa using hlisted⟩)
  · intro h e he
    refine ofEntry?_eq_none_iff.mpr (h e ?_)
    exact (List.mem_append.mp he).elim List.mem_of_mem_filter List.mem_of_mem_filter

/-- **What the rules choose is selected.** -/
theorem select_eq_of_isChosen (hes : content.entries = before ++ e :: after)
    (h : IsChosen mediaTypes before e after) : select content mediaTypes = ofEntry? e := by
  obtain ⟨schema, hschema⟩ := h.hasSchema
  obtain ⟨c, hc⟩ : ∃ c, ofEntry? e = some c :=
    ⟨⟨e.1.plainText, schema⟩, ofEntry?_eq_some_iff.mpr ⟨rfl, hschema⟩⟩
  have hnone : ∀ d, ¬ (HasSchema d ∧ HasListedName mediaTypes d) →
      isListed mediaTypes d = true → ofEntry? d = none := fun d hd hlisted =>
    ofEntry?_eq_none_iff.mpr fun hschema => hd ⟨hschema, isListed_iff.mp hlisted⟩
  rw [hc, select, hes, List.findSome?_append]
  rcases h with ⟨⟨-, hlisted⟩, hfirst⟩ | ⟨hothers, -, hfirst⟩
  · have hfound : ((before ++ e :: after).filter (isListed mediaTypes)).findSome? ofEntry? =
        some c := by
      rw [List.filter_append, List.filter_cons_of_pos (isListed_iff.mpr hlisted)]
      refine List.findSome?_eq_some_iff.mpr ⟨_, e, _, rfl, hc, fun d hd => ?_⟩
      obtain ⟨hd, hlisted⟩ := List.mem_filter.mp hd
      exact hnone d (hfirst d hd) hlisted
    rw [hfound, Option.some_or]
  · have hlisted : ((before ++ e :: after).filter (isListed mediaTypes)).findSome? ofEntry? =
        none := by
      refine List.findSome?_eq_none_iff.mpr fun d hd => ?_
      obtain ⟨hd, hlisted⟩ := List.mem_filter.mp hd
      exact hnone d (hothers d hd) hlisted
    have hunlisted : (!isListed mediaTypes e) = true := by
      rw [Bool.not_eq_true', ← Bool.not_eq_true, isListed_iff]
      exact fun h => hothers e (List.mem_append_right _ List.mem_cons_self) ⟨⟨schema, hschema⟩, h⟩
    rw [hlisted, Option.none_or, List.filter_append,
      List.filter_cons_of_pos (p := fun d => !isListed mediaTypes d) hunlisted]
    refine List.findSome?_eq_some_iff.mpr ⟨_, e, _, rfl, hc, fun d hd => ?_⟩
    exact ofEntry?_eq_none_iff.mpr (hfirst d (List.mem_of_mem_filter hd))

theorem HasListedName.congr {names : List String} (h : ∀ name, name ∈ names ↔ name ∈ mediaTypes)
    (e : Scalar × Value) : HasListedName names e ↔ HasListedName mediaTypes e := by
  simp only [HasListedName, h]

/-- **Which content is chosen.**  A content is selected exactly if it is what the chosen entry
carries, under the text of its key, and none is selected exactly if no entry carries a schema.  So
the selection stays the same in a mapping that has the chosen entry in it, has no others with a
schema before or after it than before, and whatever entries without one: other entries may be taken
away and entries without a schema put in.  Of the list of media types only counts what is in it. -/
theorem select_by_rules (content : Value) (mediaTypes : List String) :
    (∀ c, select content mediaTypes = some c ↔ ∃ before e after,
      content.entries = before ++ e :: after ∧ IsChosen mediaTypes before e after ∧
        c.mediaType = e.1.plainText ∧ Carries e c.schema) ∧
    (select content mediaTypes = none ↔ ∀ e ∈ content.entries, ¬ HasSchema e) ∧
    (∀ before e after, content.entries = before ++ e :: after →
      IsChosen mediaTypes before e after → ∀ (other : Value) before' after',
      other.entries = before' ++ e :: after' → (∀ d ∈ before', HasSchema d → d ∈ before) →
      (∀ d ∈ after', HasSchema d → d ∈ after) →
      select other mediaTypes = select content mediaTypes) ∧
    ∀ names : List String, (∀ name, name ∈ names ↔ name ∈ mediaTypes) →
      select content names = select content mediaTypes := by
  refine ⟨fun c => ⟨fun h => ?_, ?_⟩, select_eq_none_iff, ?_, fun names hnames => ?_⟩
  · have hex : ∃ e ∈ content.entries, HasSchema e := by
      by_contra hnone
      have hall : ∀ e ∈ content.entries, ¬ HasSchema e := fun e he hs => hnone ⟨e, he, hs⟩
      rw [select_eq_none_iff.mpr hall] at h
      cases h
    obtain ⟨before, e, after, hes, hchosen⟩ := exists_isChosen mediaTypes hex
    rw [select_eq_of_isChosen hes hchosen] at h
    exact ⟨before, e, after, hes, hchosen, ofEntry?_eq_some_iff.mp h⟩
  · rintro ⟨before, e, after, hes, hchosen, hc⟩
    rw [select_eq_of_isChosen hes hchosen]
    exact ofEntry?_eq_some_iff.mpr hc
  · intro before e after hes hchosen other before' after' hother hbefore hafter
    rw [select_eq_of_isChosen hes hchosen,
      select_eq_of_isChosen hother (hchosen.of_others hbefore hafter)]
  · have hlisted : ∀ e, isListed names e = isListed mediaTypes e := fun e => by
      rw [Bool.eq_iff_iff, isListed_iff, isListed_iff, HasListedName.congr hnames]
    simp only [select, funext hlisted]

/-- A picture without a schema, and a text that is not listed. -/
def unlistedOffers : Entries :=
  [(.text "image/png", .mapping []),
    (.text "application/xml", .mapping [(.text "schema", .text "xml")])]

/-- A text that is listed, although not under this very name. -/
def listedOffer : Scalar × Value :=
  (.text "application/json; charset=utf-8", .mapping [(.text "schema", .bool true)])

/-- The listed text comes last. -/
def sampleOffers : Value := .mapping (unlistedOffers ++ [listedOffer])

/-- The others are away, and there is a further one without a schema. -/
def sampleFewerOffers : Value :=
  .mapping [listedOffer, (.text "text/plain", .mapping [(.text "schema", .text "")])]

theorem select_by_rules_sampleOffers :
    IsChosen defaultMediaTypes unlistedOffers listedOffer [] ∧
      select sampleOffers = some ⟨"application/json; charset=utf-8", .bool true⟩ ∧
      select sampleFewerOffers = select sampleOffers := by
  have hcarries : Carries listedOffer (.bool true) := ⟨rfl, rfl, nofun, nofun⟩
  have hlisted : HasListedName defaultMediaTypes listedOffer :=
    isListed_iff.mp (by decide +kernel)
  have hunlisted : ∀ d ∈ unlistedOffers, isListed defaultMediaTypes d = false := by
    refine List.forall_mem_cons.mpr ⟨by decide +kernel, List.forall_mem_singleton.mpr ?_⟩
    decide +kernel
  have hchosen : IsChosen defaultMediaTypes unlistedOffers listedOffer [] := by
    refine .inl ⟨⟨⟨_, hcarries⟩, hlisted⟩, fun d hd h => ?_⟩
    have hd' : isListed defaultMediaTypes d = true := isListed_iff.mpr h.2
    rw [hunlisted d hd] at hd'
    cases hd'
  obtain ⟨hselect, -, hothers, -⟩ := select_by_rules sampleOffers defaultMediaTypes
  refine ⟨hchosen, ?_, ?_⟩
  · exact (hselect _).mpr ⟨unlistedOffers, listedOffer, [], rfl, hchosen, rfl, hcarries⟩
  · refine hothers unlistedOffers listedOffer [] rfl hchosen sampleFewerOffers [] [_] rfl nofun
      fun d hd h => ?_
    -- the text that comes after carries nothing
    rw [List.mem_singleton.mp hd] at h
    exact absurd h (ofEntry?_eq_none_iff.mp rfl)

end Content
end ServiceCatalog
