import ServiceCatalog.Proofs.SchemaCongruence

/-!
# Two spellings of "or null"

A schema of type `t` allows null if it says `nullable: true`, and also if it gives the list of `t`
and `null` for its type.  The two are read in different ways: one sets a flag, and the other is
found when `null` is taken out of the list.  This file shows that it does not matter which spelling
a document uses, and that every schema inside of a schema may use its own.

`Respelled v w` says that `w` is `v` with the list in place of the flag in some schemas inside.  Two
such schemas have the same type (`effectiveType_eq_of_nullability`), also if `t` is `null` itself,
and then the congruence of schemas carries the equality from the parts to the whole.
-/

namespace ServiceCatalog
namespace Schema

/-- What two schemas say about null: the same, or the second has a list of types for a type next to
a flag. -/
inductive Nullability (es fs : Entries) : Prop
  | same (htype : es.get? "type" = fs.get? "type")
      (hnullable : es.get? "nullable" = fs.get? "nullable")
  | respelled (t : String) (htype : es.get? "type" = some (.text t))
      (hnullable : es.get? "nullable" = some (.bool true))
      (htypes : fs.get? "type" = some (.list [.text t, .text "null"]))
      (hnone : fs.get? "nullable" = none)

/-- **The second schema is the first one, with the list of types for the flag at any set of
places.**  These are the schema itself and the schemas that stand in it under some keyword, and the
schemas in these. -/
inductive Respelled : Value → Value → Prop
  | same (v : Value) : Respelled v v
  | mapping {v w : Value} {es fs : Entries} (hv : v.entries? = some es) (hw : w.entries? = some fs)
      (hnullability : Nullability es fs)
      (hfields : ∀ key, key ≠ "type" → key ≠ "nullable" →
        FieldRel Respelled key (es.get? key) (fs.get? key)) : Respelled v w

variable {v w : Value} {es fs : Entries}

/-- Both spellings give the same type, and the same answer to whether null is allowed. -/
theorem effectiveType_eq_of_nullability (h : Nullability es fs)
    (hfields : FieldsRel Respelled es fs) :
    effectiveType (.mapping es) = effectiveType (.mapping fs) := by
  cases h with
  | same htype hnullable =>
    have hhas : ∀ key, key ≠ "type" → key ≠ "nullable" →
        (Value.mapping es).has key = (Value.mapping fs).has key := by
      intro key hne hne'
      rw [Value.has, Value.has, ← Option.not_isNone, ← Option.not_isNone]
      exact congrArg not (hfields key hne hne').isNone_eq
    exact effectiveType_congr htype hnullable (hhas _ (by decide) (by decide))
      (hhas _ (by decide) (by decide))
  | respelled t htype hnullable htypes hnone =>
    have hflag : effectiveType (.mapping es) = (some t, true) := by
      simp [effectiveType, Value.field, htype, hnullable, Value.text?, Value.isTrue]
    have hlist : effectiveType (.mapping fs) = (some t, true) := by
      by_cases ht : t = "null"
      all_goals simp [effectiveType, Value.field, htypes, hnone, Value.text?, ht]
    rw [hflag, hlist]

theorem isMapping_eq_of_respelled (h : Respelled v w) : v.isMapping = w.isMapping := by
  cases h with
  | same => rfl
  | mapping hv hw => rw [Value.isMapping, Value.isMapping, hv, hw]; rfl

/-- Two spellings of a schema are described alike, wherever they stand. -/
theorem equivalent_of_respelled (h : Respelled v w) : Equivalent v w := by
  -- The parts are those of the first spelling, and each of them is respelled by one of the second.
  induction v using partInduction generalizing w with
  | whole v ih =>
    cases h with
    | same => exact .refl v
    | mapping hv hw hnullability hfields =>
      have htype : effectiveType v = effectiveType w := by
        rw [effectiveType_of_entries? hv, effectiveType_of_entries? hw]
        exact effectiveType_eq_of_nullability hnullability hfields
      exact equivalent_of_fieldsRel hv hw htype hfields .same
        (fun _ _ h => isMapping_eq_of_respelled h) fun a ha b hab => ih _ hv a ha hab

/-- **The two spellings of nullability agree at every depth.**  The model of a schema stays the same
if any of the schemas inside of it changes its spelling, with all that the model holds. -/
theorem resolve_eq_of_respelled (h : Respelled v w) (name : String) (isDefinition : Bool) :
    resolve name isDefinition v = resolve name isDefinition w :=
  (equivalent_of_respelled h).resolve_eq name isDefinition

/-! ## A schema in both spellings -/

/-- A type and a flag in front of the other entries. -/
def flagged (t : String) (es : Entries) : Value :=
  .mapping ((.text "type", .text t) :: (.text "nullable", .bool true) :: es)

/-- A list of types in front of the other entries. -/
def listed (t : String) (es : Entries) : Value :=
  .mapping ((.text "type", .list [.text t, .text "null"]) :: es)

/-- The list may stand for the flag, and the other entries may be respelled as well. -/
theorem respelled_flagged_listed (t : String) (h : FieldsRel Respelled es fs)
    (hnone : fs.get? "nullable" = none) : Respelled (flagged t es) (listed t fs) := by
  refine .mapping rfl rfl (.respelled t rfl rfl rfl ?_) fun key htype hnullable => ?_
  · simpa [Entries.get?] using hnone
  · simpa [Entries.get?, Ne.symm htype, Ne.symm hnullable] using h key htype hnullable

/-- A pet that may be null, and so may be its names, its sizes and its owner. -/
def samplePet (spell : String → Entries → Value) : Value :=
  spell "object" [(.text "properties", .mapping [
    (.text "names", spell "array" [(.text "items", spell "string" [])]),
    (.text "sizes", spell "object" [(.text "additionalProperties", spell "number" [])]),
    (.text "owner", .mapping [(.text "oneOf", .list [spell "string" [], spell "null" []])])])]

theorem respelled_samplePet : Respelled (samplePet flagged) (samplePet listed) := by
  have hplain : ∀ t, Respelled (flagged t []) (listed t []) :=
    fun t => respelled_flagged_listed t .nil rfl
  have hnames := respelled_flagged_listed "array"
    (.cons (.element (by decide : "items" ∈ elementKeys) (hplain "string")) .nil) rfl
  have hsizes := respelled_flagged_listed "object"
    (.cons (.element (by decide : "additionalProperties" ∈ elementKeys) (hplain "number")) .nil) rfl
  have hmembers : List.Forall₂ Respelled [flagged "string" [], flagged "null" []]
      [listed "string" [], listed "null" []] := .cons (hplain _) (.cons (hplain _) .nil)
  have howner : FieldsRel Respelled _ _ :=
    .cons (.members (by decide : "oneOf" ∈ compositionKeys) (Value.items?_list _)
      (Value.items?_list _) hmembers) .nil
  refine respelled_flagged_listed "object" (.cons (.properties (Value.entries?_mapping _)
    (Value.entries?_mapping _) ?_) .nil) rfl
  exact .cons (.mk _ hnames) (.cons (.mk _ hsizes)
    (.cons (.mk _ (.mapping rfl rfl (.same rfl rfl) howner)) .nil))

theorem resolve_samplePet :
    resolve "pet" false (samplePet flagged) = resolve "pet" false (samplePet listed) :=
  resolve_eq_of_respelled respelled_samplePet "pet" false

end Schema
end ServiceCatalog
