import ServiceCatalog.Proofs.Transparency

/-!
# Where a pointer leads in a changed document

A document is changed in one place, and a pointer is followed in the old one and in the new one.
There are three cases.

* The pointer leads through the place (`Pointer.LeadsThrough`): nothing is known.
* It leaves the path to the place before the end of it: the outcome is the same in both documents.
* It ends on the way to the place: it leads to two values that are changed in that place themselves.

`ChangedAt path v w` is the change, and `follow_of_changedAt` the distinction of the last two cases.
The change is read off from what the two values hold under their keys, so it does not matter how the
mappings are written, and what stands in the changed place may be anything, or missing.
-/

namespace ServiceCatalog

open Value

/-- Two values hold the same but for what stands at the end of a path of keys, and both have
everything on the way there. -/
inductive ChangedAt : List String → Value → Value → Prop
  | last {key : String} {v w : Value} (hv : v.isMapping = true) (hw : w.isMapping = true)
      (houtside : AgreeOutside [key] v w) : ChangedAt [key] v w
  | inside {key : String} {path : List String} {v w a b : Value} (hv : v.field? key = some a)
      (hw : w.field? key = some b) (houtside : AgreeOutside [key] v w) (h : ChangedAt path a b) :
      ChangedAt (key :: path) v w

namespace Value

theorem isMapping_of_field? {v a : Value} {key : String} (h : v.field? key = some a) :
    v.isMapping = true := by
  rw [field?, entries] at h
  cases hv : v.entries? with
  | none =>
    rw [hv] at h
    cases h
  | some es => rw [isMapping, hv, Option.isSome_some]

end Value

namespace ChangedAt

variable {path : List String} {v w : Value}

/-- On the top level, one key of the path is all that is touched. -/
theorem exists_agreeOutside (h : ChangedAt path v w) : ∃ key ∈ path, AgreeOutside [key] v w := by
  cases h with
  | last _ _ houtside => exact ⟨_, List.mem_singleton_self _, houtside⟩
  | inside _ _ houtside _ => exact ⟨_, List.mem_cons_self, houtside⟩

end ChangedAt

namespace Pointer

/-! ## Following a path -/

/-- In a mapping, a segment is a key. -/
theorem step_of_isMapping {v : Value} (h : v.isMapping = true) (ref segment : String) :
    step ref v segment =
      match v.field? segment with
      | some a => .ok a
      | none => .error (.missingKey ref segment) := by
  induction v using entries?.induct with
  | case1 es => rfl
  | case2 place v ih => exact ih h
  | case3 v hm hk =>
    rw [isMapping, entries?.eq_3 v hm hk] at h
    exact absurd h Bool.false_ne_true

theorem step_of_field? {v a : Value} {segment : String} (h : v.field? segment = some a)
    (ref : String) : step ref v segment = .ok a := by
  rw [step_of_isMapping (isMapping_of_field? h), h]

/-- Any other key leads to the same. -/
theorem step_of_agreeOutside {v w : Value} {key segment : String} (hv : v.isMapping = true)
    (hw : w.isMapping = true) (h : AgreeOutside [key] v w) (hne : segment ≠ key) (ref : String) :
    step ref v segment = step ref w segment := by
  have hfield : v.field? segment = w.field? segment :=
    h segment (mt List.mem_singleton.mp hne)
  rw [step_of_isMapping hv, step_of_isMapping hw, hfield]

/-- **What does not lead through the changed place** has the same outcome, or ends on the way to
it. -/
theorem follow_of_changedAt {path segments : List String} {v w : Value} (h : ChangedAt path v w)
    (ref : String) (hthrough : ¬ path <+: segments) :
    follow ref v segments = follow ref w segments ∨
      ∃ rest a b, path = segments ++ rest ∧ follow ref v segments = .ok a ∧
        follow ref w segments = .ok b ∧ ChangedAt rest a b := by
  induction h generalizing segments with
  | @last key v w hv hw houtside =>
    cases segments with
    | nil => exact .inr ⟨[key], v, w, rfl, rfl, rfl, .last hv hw houtside⟩
    | cons s ss =>
      have hne : s ≠ key := by
        rintro rfl
        exact hthrough (List.prefix_append [s] ss)
      left
      rw [follow, follow, step_of_agreeOutside hv hw houtside hne]
  | @inside key path v w a b hv hw houtside hab ih =>
    cases segments with
    | nil => exact .inr ⟨key :: path, v, w, rfl, rfl, rfl, .inside hv hw houtside hab⟩
    | cons s ss =>
      by_cases hs : s = key
      · subst hs
        have hrest : ¬ path <+: ss := fun hp => hthrough ((List.prefix_cons_inj s).mpr hp)
        rw [follow, follow, step_of_field? hv, step_of_field? hw]
        rcases ih hrest with heq | ⟨rest, c, d, rfl, hc, hd, hcd⟩
        · exact .inl heq
        · exact .inr ⟨rest, c, d, rfl, hc, hd, hcd⟩
      · left
        rw [follow, follow, step_of_agreeOutside (isMapping_of_field? hv)
          (isMapping_of_field? hw) houtside hs]

/-! ## References -/

/-- A reference names the end of a path, or a place below it. -/
def LeadsThrough (path : List String) (ref : String) : Prop :=
  ∃ segments, segments? ref = some segments ∧ path <+: segments

/-- A reference that does not lead through the changed place has the same outcome, or names a value
on the way to it. -/
theorem resolve_of_changedAt {path : List String} {doc doc' : Value} (h : ChangedAt path doc doc')
    {ref : String} (hthrough : ¬ LeadsThrough path ref) :
    resolve doc ref = resolve doc' ref ∨
      ∃ segments rest a b, segments? ref = some segments ∧ path = segments ++ rest ∧
        resolve doc ref = .ok a ∧ resolve doc' ref = .ok b ∧ ChangedAt rest a b := by
  unfold resolve
  cases hs : segments? ref with
  | none => exact .inl rfl
  | some segments =>
    have hpath : ¬ path <+: segments := fun hp => hthrough ⟨segments, hs, hp⟩
    rcases follow_of_changedAt h ref hpath with heq | ⟨rest, a, b, hrest, ha, hb, hab⟩
    · exact .inl heq
    · exact .inr ⟨segments, rest, a, b, rfl, hrest, ha, hb, hab⟩

/-- The first two segments of a reference. -/
theorem segments?_of_toList {ref : String} {first second later : List Char}
    (hfirst : '/' ∉ first) (hsecond : '/' ∉ second)
    (h : ref.toList = '#' :: '/' :: (first ++ '/' :: (second ++ '/' :: later))) :
    segments? ref = some (String.ofList (unescape first) :: String.ofList (unescape second) ::
      (Text.split '/' later).map fun s => String.ofList (unescape s)) := by
  have hsplit : Text.split '/' (first ++ '/' :: (second ++ '/' :: later)) =
      first :: second :: Text.split '/' later := by
    rw [Text.split_append, Text.split_append, Text.split_eq_singleton hfirst,
      Text.split_eq_singleton hsecond]
    rfl
  unfold segments?
  rw [h]
  simp only [hsplit, List.map_cons]

end Pointer
end ServiceCatalog
