import Mathlib.Data.List.Nodup
import ServiceCatalog.Configuration.Entry
import ServiceCatalog.Proofs.Attempt
import ServiceCatalog.Proofs.JsonReading

/-!
# What the members of a configuration set

A configuration is read setting by setting, and each setting looks at two members only, those under
its two spellings.  What it takes from them is `Setting.Takes`: the texts in the member with the
camel-case spelling if there is one, whatever the other spelling holds, then those in the other
member, and its default if there is none.  There is no constructor for a member that does not hold
what is demanded, and that is how a setting fails.

`Settings.ofMembers_eq_ok_iff` says that this is all there is to a configuration: it makes some
settings exactly if each of them is taken from its own two members.  So a setting does not depend on
the others, nor on members with other keys (`Settings.ofMembers_congr`), nor on the order of the
members (`Settings.ofMembers_perm`), since no key of a JSON object is repeated
(`Json.nodup_keys_of_parse`).
-/

namespace ServiceCatalog

/-! ## Members of objects -/

namespace Json

variable {ms ns : List (String × Json)} {key : String} {j : Json}

/-- Setting a key adds it at the end, unless it is there. -/
theorem map_fst_put (key : String) (j : Json) (ms : List (String × Json)) :
    (put key j ms).map Prod.fst =
      if key ∈ ms.map Prod.fst then ms.map Prod.fst else ms.map Prod.fst ++ [key] := by
  induction ms with
  | nil => rfl
  | cons m ms ih =>
    by_cases hkey : m.1 = key
    · simp [put, hkey]
    · simp only [put, if_neg hkey, List.map_cons, ih, List.mem_cons, Ne.symm hkey, false_or]
      split <;> rfl

theorem nodup_put (h : (ms.map Prod.fst).Nodup) : ((put key j ms).map Prod.fst).Nodup := by
  rw [map_fst_put]
  split
  · exact h
  · rename_i hkey
    exact List.nodup_append.mpr ⟨h, List.nodup_singleton key, fun k hk l hl heq =>
      hkey (List.mem_singleton.mp hl ▸ heq ▸ hk)⟩

theorem nodup_distinct (ms : List (String × Json)) : ((distinct ms).map Prod.fst).Nodup := by
  have hrun : ∀ acc : List (String × Json), (acc.map Prod.fst).Nodup →
      ((ms.foldl (fun acc m => put m.1 m.2 acc) acc).map Prod.fst).Nodup := by
    induction ms with
    | nil => exact fun acc hacc => hacc
    | cons m ms ih => exact fun acc hacc => ih _ (nodup_put hacc)
  exact hrun [] List.nodup_nil

/-- Neither a name nor a number is an object. -/
theorem ne_object_of_scalar {cs rest : List Char}
    (h : (name? cs).or (number? cs) = some (j, rest)) : j ≠ .object ms := by
  rintro rfl
  rcases Option.or_eq_some_iff.mp h with h | ⟨-, h⟩
  · unfold name? at h
    split at h <;> cases h
  · have hmagnitude : ∀ negative cs, magnitude? negative cs ≠ some (.object ms, rest) := by
      intro negative cs h
      obtain ⟨p, -, hp⟩ := Option.map_eq_some_iff.mp h
      dsimp only at hp
      split at hp
      · cases hp
      · split at hp <;> cases hp
    unfold number? at h
    split at h <;> exact hmagnitude _ _ h

/-- No key of an object that has been read is repeated. -/
theorem nodup_keys_of_parse {text : String} (h : parse text = .ok (.object ms)) :
    (ms.map Prod.fst).Nodup := by
  obtain ⟨ds, hvalue, -⟩ := read_eq_ok_iff.mp (parse_eq_ok_iff.mp h)
  generalize skipBlanks text.toList = cs at hvalue
  cases hvalue with
  | scalar h _ => exact absurd rfl (ne_object_of_scalar h)
  | emptyObject => exact List.nodup_nil
  | object => exact nodup_distinct _

/-- Without repeated keys, looking a key up finds its member. -/
theorem lookup_eq_some_iff_mem (h : (ms.map Prod.fst).Nodup) :
    ms.lookup key = some j ↔ (key, j) ∈ ms := by
  rw [List.lookup_eq_some_iff]
  constructor
  · rintro ⟨before, after, rfl, -⟩
    exact List.mem_append_right before List.mem_cons_self
  · intro hmem
    obtain ⟨before, after, rfl⟩ := List.append_of_mem hmem
    refine ⟨before, after, rfl, fun p hp => ?_⟩
    rw [List.map_append, List.nodup_append] at h
    have hne := h.2.2 p.1 (List.mem_map_of_mem hp) key List.mem_cons_self
    exact bne_iff_ne.mpr hne.symm

/-- The order of members with different keys does not matter for a look-up. -/
theorem lookup_perm (h : (ms.map Prod.fst).Nodup) (hperm : ms.Perm ns) (key : String) :
    ms.lookup key = ns.lookup key := by
  have hnodup : (ns.map Prod.fst).Nodup := (hperm.map Prod.fst).nodup_iff.mp h
  refine Option.ext fun j => ?_
  rw [lookup_eq_some_iff_mem h, lookup_eq_some_iff_mem hnodup, hperm.mem_iff]

end Json

/-! ## Demands -/

/-- A member holds some texts, as it is demanded: a single text is written as it is, and several
ones as the items of an array. -/
inductive Demand.Holds : Demand → Json → List String → Prop
  | text (t : String) : Holds .text (.text t) [t]
  | wordSet (ts : List String) : Holds .wordSet (.array (ts.map .text)) ts
  | wordList (ts : List String) : Holds .wordList (.array (ts.map .text)) ts

section demands

variable {demand : Demand} {key : String} {j : Json} {js : List Json} {ts us : List String}

theorem map_text_injective : Function.Injective (List.map Json.text) :=
  List.map_injective_iff.mpr fun _ _ => Json.text.inj

/-- What a member holds is settled by the member. -/
theorem Demand.Holds.unique (h : demand.Holds j ts) (h' : demand.Holds j us) : ts = us := by
  generalize hk : j = k at h'
  cases h with
  | text t =>
    cases h'
    cases hk
    rfl
  | wordSet ts =>
    cases h'
    exact map_text_injective (Json.array.inj hk)
  | wordList ts =>
    cases h'
    exact map_text_injective (Json.array.inj hk)

theorem itemFaults_eq_nil_iff (index : Nat) :
    itemFaults key index js = [] ↔ ∃ ts : List String, js = ts.map .text := by
  induction js generalizing index with
  | nil => exact iff_of_true rfl ⟨[], rfl⟩
  | cons j js ih =>
    constructor
    · intro h
      cases j with
      | text t =>
        obtain ⟨ts, rfl⟩ := (ih (index + 1)).mp h
        exact ⟨t :: ts, rfl⟩
      | _ => cases h
    · rintro ⟨ts, hts⟩
      cases ts with
      | nil => cases hts
      | cons t ts =>
        obtain ⟨rfl, hjs⟩ := List.cons.inj hts
        exact (ih (index + 1)).mpr ⟨ts, hjs⟩

/-- A member has no faults exactly if it holds what is demanded. -/
theorem entryFaults_eq_nil_iff : entryFaults demand key j = [] ↔ ∃ ts, demand.Holds j ts := by
  constructor
  · intro h
    unfold entryFaults at h
    split at h
    · exact ⟨_, .text _⟩
    · cases h
    · rename_i items hdemand
      obtain ⟨ts, rfl⟩ := (itemFaults_eq_nil_iff 0).mp h
      cases demand with
      | text => exact absurd rfl hdemand
      | wordSet => exact ⟨ts, .wordSet ts⟩
      | wordList => exact ⟨ts, .wordList ts⟩
    · cases h
  · rintro ⟨ts, h⟩
    cases h with
    | text t => rfl
    | wordSet => exact (itemFaults_eq_nil_iff 0).mpr ⟨ts, rfl⟩
    | wordList => exact (itemFaults_eq_nil_iff 0).mpr ⟨ts, rfl⟩

end demands

/-! ## Settings -/

/-- One of the settings. -/
inductive Setting where
  | operationNames
  | parameterNames
  | ignoredParameters
  | versionPlaceholder
  | mediaTypes
  | methods
  deriving DecidableEq

namespace Setting

/-- The spellings of a setting and what it demands. -/
def name : Setting → SettingName
  | .operationNames => .operationNames
  | .parameterNames => .parameterNames
  | .ignoredParameters => .ignoredParameters
  | .versionPlaceholder => .versionPlaceholder
  | .mediaTypes => .mediaTypes
  | .methods => .methods

/-- What settings hold, setting by setting. -/
def value (σ : Settings) : Setting → List String
  | .operationNames => σ.reservedOperationNames
  | .parameterNames => σ.reservedParameterNames
  | .ignoredParameters => σ.ignoredParameters
  | .versionPlaceholder => [σ.versionPlaceholder]
  | .mediaTypes => σ.mediaTypes
  | .methods => σ.methods

/-- What a setting takes, given what its two spellings hold. -/
inductive Takes (t : Setting) : Option Json → Option Json → List String → Prop
  /-- The camel-case spelling counts, whatever the other one holds. -/
  | camel {j : Json} {ts : List String} (snake : Option Json) (h : t.name.demand.Holds j ts) :
      Takes t (some j) snake ts
  | snake {j : Json} {ts : List String} (h : t.name.demand.Holds j ts) : Takes t none (some j) ts
  | default : Takes t none none (t.value {})

variable {t : Setting} {ms ns : List (String × Json)} {σ τ : Settings}

/-- What a setting takes is settled by its two members. -/
theorem Takes.unique {camel snake : Option Json} {ts us : List String} (h : t.Takes camel snake ts)
    (h' : t.Takes camel snake us) : ts = us := by
  cases h with
  | camel _ h => cases h' with | camel _ h' => exact h.unique h'
  | snake h => cases h' with | snake h' => exact h.unique h'
  | default => cases h'; rfl

/-- The other spelling matters only where there is no member with the camel-case one. -/
theorem Takes.eq_of_snake {camel snake snake' : Option Json} {ts us : List String}
    (h : t.Takes camel snake ts) (h' : t.Takes camel snake' us)
    (hsnake : camel = none → snake = snake') : ts = us := by
  cases camel with
  | none =>
    obtain rfl := hsnake rfl
    exact h.unique h'
  | some j =>
    cases h with | camel _ h => cases h' with | camel _ h' => exact h.unique h'

theorem forall_mem_all_iff {P : SettingName → Prop} :
    (∀ s ∈ SettingName.all, P s) ↔ ∀ t : Setting, P t.name := by
  constructor
  · intro h t
    cases t <;> exact h _ (by simp [SettingName.all, name])
  · intro h s hs
    simp only [SettingName.all, List.mem_cons, List.not_mem_nil, or_false] at hs
    rcases hs with rfl | rfl | rfl | rfl | rfl | rfl
    exacts [h .operationNames, h .parameterNames, h .ignoredParameters, h .versionPlaceholder,
      h .mediaTypes, h .methods]

theorem ext_value (h : ∀ t : Setting, t.value σ = t.value τ) : σ = τ := by
  cases σ
  cases τ
  have hplaceholder := h .versionPlaceholder
  simp only [value, List.cons.injEq, and_true] at hplaceholder
  simp only [Settings.mk.injEq]
  exact ⟨h .operationNames, h .parameterNames, h .ignoredParameters, hplaceholder, h .mediaTypes,
    h .methods⟩

/-! ## Taking settings from members -/

/-- The two spellings of a setting hold the same in two lists of members. -/
def SameEntries (t : Setting) (ms ns : List (String × Json)) : Prop :=
  ms.lookup t.name.camel = ns.lookup t.name.camel ∧ ms.lookup t.name.snake = ns.lookup t.name.snake

theorem SameEntries.entry_eq (h : t.SameEntries ms ns) : t.name.entry? ms = t.name.entry? ns := by
  unfold SettingName.entry?
  rw [h.1, h.2]

/-- What a setting takes from members. -/
def TakesFrom (t : Setting) (ms : List (String × Json)) (ts : List String) : Prop :=
  t.Takes (ms.lookup t.name.camel) (ms.lookup t.name.snake) ts

theorem takesFrom_iff_of_entry {key : String} {j : Json} {ts : List String}
    (hentry : t.name.entry? ms = some (key, j)) :
    t.TakesFrom ms ts ↔ t.name.demand.Holds j ts := by
  unfold SettingName.entry? at hentry
  unfold TakesFrom
  cases hcamel : ms.lookup t.name.camel with
  | some k =>
    rw [hcamel] at hentry
    cases hentry
    exact ⟨fun h => by cases h; assumption, .camel _⟩
  | none =>
    rw [hcamel] at hentry
    obtain ⟨k, hsnake, hk⟩ := Option.map_eq_some_iff.mp hentry
    cases hk
    rw [hsnake]
    exact ⟨fun h => by cases h; assumption, .snake⟩

theorem takesFrom_of_no_entry (hentry : t.name.entry? ms = none) : t.TakesFrom ms (t.value {}) := by
  unfold SettingName.entry? at hentry
  unfold TakesFrom
  cases hcamel : ms.lookup t.name.camel with
  | some k => rw [hcamel] at hentry; cases hentry
  | none =>
    rw [hcamel] at hentry
    rw [Option.map_eq_none_iff.mp hentry]
    exact .default

/-- A configuration has no faults exactly if every setting can be taken from it. -/
theorem faults_eq_nil_iff : Settings.faults ms = [] ↔ ∀ t : Setting, ∃ ts, t.TakesFrom ms ts := by
  rw [Settings.faults, List.flatMap_eq_nil_iff, forall_mem_all_iff]
  refine forall_congr' fun t => ?_
  cases hentry : t.name.entry? ms with
  | none => exact iff_of_true rfl ⟨_, takesFrom_of_no_entry hentry⟩
  | some e =>
    rw [Option.map_some, Option.getD_some, entryFaults_eq_nil_iff]
    exact exists_congr fun ts => (takesFrom_iff_of_entry hentry).symm

/-- A single text, or several ones: what a configuration sets is put together by demand. -/
theorem value_chosen (t : Setting) (ms : List (String × Json)) :
    t.name.demand = .text ∧ (∃ d, t.value {} = [d] ∧
      t.value (Settings.chosen ms) = [chosenText t.name d ms]) ∨
    t.name.demand ≠ .text ∧
      t.value (Settings.chosen ms) = chosenWords t.name (t.value {}) ms := by
  cases t with
  | versionPlaceholder => exact .inl ⟨rfl, _, rfl, rfl⟩
  | _ => exact .inr ⟨Demand.noConfusion, rfl⟩

theorem filterMap_map_text {f : Json → Option String} (hf : ∀ t, f (.text t) = some t)
    (ts : List String) : (ts.map Json.text).filterMap f = ts := by
  have hcomp : f ∘ Json.text = some := funext hf
  rw [List.filterMap_map, hcomp, List.filterMap_some]

theorem chosenWords_of_holds {s : SettingName} {default ts : List String} {key : String} {j : Json}
    (hentry : s.entry? ms = some (key, j)) (hdemand : s.demand ≠ .text)
    (h : s.demand.Holds j ts) : chosenWords s default ms = ts := by
  unfold chosenWords
  rw [hentry]
  generalize s.demand = demand at hdemand h
  cases h with
  | text => exact absurd rfl hdemand
  | wordSet => exact filterMap_map_text (fun _ => rfl) ts
  | wordList => exact filterMap_map_text (fun _ => rfl) ts

/-- Every setting of a configuration without faults is taken from its members. -/
theorem takesFrom_chosen (h : Settings.faults ms = []) (t : Setting) :
    t.TakesFrom ms (t.value (Settings.chosen ms)) := by
  have hvalue := value_chosen t ms
  cases hentry : t.name.entry? ms with
  | none =>
    have hdefault : t.value (Settings.chosen ms) = t.value {} := by
      rcases hvalue with ⟨-, d, hd, hchosen⟩ | ⟨-, hchosen⟩
      · rw [hchosen, chosenText, hentry, hd]
      · rw [hchosen, chosenWords, hentry]
    exact hdefault ▸ takesFrom_of_no_entry hentry
  | some e =>
    obtain ⟨key, j⟩ := e
    obtain ⟨ts, hts⟩ := faults_eq_nil_iff.mp h t
    have hholds := (takesFrom_iff_of_entry hentry).mp hts
    have hchosen : t.value (Settings.chosen ms) = ts := by
      rcases hvalue with ⟨hdemand, d, -, hchosen⟩ | ⟨hdemand, hchosen⟩
      · rw [hdemand] at hholds
        cases hholds
        rw [hchosen, chosenText, hentry]
      · rw [hchosen, chosenWords_of_holds hentry hdemand hholds]
    exact hchosen ▸ hts

end Setting

namespace Settings

open Setting

variable {ms ns : List (String × Json)} {σ : Settings}

theorem ofMembers_of_faults (h : faults ms = []) : ofMembers ms = .ok (chosen ms) := by
  rw [ofMembers, h]

/-- **A configuration makes some settings exactly if each setting takes its value from its own two
members.** -/
theorem ofMembers_eq_ok_iff :
    ofMembers ms = .ok σ ↔ ∀ t : Setting, t.TakesFrom ms (t.value σ) := by
  constructor
  · intro h
    have hnone : faults ms = [] := by
      unfold ofMembers at h
      split at h
      · assumption
      · cases h
    rw [ofMembers_of_faults hnone] at h
    cases h
    exact takesFrom_chosen hnone
  · intro h
    have hnone : faults ms = [] := faults_eq_nil_iff.mpr fun t => ⟨_, h t⟩
    rw [ofMembers_of_faults hnone]
    exact congrArg Except.ok (ext_value fun t => (takesFrom_chosen hnone t).unique (h t))

/-- Members with other keys make no difference, neither to what is set nor to the faults. -/
theorem ofMembers_congr (h : ∀ t : Setting, t.SameEntries ms ns) : ofMembers ms = ofMembers ns := by
  have hentry : ∀ s ∈ SettingName.all, s.entry? ms = s.entry? ns :=
    forall_mem_all_iff.mpr fun t => (h t).entry_eq
  have hfaults : faults ms = faults ns := by
    refine List.flatMap_congr fun s hs => ?_
    rw [hentry s hs]
  have hchosen : chosen ms = chosen ns := by
    refine ext_value fun t => ?_
    have hsame := (h t).entry_eq
    rcases value_chosen t ms with ⟨hdemand, d, hd, hms⟩ | ⟨hdemand, hms⟩
    · rcases value_chosen t ns with ⟨-, d', hd', hns⟩ | ⟨hne, -⟩
      · cases hd.symm.trans hd'
        rw [hms, hns, chosenText, chosenText, hsame]
      · exact absurd hdemand hne
    · rcases value_chosen t ns with ⟨htext, -⟩ | ⟨-, hns⟩
      · exact absurd htext hdemand
      · rw [hms, hns, chosenWords, chosenWords, hsame]
  rw [ofMembers, ofMembers, hfaults, hchosen]

/-- The order of the members makes no difference. -/
theorem ofMembers_perm (h : (ms.map Prod.fst).Nodup) (hperm : ms.Perm ns) :
    ofMembers ms = ofMembers ns :=
  ofMembers_congr fun _ => ⟨Json.lookup_perm h hperm _, Json.lookup_perm h hperm _⟩

end Settings
end ServiceCatalog
