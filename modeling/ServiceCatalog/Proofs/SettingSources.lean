import ServiceCatalog.Configuration.Choice
import ServiceCatalog.Proofs.JsonRoundTrip
import ServiceCatalog.Proofs.SettingEntries

/-!
# One source decides about the settings

Settings may be offered from four sides: by a path on the command line, by a path in the
environment, by the file of the project, and by the defaults.  The first of them that is there
decides alone.  This has two halves.

* What is resolved is what the deciding source gives, its failures included, and no other source
  takes its place.
* Nothing else is looked at.  Two runs in which the deciding source is the same end alike, whatever
  else is different between them (`Settings.DecidedAlike`).  All that is looked at of a source is
  what stands at one path, so the runs may differ in every other file, in the environment as far as
  it does not decide, and in what is there at all.

Inside of the deciding file the same holds for each setting and the two members that are its own.
-/

namespace ServiceCatalog

/-! ## What is looked at of a file -/

namespace FileTree

/-- The same is found at a path in two trees of files. -/
structure SameAt (t u : FileTree) (p : Path) : Prop where
  contents : t.contents? p = u.contents? p
  isTooLong : t.isTooLong p = u.isTooLong p

/-- The file at a path is a JSON object with some members. -/
def HoldsObject (t : FileTree) (p : Path) (ms : List (String × Json)) : Prop :=
  ∃ text : String, t.read? p = some text ∧ Json.parse text = .ok (.object ms)

end FileTree

namespace Settings

/-- The settings in the file at a path that is given by its text. -/
def ofPath (files : FileTree) (path : String) : Except SettingsError Settings :=
  ofFile files (Path.ofText path) (Path.ofText path).text

/-- Two runs with the same path on the command line, if any, in which the deciding source is the
same. -/
inductive DecidedAlike (s u : Surroundings) : Option String → Prop
  /-- A path on the command line decides, and the same is found there. -/
  | option {path : String} (h : s.files.SameAt u.files (Path.ofText path)) :
      DecidedAlike s u (some path)
  /-- A path in the environment decides; it is the same path, and the same is found there. -/
  | environment {path : String} (hs : variablePath? s = some path)
      (hu : variablePath? u = some path) (h : s.files.SameAt u.files (Path.ofText path)) :
      DecidedAlike s u none
  /-- The project decides: its file is the same, or both times there is none. -/
  | project (hs : variablePath? s = none) (hu : variablePath? u = none)
      (hfolder : s.folder = u.folder) (h : s.files.SameAt u.files (Path.ofText projectFile)) :
      DecidedAlike s u none

section sources

variable {s u : Surroundings} {option : Option String} {p : Path} {path : String}
  {t files : FileTree} {ms ns : List (String × Json)} {σ τ : Settings}

/-- An empty path in the environment is none. -/
theorem variablePath?_eq_some_iff :
    variablePath? s = some path ↔
      s.environment.lookup configurationVariable = some path ∧ path ≠ "" := by
  rw [variablePath?, Option.filter_eq_some_iff, decide_eq_true_eq]

theorem variablePath?_eq_none_iff :
    variablePath? s = none ↔ (s.environment.lookup configurationVariable).getD "" = "" := by
  rw [variablePath?]
  cases s.environment.lookup configurationVariable with
  | none => exact iff_of_true rfl rfl
  | some path => simp

theorem resolve_option (path : String) : resolve s (some path) = ofPath s.files path := rfl

theorem resolve_variable (h : variablePath? s = some path) :
    resolve s none = ofPath s.files path := by
  have hsource : source s none = .variable path := by
    unfold source
    rw [h]
  rw [resolve, hsource]
  rfl

theorem resolve_project (h : variablePath? s = none) :
    resolve s none =
      if s.files.hasFile (Path.ofText projectFile) then
        ofFile s.files (Path.ofText projectFile) (s.folder ++ "/" ++ projectFile)
      else .ok {} := by
  have hsource : source s none =
      if s.files.hasFile (Path.ofText projectFile) then .project else .defaults := by
    unfold source
    rw [h]
  rw [resolve, hsource]
  split <;> rfl

/-- The settings in a file depend on what is found at its path. -/
theorem ofFile_of_sameAt (h : files.SameAt t p) : ofFile files p path = ofFile t p path := by
  rw [ofFile, ofFile, FileTree.read?, FileTree.read?, h.contents, h.isTooLong]

/-- **Runs in which the deciding source is the same end alike.** -/
theorem DecidedAlike.resolve_eq (h : DecidedAlike s u option) :
    resolve s option = resolve u option := by
  cases h with
  | option h => exact ofFile_of_sameAt h
  | environment hs hu h =>
    rw [resolve_variable hs, resolve_variable hu]
    exact ofFile_of_sameAt h
  | project hs hu hfolder h =>
    rw [resolve_project hs, resolve_project hu, FileTree.hasFile, FileTree.hasFile, h.contents,
      hfolder, ofFile_of_sameAt h]

theorem ofFile_of_holdsObject (h : files.HoldsObject p ms) :
    ofFile files p path = (ofMembers ms).mapError (.faults path) := by
  obtain ⟨text, hread, hparse⟩ := h
  rw [ofFile, hread]
  show ofText path text = _
  rw [ofText, hparse]

theorem nodup_keys_of_holdsObject (h : files.HoldsObject p ms) : (ms.map Prod.fst).Nodup := by
  obtain ⟨text, -, hparse⟩ := h
  exact Json.nodup_keys_of_parse hparse

end sources

/-- **Exactly one source decides.**  A path on the command line decides, also an empty one; without
it a path in the environment, unless it is empty; without both the file of the project; and without
any of them the defaults hold.  What is resolved is what the deciding source gives, and runs in
which that source is the same end alike, in success and in failure.

A file that holds an object gives some settings exactly if each of them takes its value from its own
two members.  Files whose members agree under the spellings of all settings, or are the same up to
their order, have the same outcome.  Of two files that both give settings, those that agree in the
member that counts for a setting give it the same value, whatever else is in them. -/
theorem resolve_decided :
    (∀ s path, resolve s (some path) = ofPath s.files path) ∧
    (∀ s path, s.environment.lookup configurationVariable = some path → path ≠ "" →
      resolve s none = ofPath s.files path) ∧
    (∀ s, (s.environment.lookup configurationVariable).getD "" = "" →
      resolve s none =
        if s.files.hasFile (Path.ofText projectFile) then
          ofFile s.files (Path.ofText projectFile) (s.folder ++ "/" ++ projectFile)
        else .ok {}) ∧
    (∀ s u option, DecidedAlike s u option → resolve s option = resolve u option) ∧
    (∀ (files : FileTree) p path ms σ, files.HoldsObject p ms →
      (ofFile files p path = .ok σ ↔ ∀ t : Setting, t.TakesFrom ms (t.value σ))) ∧
    (∀ (files files' : FileTree) p p' path ms ns, files.HoldsObject p ms →
      files'.HoldsObject p' ns → ((∀ t : Setting, t.SameEntries ms ns) ∨ ms.Perm ns) →
      ofFile files p path = ofFile files' p' path) ∧
    ∀ (files files' : FileTree) p p' path path' ms ns σ τ, files.HoldsObject p ms →
      files'.HoldsObject p' ns → ofFile files p path = .ok σ → ofFile files' p' path' = .ok τ →
      ∀ t : Setting, ms.lookup t.name.camel = ns.lookup t.name.camel →
        (ms.lookup t.name.camel = none → ms.lookup t.name.snake = ns.lookup t.name.snake) →
        t.value σ = t.value τ := by
  have hgives : ∀ (files : FileTree) p path ms σ, files.HoldsObject p ms →
      (ofFile files p path = .ok σ ↔ ∀ t : Setting, t.TakesFrom ms (t.value σ)) := by
    intro files p path ms σ h
    rw [ofFile_of_holdsObject h, Attempt.mapError_eq_ok, ofMembers_eq_ok_iff]
  refine ⟨fun s path => resolve_option path, fun s path hpath hne => ?_, fun s hpath => ?_,
    fun s u option h => h.resolve_eq, hgives, ?_, ?_⟩
  · exact resolve_variable (variablePath?_eq_some_iff.mpr ⟨hpath, hne⟩)
  · exact resolve_project (variablePath?_eq_none_iff.mpr hpath)
  · intro files files' p p' path ms ns hms hns hsame
    have hmembers : ofMembers ms = ofMembers ns := by
      rcases hsame with hsame | hperm
      · exact ofMembers_congr hsame
      · exact ofMembers_perm (nodup_keys_of_holdsObject hms) hperm
    rw [ofFile_of_holdsObject hms, ofFile_of_holdsObject hns, hmembers]
  · intro files files' p p' path path' ms ns σ τ hms hns hσ hτ t hcamel hsnake
    have htaken : t.TakesFrom ms (t.value σ) := (hgives _ _ _ _ _ hms).mp hσ t
    have htaken' : t.TakesFrom ns (t.value τ) := (hgives _ _ _ _ _ hns).mp hτ t
    rw [Setting.TakesFrom, ← hcamel] at htaken'
    exact Setting.Takes.eq_of_snake htaken htaken' hsnake

/-- A working folder with the members of a configuration and with other files; the environment holds
a path. -/
def sampleChoice (path : String) (ms : List (String × Json)) (others : List (String × String)) :
    Surroundings where
  files := .ofFiles (("ci.json", (Json.object ms).render ++ "\n") :: others)
  folder := "/work"
  environment := [("OASVC_CONFIG", path)]

/-- Members in which one setting has both spellings. -/
def sampleMembers : List (String × Json) :=
  [("http_methods", .int 1), ("httpMethods", .array [.text "put"]), ("extra", .null)]

theorem sampleChoice.holdsObject {path : String} {ms : List (String × Json)}
    {others : List (String × String)}
    (hread : (sampleChoice path ms others).files.read? (Path.ofText "ci.json") =
      some ((Json.object ms).render ++ "\n"))
    (hkeys : (Json.object ms).hasDistinctKeys = true) (hshort : (Json.object ms).isShort = true) :
    (sampleChoice path ms others).files.HoldsObject (Path.ofText "ci.json") ms :=
  ⟨_, hread, Json.parse_render hkeys hshort⟩

/-- The file on the command line decides, against a path that leads nowhere and a project with a
fault; without it neither of these is passed over. -/
theorem resolve_decided_of_ci :
    resolve (sampleChoice "gone.json" sampleMembers [("oasvc.json", "?")]) (some "ci.json") =
        .ok { methods := ["put"] } ∧
      resolve (sampleChoice "gone.json" sampleMembers [("oasvc.json", "?")]) none =
        .error (.notFound "gone.json") ∧
      resolve (sampleChoice "" sampleMembers [("oasvc.json", "[]")]) none =
        .error (.notAnObject "/work/oasvc.json") ∧
      resolve (sampleChoice "gone.json" sampleMembers [("oasvc.json", "?")]) (some "ci.json") =
        resolve (sampleChoice "" sampleMembers []) (some "ci.json") ∧
      (∀ t : Setting, t.TakesFrom sampleMembers (t.value { methods := ["put"] })) ∧
      ofPath (sampleChoice "" sampleMembers []).files "ci.json" =
        ofPath (sampleChoice "" sampleMembers.reverse []).files "ci.json" ∧
      ∀ σ, ofPath (sampleChoice "" sampleMembers.tail []).files "ci.json" = .ok σ →
        Setting.methods.value σ = ["put"] := by
  obtain ⟨hoption, hvariable, hproject, halike, hgives, hsame, hvalue⟩ := resolve_decided
  have hfile : (sampleChoice "" sampleMembers []).files.HoldsObject (Path.ofText "ci.json")
      sampleMembers :=
    sampleChoice.holdsObject (by decide +kernel) (by decide +kernel) (by decide +kernel)
  have hreversed : (sampleChoice "" sampleMembers.reverse []).files.HoldsObject
      (Path.ofText "ci.json") sampleMembers.reverse :=
    sampleChoice.holdsObject (by decide +kernel) (by decide +kernel) (by decide +kernel)
  have hshort : (sampleChoice "" sampleMembers.tail []).files.HoldsObject
      (Path.ofText "ci.json") sampleMembers.tail :=
    sampleChoice.holdsObject (by decide +kernel) (by decide +kernel) (by decide +kernel)
  have hput : ofPath (sampleChoice "" sampleMembers []).files "ci.json" =
      .ok { methods := ["put"] } := by decide +kernel
  have hagree : resolve (sampleChoice "gone.json" sampleMembers [("oasvc.json", "?")])
      (some "ci.json") = resolve (sampleChoice "" sampleMembers []) (some "ci.json") :=
    halike _ _ _ (.option ⟨by decide +kernel, by decide +kernel⟩)
  refine ⟨?_, ?_, ?_, hagree, (hgives _ _ _ _ _ hfile).mp hput, ?_, fun σ hσ => ?_⟩
  · rw [hagree, hoption, hput]
  · rw [hvariable _ "gone.json" (by decide +kernel) (by decide +kernel)]
    decide +kernel
  · rw [hproject _ (by decide +kernel)]
    decide +kernel
  · exact hsame _ _ _ _ _ _ _ hfile hreversed (.inr (List.reverse_perm _).symm)
  · exact hvalue _ _ _ _ _ _ _ _ _ _ hshort hfile hσ hput .methods rfl nofun

end Settings
end ServiceCatalog
