import ServiceCatalog.Proofs.Attempt
import ServiceCatalog.Proofs.HandingOver

/-!
# The stages of a command

A run both prints and may fail.  What it says about itself on the way is of no account for what it
hands over, so this file takes the two apart.

* `Run.Computes m x`: the run `m` makes nothing but remarks, and it ends as the computation `x`.
* `Run.Delivers files m x`: it hands over the data that `x` yields, as far as this can be done; when
  `x` fails there is none.

The first is a congruence for `>>=`, so a sequence of stages computes the sequence of what they
compute (`computes_services`), and the second continues the first by a last stage
(`Computes.bind_delivers`).  What a command is worth is then a plain computation that may fail,
`Command.result`: its stages in their order, and at the end the data.  The commands deliver it
(`delivers_command`), and everything about exit codes and sinks is read off that computation.
-/

namespace ServiceCatalog

/-- What is done of the data that a computation yields, and the failure of the computation or of the
handing over. -/
def Effect.delivered (files : FileTree) :
    Except Failure (List Effect) → List Effect × Option Failure
  | .error f => ([], some f)
  | .ok data => allCarriedOut files data

namespace Run

variable {α β ε : Type}

/-- The run makes nothing but remarks, and ends as the computation. -/
def Computes (m : Run α) (x : Except Failure α) : Prop :=
  ∀ es, ∃ fs, m.run.run es = (x, es ++ fs) ∧ fs.filter Effect.isData = []

/-- The end of a run that fails or does not. -/
def ended : Option Failure → Except Failure Unit
  | some f => .error f
  | none => .ok ()

/-- The run hands over what the computation yields, as far as this can be done, and ends so. -/
def Delivers (files : FileTree) (m : Run Unit) (x : Except Failure (List Effect)) : Prop :=
  ∀ es, ∃ fs, m.run.run es = (ended (Effect.delivered files x).2, es ++ fs) ∧
    fs.filter Effect.isData = (Effect.delivered files x).1

/-! ## One stage -/

theorem computes_pure (a : α) : Computes (pure a) (.ok a) :=
  fun es => ⟨[], by rw [List.append_nil]; rfl, rfl⟩

theorem computes_fail (f : Failure) : Computes (fail f : Run α) (.error f) :=
  fun es => ⟨[], by rw [List.append_nil]; rfl, rfl⟩

theorem computes_orFail (failure : ε → Failure) (x : Except ε α) :
    Computes (orFail failure x) (x.mapError failure) := by
  cases x with
  | ok a => exact computes_pure a
  | error e => exact computes_fail (failure e)

theorem computes_emit {effects : List Effect} (h : effects.filter Effect.isData = []) :
    Computes (emit effects) (.ok ()) :=
  fun _ => ⟨effects, rfl, h⟩

/-! ## Stage after stage -/

variable {files : FileTree} {m : Run α} {k : α → Run β} {x : Except Failure α}
  {es fs : List Effect}

theorem run_bind_of_ok {a : α} (h : m.run.run es = (.ok a, fs)) :
    (m >>= k).run.run es = (k a).run.run fs := by
  rw [ExceptT.run_bind, StateT.run_bind, h]
  rfl

theorem run_bind_of_error {f : Failure} (h : m.run.run es = (.error f, fs)) :
    (m >>= k).run.run es = (.error f, fs) := by
  rw [ExceptT.run_bind, StateT.run_bind, h]
  rfl

/-- The effects of two stages stand one behind the other. -/
theorem run_bind_append {a : α} {r : Except Failure β} {gs : List Effect}
    (hm : m.run.run es = (.ok a, es ++ fs)) (hk : (k a).run.run (es ++ fs) = (r, es ++ fs ++ gs)) :
    (m >>= k).run.run es = (r, es ++ (fs ++ gs)) := by
  rw [run_bind_of_ok hm, hk, List.append_assoc]

theorem Computes.bind {g : α → Except Failure β} (hm : Computes m x)
    (hk : ∀ a, Computes (k a) (g a)) : Computes (m >>= k) (x >>= g) := by
  intro es
  obtain ⟨fs, hfs, hnone⟩ := hm es
  cases x with
  | error f => exact ⟨fs, run_bind_of_error hfs, hnone⟩
  | ok a =>
    obtain ⟨gs, hgs, hnone'⟩ := hk a (es ++ fs)
    refine ⟨fs ++ gs, run_bind_append hfs hgs, ?_⟩
    rw [List.filter_append, hnone, hnone', List.append_nil]

theorem Computes.bind_delivers {k : α → Run Unit} {g : α → Except Failure (List Effect)}
    (hm : Computes m x) (hk : ∀ a, Delivers files (k a) (g a)) :
    Delivers files (m >>= k) (x >>= g) := by
  intro es
  obtain ⟨fs, hfs, hnone⟩ := hm es
  cases x with
  | error f => exact ⟨fs, run_bind_of_error hfs, hnone⟩
  | ok a =>
    obtain ⟨gs, hgs, hdata⟩ := hk a (es ++ fs)
    refine ⟨fs ++ gs, run_bind_append hfs hgs, ?_⟩
    rw [List.filter_append, hnone, List.nil_append]
    exact hdata

/-- A remark in front changes nothing of what is computed. -/
theorem Computes.of_remark {m : Run Unit} {k : Unit → Run β} {y : Except Failure β}
    (hm : Computes m (.ok ())) (hk : Computes (k ()) y) : Computes (m >>= k) y :=
  hm.bind fun _ => hk

/-- A remark at the end changes nothing of what was handed over. -/
theorem Delivers.bind_remark {m : Run Unit} {k : Unit → Run Unit}
    {x : Except Failure (List Effect)} (hm : Delivers files m x) (hk : Computes (k ()) (.ok ())) :
    Delivers files (m >>= k) x := by
  intro es
  obtain ⟨fs, hfs, hdata⟩ := hm es
  cases hend : (Effect.delivered files x).2 with
  | some f =>
    rw [hend] at hfs
    exact ⟨fs, run_bind_of_error hfs, hdata⟩
  | none =>
    rw [hend] at hfs
    obtain ⟨gs, hgs, hnone⟩ := hk (es ++ fs)
    refine ⟨fs ++ gs, run_bind_append hfs hgs, ?_⟩
    rw [List.filter_append, hnone, List.append_nil]
    exact hdata

/-- The last stage hands over what it is given, as far as this can be done. -/
theorem delivers_handOver {s : Surroundings} {data : List Effect} (h : Effect.IsDelivery data) :
    Delivers s.files (handOver s data) (.ok data) := by
  intro es
  refine ⟨(Effect.allCarriedOut s.files data).1, ?_, h.allCarriedOut.filter_isData⟩
  have hemit : (emit (Effect.allCarriedOut s.files data).1).run.run es =
      (.ok (), es ++ (Effect.allCarriedOut s.files data).1) := rfl
  rw [handOver, run_bind_of_ok hemit, Effect.delivered]
  cases (Effect.allCarriedOut s.files data).2 <;> rfl

end Run

/-! ## Remarks -/

namespace Console

variable {c : Console} {text : String} {es : List Effect}

theorem remark_eq_ok {marked plain : String} (h : c.remark marked plain = .ok es) :
    ∃ line, es = [.remark line] := by
  unfold remark at h
  split at h
  · obtain ⟨cs, -, hcs⟩ := Attempt.bind_eq_ok.mp h
    exact ⟨_, (Attempt.pure_eq_ok.mp hcs).symm⟩
  · cases h
    exact ⟨_, rfl⟩

theorem filter_remark {marked plain : String} (h : c.remark marked plain = .ok es) :
    es.filter Effect.isData = [] := by
  obtain ⟨line, rfl⟩ := remark_eq_ok h
  rfl

theorem filter_debug (h : c.debug text = .ok es) : es.filter Effect.isData = [] := by
  unfold debug at h
  split at h
  · exact filter_remark h
  · cases h
    rfl

theorem filter_info (h : c.info text = .ok es) : es.filter Effect.isData = [] := by
  unfold info at h
  split at h
  · cases h
    rfl
  · exact filter_remark h

theorem filter_suggest (h : c.suggest text = .ok es) : es.filter Effect.isData = [] := by
  unfold suggest at h
  split at h
  · cases h
    rfl
  · exact filter_remark h

theorem filter_log (topic text : String) : (c.log topic text).filter Effect.isData = [] := by
  unfold log
  split <;> rfl

/-- Something informative without a bracket is always said. -/
theorem exists_info_eq_ok (h : '[' ∉ text.toList) : ∃ es, c.info text = .ok es := by
  unfold info remark
  split
  · exact ⟨_, rfl⟩
  · split
    · rw [Terminal.markedUp_of_notMem h]
      exact ⟨_, rfl⟩
    · exact ⟨_, rfl⟩

theorem isDelivery_document (j : Json) : Effect.IsDelivery [c.document j] := by
  unfold document
  cases c.outputFile with
  | none => exact .texts [j.render ++ "\n"]
  | some path =>
    dsimp only
    split
    · exact .texts [j.render ++ "\n"]
    · exact .file path (j.render ++ "\n")

theorem isDelivery_table (headers : List String) (rows : List (List String)) :
    Effect.IsDelivery (c.table headers rows) := by
  unfold table
  cases c.format with
  | json => exact .texts [_]
  | plain =>
    have h := Effect.IsDelivery.texts ((headers :: rows).map fun row => cells row ++ "\n")
    rw [List.map_map] at h
    exact h

theorem isDelivery_details (fields : List (String × String)) :
    Effect.IsDelivery (c.details fields) := by
  unfold details
  cases c.format with
  | json => exact .texts [_]
  | plain =>
    have h := Effect.IsDelivery.texts (fields.map fun f => f.1 ++ "\t" ++ f.2 ++ "\n")
    rw [List.map_map] at h
    exact h

end Console

/-- A remark is made, unless its marks are faulty. -/
def Console.said (x : Except Terminal.MarkupFault (List Effect)) : Except Failure Unit :=
  (x.mapError .remark).map fun _ => ()

theorem Run.computes_say {x : Except Terminal.MarkupFault (List Effect)}
    (h : ∀ es, x = .ok es → es.filter Effect.isData = []) :
    Run.Computes (Run.say x) (Console.said x) := by
  cases x with
  | error e => exact Run.computes_fail (.remark e)
  | ok es => exact Run.computes_emit (h es rfl)

/-! ## The stages of a command, without what is said -/

/-- The services of the document from a source: the settings are resolved, the document is loaded,
its version is checked, and its references are looked up. -/
def Options.found (s : Surroundings) (o : Options) (source : String) :
    Except Failure (List Service) := do
  let chosen ← (Settings.resolve s o.configuration).mapError .settings
  -- Only a verbose run with colours can fail here.
  Console.said ((o.console s.environment).debug ("Loading document: " ++ source))
  let doc ← ((Source.ofText source).load s).mapError .load
  let found ← (extract doc chosen).mapError .document
  return found.services

namespace Service

/-- The services with a name, or all of them. -/
def selected (services : List Service) : Option String → Except Failure (List Service)
  | none => .ok services
  | some name =>
    match services.filter fun s => s.name = name with
    | [] => .error (.unknownService name)
    | found => .ok found

/-- The first operation with a name or an id, and its service. -/
def sought (services : List Service) (name : String) : Except Failure (Service × Operation) :=
  match (services.flatMap fun s => s.operations.map fun o => (s, o)).find?
      fun p => p.2.name = name || p.2.id = name with
  | some p => .ok p
  | none => .error (.unknownOperation name)

end Service

/-- The data that a command is to hand over, or the first of its stages that fails. -/
def Command.result (s : Surroundings) (o : Options) : Command → Except Failure (List Effect)
  | .extract source => do
    let found ← o.found s source
    let j ← (Service.records found).mapError .unwritable
    let j ← j.ensureWritable.mapError .unwritable
    return [(o.console s.environment).document j]
  | .services source => do
    let found ← o.found s source
    return (o.console s.environment).table serviceHeaders (found.map Service.row)
  | .operations source service => do
    let found ← o.found s source
    let selected ← Service.selected found service
    return (o.console s.environment).table operationHeaders (selected.flatMap Service.rows)
  | .operation source name service => do
    let found ← o.found s source
    let selected ← Service.selected found service
    let p ← Service.sought selected name
    match (o.console s.environment).format with
    | .json => do
      let j ← p.2.record.mapError .unwritable
      let j ← j.ensureWritable.mapError .unwritable
      return [(o.console s.environment).document j]
    | .plain => return (o.console s.environment).details (p.2.details p.1.name)

/-! ## The runs compute their stages -/

namespace Run

variable {s : Surroundings} {o : Options} {c : Console}

theorem computes_log (topic text : String) : Computes (emit (c.log topic text)) (.ok ()) :=
  computes_emit (Console.filter_log topic text)

theorem computes_debug (text : String) :
    Computes (say (c.debug text)) (Console.said (c.debug text)) :=
  computes_say fun _ h => Console.filter_debug h

theorem computes_settings (option : Option String) :
    Computes (settings s c option) ((Settings.resolve s option).mapError .settings) := by
  have hlog : ∀ text : Option String,
      Computes (emit (text.toList.flatMap (c.log "oasvc.config"))) (.ok ()) := by
    intro text
    cases text with
    | none => exact computes_emit rfl
    | some text =>
      refine computes_emit ?_
      rw [Option.toList_some, List.flatMap_singleton]
      exact Console.filter_log "oasvc.config" text
  refine (hlog (Settings.source s option).opening).of_remark ?_
  rw [← bind_pure ((Settings.resolve s option).mapError Failure.settings)]
  refine (computes_orFail .settings (Settings.resolve s option)).bind fun found => ?_
  exact (hlog (Settings.source s option).closing).of_remark (computes_pure found)

theorem computes_services (source : String) :
    Computes (services s (o.console s.environment) o source) (o.found s source) := by
  refine (computes_settings o.configuration).bind fun chosen => ?_
  refine (computes_debug ("Loading document: " ++ source)).bind fun _ => ?_
  refine (computes_log _ _).of_remark ?_
  refine (computes_orFail .load _).bind fun doc => ?_
  refine (computes_orFail .document _).bind fun found => ?_
  exact (computes_log _ _).of_remark (computes_pure found.services)

theorem computes_select (services : List Service) (name : Option String) :
    Computes (select services name) (Service.selected services name) := by
  unfold select Service.selected
  cases name with
  | none => exact computes_pure services
  | some name =>
    dsimp only
    generalize services.filter (fun s => s.name = name) = found
    cases found with
    | nil => exact computes_fail (.unknownService name)
    | cons first others => exact computes_pure (first :: others)

theorem computes_find (services : List Service) (name : String) :
    Computes (find services name) (Service.sought services name) := by
  unfold find Service.sought
  dsimp only
  generalize (services.flatMap fun s => s.operations.map fun o => (s, o)).find?
    (fun p => p.2.name = name || p.2.id = name) = found
  cases found with
  | none => exact computes_fail (.unknownOperation name)
  | some p => exact computes_pure p

theorem delivers_document (j : Json) :
    Delivers s.files (document s c j) (do
      let j ← j.ensureWritable.mapError .unwritable
      return [c.document j]) := by
  refine (computes_orFail .unwritable j.ensureWritable).bind_delivers fun j => ?_
  exact delivers_handOver (Console.isDelivery_document j)

/-- What is said at the end of an extraction has no marks, so it is always said. -/
theorem computes_closing (services operations : Nat) :
    Computes (say (c.info s!"Extracted {services} services, {operations} operations."))
      (.ok ()) := by
  have hdigits : ∀ n : Nat, '[' ∉ (toString n).toList := by
    intro n hmem
    rw [Nat.toString_eq_repr, Nat.toList_repr] at hmem
    have hdigit := Nat.isDigit_of_mem_toDigits (b := 10) (by decide) (by decide) hmem
    cases hdigit
  have hplain : '[' ∉ s!"Extracted {services} services, {operations} operations.".toList := by
    have hwords : '[' ∉ "Extracted ".toList ∧ '[' ∉ " services, ".toList ∧
        '[' ∉ " operations.".toList := by decide +kernel
    simp only [String.toList_append, List.mem_append, not_or]
    exact ⟨⟨⟨⟨hwords.1, hdigits services⟩, hwords.2.1⟩, hdigits operations⟩, hwords.2.2⟩
  obtain ⟨es, hes⟩ := Console.exists_info_eq_ok (c := c) hplain
  have h := computes_say (x := c.info s!"Extracted {services} services, {operations} operations.")
    fun _ h => Console.filter_info h
  rw [hes] at h ⊢
  exact h

/-- **A command hands over its data**, as far as this can be done. -/
theorem delivers_command (cmd : Command) :
    Delivers s.files (command s o (o.console s.environment) cmd) (cmd.result s o) := by
  cases cmd with
  | extract source =>
    refine (computes_services source).bind_delivers fun found => ?_
    refine (computes_orFail .unwritable _).bind_delivers fun j => ?_
    exact (delivers_document j).bind_remark (computes_closing _ _)
  | services source =>
    refine (computes_services source).bind_delivers fun found => ?_
    exact delivers_handOver (Console.isDelivery_table serviceHeaders _)
  | operations source service =>
    refine (computes_services source).bind_delivers fun found => ?_
    refine (computes_select found service).bind_delivers fun selected => ?_
    exact delivers_handOver (Console.isDelivery_table operationHeaders _)
  | operation source name service =>
    refine (computes_services source).bind_delivers fun found => ?_
    refine (computes_select found service).bind_delivers fun selected => ?_
    refine (computes_find selected name).bind_delivers fun p => ?_
    dsimp only
    cases (o.console s.environment).format with
    | json => exact (computes_orFail .unwritable _).bind_delivers fun j => delivers_document j
    | plain => exact delivers_handOver (Console.isDelivery_details _)

end Run

/-- The data of a command is one file, or texts on the standard output. -/
theorem Command.isDelivery_of_result {s : Surroundings} {o : Options} {cmd : Command}
    {data : List Effect} (h : cmd.result s o = .ok data) : Effect.IsDelivery data := by
  cases cmd with
  | extract source =>
    simp only [result, Attempt.bind_eq_ok, Attempt.pure_eq_ok] at h
    obtain ⟨_, -, _, -, j, -, rfl⟩ := h
    exact Console.isDelivery_document j
  | services source =>
    simp only [result, Attempt.bind_eq_ok, Attempt.pure_eq_ok] at h
    obtain ⟨_, -, rfl⟩ := h
    exact Console.isDelivery_table _ _
  | operations source service =>
    simp only [result, Attempt.bind_eq_ok, Attempt.pure_eq_ok] at h
    obtain ⟨_, -, _, -, rfl⟩ := h
    exact Console.isDelivery_table _ _
  | operation source name service =>
    simp only [result, Attempt.bind_eq_ok] at h
    obtain ⟨_, -, _, -, p, -, h⟩ := h
    split at h
    · simp only [Attempt.bind_eq_ok, Attempt.pure_eq_ok] at h
      obtain ⟨_, -, j, -, rfl⟩ := h
      exact Console.isDelivery_document j
    · rw [← Attempt.pure_eq_ok.mp h]
      exact Console.isDelivery_details _

end ServiceCatalog
