import ServiceCatalog.Proofs.ErrorLines
import ServiceCatalog.Proofs.Stages

/-!
# How a failure is accounted for

A failure is reported in a line that begins with `Error:`, it may be followed by a hint, and the run
ends with a code.  The code stands for the stage that failed (`Failure.stageCode`), with one
exception: some documents are not loaded for a reason that loading does not foresee
(`Failure.IsUnforeseenLoad`), and those count as a failure of any kind.

With colours the report may be faulty itself, because it holds marks (`Command.IsTold`).  Then the
fault is reported in its place, with the code of a failure of any kind, and if that cannot be done
either, the run ends without a line.  `exists_finish` has the cases side by side; nothing is handed
over in any of them.
-/

namespace ServiceCatalog

/-- The run has printed the line that reports a failure, and the line is known by its label. -/
def Outcome.Reports (r : Outcome) (c : Console) (f : Failure) : Prop :=
  ∃ line, c.error f.message = .ok [.remark line] ∧ "Error:".toList <+: line.toList ∧
    .remark line ∈ r.effects

/-! ## The codes of the stages -/

namespace Failure

variable {f : Failure}

theorem exitCode_ne_zero (f : Failure) : f.exitCode ≠ 0 := by
  unfold exitCode
  split
  · exact Nat.one_ne_zero
  · split <;> exact Nat.succ_ne_zero _

end Failure

/-! ## Reports on failures -/

namespace Command

variable {c : Console} {cmd : Command} {f : Failure} {es : List Effect}

/-- The report on a failure of the command, and the hint that may follow it, are without faults. -/
def IsTold (c : Console) (cmd : Command) (f : Failure) : Prop :=
  (∃ ls, c.error f.message = .ok ls) ∧
    ∀ hint, cmd.hint? f = some hint → ∃ ls, c.suggest hint = .ok ls

theorem run_account_of_error {cause : Terminal.MarkupFault}
    (h : c.error f.message = .error cause) :
    (cmd.account c f).run.run es = (.error (.remark cause), es) := by
  unfold account
  rw [h]
  exact Run.run_bind_of_error rfl

/-- What accounting for a failure comes to: it makes some effects and ends in one of two ways. -/
structure Accounted (c : Console) (cmd : Command) (f : Failure) (es fs : List Effect)
    (x : Except Failure Nat) : Prop where
  run : (cmd.account c f).run.run es = (x, es ++ fs)
  noData : fs.filter Effect.isData = []
  /-- The end is the exit code of the failure if all of the report can be made, and otherwise the
  fault in it. -/
  result : (x = .ok f.exitCode ∧ cmd.IsTold c f) ∨
    ∃ cause, x = .error (.remark cause) ∧ ¬ cmd.IsTold c f
  line : ∀ ls, c.error f.message = .ok ls →
    ∃ line, c.error f.message = .ok [.remark line] ∧ .remark line ∈ fs

theorem accounted_of_error {cause : Terminal.MarkupFault}
    (herror : c.error f.message = .error cause) :
    Accounted c cmd f es [] (.error (.remark cause)) where
  run := by
    rw [List.append_nil]
    exact run_account_of_error herror
  noData := rfl
  result := by
    refine .inr ⟨cause, rfl, ?_⟩
    rintro ⟨⟨ls, hls⟩, -⟩
    rw [herror] at hls
    cases hls
  line ls hls := by
    rw [herror] at hls
    cases hls

theorem run_say_line (line : String) (es : List Effect) :
    (Run.say (.ok [.remark line])).run.run es = (.ok (), es ++ [.remark line]) := rfl

section line

variable {line : String} (herror : c.error f.message = .ok [.remark line])
include herror

/-- Behind the line of the failure stands its hint. -/
theorem run_account_of_hint {hint : String} (hhint : cmd.hint? f = some hint) :
    (cmd.account c f).run.run es =
      (Run.say (c.suggest hint) >>= fun _ => pure f.exitCode : Run Nat).run.run
        (es ++ [.remark line]) := by
  unfold account
  rw [herror, Run.run_bind_of_ok (run_say_line line es), hhint]

theorem accounted_of_noHint (hhint : cmd.hint? f = none) :
    Accounted c cmd f es [.remark line] (.ok f.exitCode) where
  run := by
    unfold account
    rw [herror, Run.run_bind_of_ok (run_say_line line es), hhint]
    rfl
  noData := rfl
  result := by
    refine .inl ⟨rfl, ⟨_, herror⟩, fun hint h => ?_⟩
    rw [hhint] at h
    cases h
  line _ _ := ⟨line, herror, List.mem_singleton_self _⟩

theorem accounted_of_hint {hint : String} {ls : List Effect} (hhint : cmd.hint? f = some hint)
    (hsuggest : c.suggest hint = .ok ls) :
    Accounted c cmd f es (.remark line :: ls) (.ok f.exitCode) where
  run := by
    rw [run_account_of_hint herror hhint, hsuggest]
    exact congrArg (Prod.mk _) (List.append_assoc es [.remark line] ls)
  noData := by
    rw [List.filter_cons_of_neg Bool.false_ne_true]
    exact Console.filter_suggest hsuggest
  result := by
    refine .inl ⟨rfl, ⟨_, herror⟩, fun hint' h => ?_⟩
    rw [hhint] at h
    cases h
    exact ⟨ls, hsuggest⟩
  line _ _ := ⟨line, herror, List.mem_cons_self⟩

theorem accounted_of_hint_error {hint : String} {cause : Terminal.MarkupFault}
    (hhint : cmd.hint? f = some hint) (hsuggest : c.suggest hint = .error cause) :
    Accounted c cmd f es [.remark line] (.error (.remark cause)) where
  run := by
    rw [run_account_of_hint herror hhint, hsuggest]
    exact Run.run_bind_of_error rfl
  noData := rfl
  result := by
    refine .inr ⟨cause, rfl, ?_⟩
    rintro ⟨-, htold⟩
    obtain ⟨ls, hls⟩ := htold hint hhint
    rw [hsuggest] at hls
    cases hls
  line _ _ := ⟨line, herror, List.mem_singleton_self _⟩

end line

theorem exists_account (c : Console) (cmd : Command) (f : Failure) (es : List Effect) :
    ∃ fs x, Accounted c cmd f es fs x := by
  cases herror : c.error f.message with
  | error cause => exact ⟨_, _, accounted_of_error herror⟩
  | ok ls =>
    obtain ⟨line, rfl⟩ := Console.remark_eq_ok herror
    cases hhint : cmd.hint? f with
    | none => exact ⟨_, _, accounted_of_noHint herror hhint⟩
    | some hint =>
      cases hsuggest : c.suggest hint with
      | error cause => exact ⟨_, _, accounted_of_hint_error herror hhint hsuggest⟩
      | ok ls => exact ⟨_, _, accounted_of_hint herror hhint hsuggest⟩

/-- The line of a failure is among what was said when it was accounted for. -/
theorem Accounted.reports {fs : List Effect} {x : Except Failure Nat} {r : Outcome}
    (h : Accounted c cmd f es fs x) (hfs : fs ⊆ r.effects)
    (herror : ∃ ls, c.error f.message = .ok ls) : r.Reports c f := by
  obtain ⟨ls, hls⟩ := herror
  obtain ⟨line, hline, hmem⟩ := h.line ls hls
  exact ⟨line, hline, Console.prefix_of_error hline, hfs hmem⟩

/-- How a run ends that failed: nothing is handed over any more, and the exit code is that of the
failure if all of the report on it can be made, and otherwise that of a failure of any kind. -/
structure Finished (c : Console) (cmd : Command) (f : Failure) (es fs : List Effect)
    (r : Outcome) : Prop where
  effects : r.effects = es ++ fs
  noData : fs.filter Effect.isData = []
  told : cmd.IsTold c f → r.exitCode = f.exitCode
  untold : ¬ cmd.IsTold c f → r.exitCode = 1
  reports : (∃ ls, c.error f.message = .ok ls) → r.Reports c f
  reportsSome : r.mishap? = none → ∃ g, r.Reports c g

theorem Finished.exitCode_ne_zero {fs : List Effect} {r : Outcome}
    (h : Finished c cmd f es fs r) : r.exitCode ≠ 0 := by
  by_cases htold : cmd.IsTold c f
  · rw [h.told htold]
    exact f.exitCode_ne_zero
  · rw [h.untold htold]
    exact Nat.one_ne_zero

/-- A fault in the report is reported in turn, once, and only if the failure was foreseen. -/
theorem exists_finish_of_fault {fs : List Effect} {cause : Terminal.MarkupFault}
    (hrun : (cmd.account c f).run.run es = (.error (.remark cause), es ++ fs)) :
    ∃ gs mishap, cmd.finish c f es = ⟨1, es ++ (fs ++ gs), mishap⟩ ∧
      gs.filter Effect.isData = [] ∧
      (mishap = none → (cmd.finish c f es).Reports c (.remark cause)) := by
  unfold finish
  rw [hrun]
  dsimp only
  by_cases hforeseen : f.isForeseen = true
  · obtain ⟨gs, y, hagain⟩ := exists_account c cmd (.remark cause) (es ++ fs)
    rw [if_pos hforeseen, hagain.run, List.append_assoc]
    have hsub : gs ⊆ es ++ (fs ++ gs) := fun e he =>
      List.mem_append_right es (List.mem_append_right fs he)
    rcases hagain.result with ⟨rfl, htold⟩ | ⟨fault, rfl, -⟩
    · exact ⟨gs, none, rfl, hagain.noData, fun _ => hagain.reports hsub htold.1⟩
    · exact ⟨gs, some fault, rfl, hagain.noData, fun h => by cases h⟩
  · rw [if_neg hforeseen]
    exact ⟨[], some cause, by rw [List.append_nil], rfl, fun h => by cases h⟩

theorem exists_finish (c : Console) (cmd : Command) (f : Failure) (es : List Effect) :
    ∃ fs, Finished c cmd f es fs (cmd.finish c f es) := by
  obtain ⟨fs, x, haccount⟩ := exists_account c cmd f es
  rcases haccount.result with ⟨rfl, htold⟩ | ⟨cause, rfl, htold⟩
  · have hfinish : cmd.finish c f es = ⟨f.exitCode, es ++ fs, none⟩ := by
      unfold finish
      rw [haccount.run]
    have hreports := haccount.reports (r := ⟨f.exitCode, es ++ fs, none⟩)
      (List.subset_append_right es fs)
    rw [hfinish]
    exact ⟨fs, rfl, haccount.noData, fun _ => rfl, fun h => absurd htold h, hreports,
      fun _ => ⟨f, hreports htold.1⟩⟩
  · obtain ⟨gs, mishap, hfinish, hnone, hlast⟩ := exists_finish_of_fault haccount.run
    have hnoData : (fs ++ gs).filter Effect.isData = [] := by
      rw [List.filter_append, haccount.noData, hnone]
      rfl
    rw [hfinish] at hlast ⊢
    exact ⟨fs ++ gs, rfl, hnoData, fun h => absurd h htold, fun _ => rfl,
      haccount.reports fun e he => List.mem_append_right es (List.mem_append_left gs he),
      fun hmishap => ⟨.remark cause, hlast hmishap⟩⟩

end Command
end ServiceCatalog
