import Mathlib.Order.Basic

/-!
# Computations that may fail

Whatever reads a document may come across a reference that leads nowhere, and then the whole reading
fails.  This file says once what that means for a sequence of steps.

* `bind_eq_ok`, `bind_eq_error`, and likewise for `map` and `mapError`: how a composite ends.
* `foldlM_preserves`: what every step preserves, a run preserves.
* `exists_step_of_foldlM_eq_ok`: in a run that succeeds every step has succeeded.
* `exists_step_of_foldlM_eq_error`: a run fails because of one of its steps, and with the failure of
  that step.
* `foldlM_map`: a change of the start that every step carries along is carried along by a run.

The runs are those of `List.foldlM`, so a property of the state is carried from the front of the
list to its back.
-/

namespace ServiceCatalog
namespace Attempt

universe u

variable {ε ε' α β : Type u}

/-! ## How a composite ends -/

theorem bind_eq_ok {x : Except ε α} {f : α → Except ε β} {b : β} :
    x >>= f = .ok b ↔ ∃ a, x = .ok a ∧ f a = .ok b := by
  cases x <;> simp [bind, Except.bind]

theorem bind_eq_error {x : Except ε α} {f : α → Except ε β} {e : ε} :
    x >>= f = .error e ↔ x = .error e ∨ ∃ a, x = .ok a ∧ f a = .error e := by
  cases x <;> simp [bind, Except.bind]

@[simp] theorem pure_eq_ok {a b : α} : (pure a : Except ε α) = .ok b ↔ a = b := by
  simp [pure, Except.pure]

@[simp] theorem pure_ne_error {a : α} {e : ε} : (pure a : Except ε α) ≠ .error e := by
  simp [pure, Except.pure]

@[simp] theorem map_eq_ok {x : Except ε α} {f : α → β} {b : β} :
    x.map f = .ok b ↔ ∃ a, x = .ok a ∧ f a = b := by
  cases x <;> simp [Except.map]

@[simp] theorem map_eq_error {x : Except ε α} {f : α → β} {e : ε} :
    x.map f = .error e ↔ x = .error e := by
  cases x <;> simp [Except.map]

@[simp] theorem mapError_eq_ok {x : Except ε α} {f : ε → ε'} {a : α} :
    x.mapError f = .ok a ↔ x = .ok a := by
  cases x <;> simp [Except.mapError]

@[simp] theorem mapError_eq_error {x : Except ε α} {f : ε → ε'} {e : ε'} :
    x.mapError f = .error e ↔ ∃ c, x = .error c ∧ f c = e := by
  cases x <;> simp [Except.mapError]

theorem exists_eq_ok_of_isOk {x : Except ε α} (h : x.isOk = true) : ∃ a, x = .ok a := by
  cases x with
  | error e => cases h
  | ok a => exact ⟨a, rfl⟩

/-! ## Runs -/

variable {step : β → α → Except ε β} {as : List α} {s t : β}

/-- What every step preserves, a run preserves. -/
theorem foldlM_preserves {P : β → Prop}
    (hstep : ∀ a ∈ as, ∀ s t, P s → step s a = .ok t → P t)
    (hs : P s) (h : as.foldlM step s = .ok t) : P t := by
  induction as generalizing s with
  | nil =>
    rw [List.foldlM_nil, pure_eq_ok] at h
    rwa [← h]
  | cons a as ih =>
    rw [List.foldlM_cons, bind_eq_ok] at h
    obtain ⟨m, hm, h⟩ := h
    have hPm : P m := hstep a List.mem_cons_self s m hs hm
    exact ih (fun b hb => hstep b (List.mem_cons_of_mem a hb)) hPm h

/-- In a run that succeeds every step has succeeded, from a state with whatever all steps
preserve. -/
theorem exists_step_of_foldlM_eq_ok {P : β → Prop}
    (hstep : ∀ a ∈ as, ∀ s t, P s → step s a = .ok t → P t)
    (hs : P s) (h : as.foldlM step s = .ok t) {a : α} (ha : a ∈ as) :
    ∃ m m', P m ∧ step m a = .ok m' := by
  induction as generalizing s with
  | nil => exact absurd ha List.not_mem_nil
  | cons b as ih =>
    rw [List.foldlM_cons, bind_eq_ok] at h
    obtain ⟨m, hm, h⟩ := h
    rcases List.mem_cons.mp ha with rfl | ha
    · exact ⟨s, m, hs, hm⟩
    · have hPm : P m := hstep b List.mem_cons_self s m hs hm
      exact ih (fun c hc => hstep c (List.mem_cons_of_mem b hc)) hPm h ha

/-- A run fails because of one of its steps, and with the failure of that step. -/
theorem exists_step_of_foldlM_eq_error {P : β → Prop}
    (hstep : ∀ a ∈ as, ∀ s t, P s → step s a = .ok t → P t)
    (hs : P s) {e : ε} (h : as.foldlM step s = .error e) :
    ∃ a ∈ as, ∃ m, P m ∧ step m a = .error e := by
  induction as generalizing s with
  | nil =>
    rw [List.foldlM_nil] at h
    exact absurd h pure_ne_error
  | cons b as ih =>
    rw [List.foldlM_cons, bind_eq_error] at h
    rcases h with h | ⟨m, hm, h⟩
    · exact ⟨b, List.mem_cons_self, s, hs, h⟩
    · have hPm : P m := hstep b List.mem_cons_self s m hs hm
      obtain ⟨a, ha, m', hm', hf⟩ := ih (fun c hc => hstep c (List.mem_cons_of_mem b hc)) hPm h
      exact ⟨a, List.mem_cons_of_mem b ha, m', hm', hf⟩

/-- A change of the start that every step carries along is carried along by a run. -/
theorem foldlM_map {f : β → β} (hstep : ∀ a ∈ as, ∀ s, step (f s) a = (step s a).map f) (s : β) :
    as.foldlM step (f s) = (as.foldlM step s).map f := by
  induction as generalizing s with
  | nil => rfl
  | cons a as ih =>
    rw [List.foldlM_cons, List.foldlM_cons, hstep a List.mem_cons_self]
    cases step s a with
    | error e => rfl
    | ok t => exact ih (fun b hb => hstep b (List.mem_cons_of_mem a hb)) t

end Attempt
end ServiceCatalog
