import ServiceCatalog.Proofs.Attempt

/-!
# What a computation demands

A reading of a document may fail because it demands something of the document besides walking
through it: that a reference leads somewhere, or that an integer is short enough to be written out.
`Demands meet x C` says that the demands in `C` are the ones that decide whether `x` succeeds.  A
failure of `x` is the failure to meet a demand in `C`, and if `x` succeeds, then every demand in `C`
is met.

The laws below follow the ways in which computations are composed.

* `bind`: what is demanded second may depend on what was found first, or on what would have been
  found (`bindOf`).
* `andThen`: if it does not, then it belongs to `C` also when the first part fails.
* `foldlM`: a run demands what its steps demand.
-/

namespace ServiceCatalog

open Attempt

variable {δ ε ε' α β γ : Type}

/-- The demands in `C` decide whether `x` succeeds. -/
structure Demands (meet : δ → Except ε γ) (x : Except ε α) (C : δ → Prop) : Prop where
  fails : ∀ e, x = .error e → ∃ d, C d ∧ meet d = .error e
  succeeds : ∀ a, x = .ok a → ∀ d, C d → ∃ c, meet d = .ok c

namespace Demands

variable {meet : δ → Except ε γ} {x : Except ε α} {C D : δ → Prop}

/-- It fails exactly when one of the demands is not met. -/
theorem error_iff (h : Demands meet x C) :
    (∃ e, x = .error e) ↔ ∃ d, C d ∧ ∃ e, meet d = .error e := by
  constructor
  · rintro ⟨e, he⟩
    obtain ⟨d, hC, hmeet⟩ := h.fails e he
    exact ⟨d, hC, e, hmeet⟩
  · rintro ⟨d, hC, e, hmeet⟩
    cases hx : x with
    | error e' => exact ⟨e', rfl⟩
    | ok a =>
      obtain ⟨c, hc⟩ := h.succeeds a hx d hC
      rw [hc] at hmeet
      cases hmeet

theorem congr (h : Demands meet x C) (hCD : ∀ d, C d ↔ D d) : Demands meet x D where
  fails := by
    intro e he
    obtain ⟨d, hC, hmeet⟩ := h.fails e he
    exact ⟨d, (hCD d).mp hC, hmeet⟩
  succeeds := by
    intro a ha d hD
    exact h.succeeds a ha d ((hCD d).mpr hD)

theorem ok (a : α) : Demands meet (.ok a) fun _ => False where
  fails := by
    intro e he
    cases he
  succeeds := by
    intro _ _ d hC
    exact hC.elim

theorem single (d : δ) : Demands meet (meet d) fun d' => d' = d where
  fails := by
    intro e he
    exact ⟨d, rfl, he⟩
  succeeds := by
    rintro c hc d' rfl
    exact ⟨c, hc⟩

theorem map {f : α → β} (h : Demands meet x C) : Demands meet (x.map f) C where
  fails := by
    intro e he
    rw [map_eq_error] at he
    exact h.fails e he
  succeeds := by
    intro b hb
    rw [map_eq_ok] at hb
    obtain ⟨a, ha, -⟩ := hb
    exact h.succeeds a ha

theorem of_map {f : α → β} (h : Demands meet (x.map f) C) : Demands meet x C where
  fails := by
    intro e he
    exact h.fails e (map_eq_error.mpr he)
  succeeds := by
    intro a ha
    exact h.succeeds (f a) (map_eq_ok.mpr ⟨a, ha, rfl⟩)

theorem mapError {f : ε → ε'} (h : Demands meet x C) :
    Demands (fun d => (meet d).mapError f) (x.mapError f) C where
  fails := by
    intro e he
    rw [mapError_eq_error] at he
    obtain ⟨c, hc, rfl⟩ := he
    obtain ⟨d, hC, hmeet⟩ := h.fails c hc
    exact ⟨d, hC, mapError_eq_error.mpr ⟨c, hmeet, rfl⟩⟩
  succeeds := by
    intro a ha d hC
    rw [mapError_eq_ok] at ha
    obtain ⟨c, hc⟩ := h.succeeds a ha d hC
    exact ⟨c, mapError_eq_ok.mpr hc⟩

/-- A composite demands what its second part demands of what the first part finds.  What that would
be may be known (`Q`) also where the first part fails. -/
theorem bindOf {f : α → Except ε β} {Q : α → Prop} {D : α → δ → Prop} (hx : Demands meet x C)
    (hQ : ∀ a, x = .ok a → ∀ b, Q b ↔ b = a) (hf : ∀ a, x = .ok a → Demands meet (f a) (D a)) :
    Demands meet (x >>= f) fun d => C d ∨ ∃ a, Q a ∧ D a d where
  fails := by
    intro e he
    rcases bind_eq_error.mp he with he | ⟨a, ha, he⟩
    · obtain ⟨d, hC, hmeet⟩ := hx.fails e he
      exact ⟨d, .inl hC, hmeet⟩
    · obtain ⟨d, hD, hmeet⟩ := (hf a ha).fails e he
      exact ⟨d, .inr ⟨a, (hQ a ha a).mpr rfl, hD⟩, hmeet⟩
  succeeds := by
    intro b hb d hd
    obtain ⟨a, ha, hb⟩ := bind_eq_ok.mp hb
    rcases hd with hC | ⟨a', hQa', hD⟩
    · exact hx.succeeds a ha d hC
    · obtain rfl := (hQ a ha a').mp hQa'
      exact (hf a' ha).succeeds b hb d hD

/-- A composite demands what its second part demands of what the first part has found. -/
theorem bind {f : α → Except ε β} {D : α → δ → Prop} (hx : Demands meet x C)
    (hf : ∀ a, x = .ok a → Demands meet (f a) (D a)) :
    Demands meet (x >>= f) fun d => C d ∨ ∃ a, x = .ok a ∧ D a d := by
  refine hx.bindOf (fun a ha b => ?_) hf
  rw [ha, Except.ok.injEq, eq_comm]

/-- A composite demands what its two parts demand, if the second part always demands the same. -/
theorem andThen {f : α → Except ε β} (hx : Demands meet x C)
    (hf : ∀ a, x = .ok a → Demands meet (f a) D) :
    Demands meet (x >>= f) fun d => C d ∨ D d where
  fails := by
    intro e he
    rcases bind_eq_error.mp he with he | ⟨a, ha, he⟩
    · obtain ⟨d, hC, hmeet⟩ := hx.fails e he
      exact ⟨d, .inl hC, hmeet⟩
    · obtain ⟨d, hD, hmeet⟩ := (hf a ha).fails e he
      exact ⟨d, .inr hD, hmeet⟩
  succeeds := by
    intro b hb d hd
    obtain ⟨a, ha, hb⟩ := bind_eq_ok.mp hb
    rcases hd with hC | hD
    · exact hx.succeeds a ha d hC
    · exact (hf a ha).succeeds b hb d hD

/-- A run demands what its steps demand, from whatever state they start. -/
theorem foldlM {step : β → α → Except ε β} {as : List α} {s : β} {C : α → δ → Prop}
    {P : β → Prop} (hstep : ∀ a ∈ as, ∀ s t, P s → step s a = .ok t → P t)
    (hdemand : ∀ a ∈ as, ∀ s, P s → Demands meet (step s a) (C a)) (hs : P s) :
    Demands meet (as.foldlM step s) fun d => ∃ a ∈ as, C a d where
  fails := by
    intro e he
    obtain ⟨a, ha, m, hm, hfail⟩ := exists_step_of_foldlM_eq_error hstep hs he
    obtain ⟨d, hC, hmeet⟩ := (hdemand a ha m hm).fails e hfail
    exact ⟨d, ⟨a, ha, hC⟩, hmeet⟩
  succeeds := by
    rintro t ht d ⟨a, ha, hC⟩
    obtain ⟨m, m', hm, hok⟩ := exists_step_of_foldlM_eq_ok hstep hs ht ha
    exact (hdemand a ha m hm).succeeds m' hok d hC

end Demands
end ServiceCatalog
