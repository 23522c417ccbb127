import Mathlib.Data.List.Forall2
import ServiceCatalog.Proofs.Attempt

/-!
# Computations that end alike

Two documents are read side by side, and the question is whether the outcome is the same.  It need
not be the same failure: which reference is reported may well differ.  `Alike R x y` says that `x`
and `y` both fail, or that both succeed with results that `R` relates.

The laws below follow the ways in which computations are composed, as those of `Demands` do for a
single document.

* `bind`: two composites end alike if their first parts do, and their second parts on results that
  are related.
* `foldlM`: two runs over related lists end alike if their steps do.
-/

namespace ServiceCatalog

open Attempt

universe u

variable {ε ε' α β γ δ : Type u}

/-- Both computations fail, or both succeed with related results. -/
inductive Alike (R : α → β → Prop) : Except ε α → Except ε β → Prop
  | error (d e : ε) : Alike R (.error d) (.error e)
  | ok {a : α} {b : β} (h : R a b) : Alike R (.ok a) (.ok b)

namespace Alike

variable {R : α → β → Prop} {S : γ → δ → Prop} {x : Except ε α} {y : Except ε β}

theorem refl {T : α → α → Prop} (hrefl : ∀ a, T a a) (x : Except ε α) : Alike T x x := by
  cases x with
  | error e => exact .error e e
  | ok a => exact .ok (hrefl a)

theorem of_eq {x y : Except ε α} (h : x = y) : Alike Eq x y := by
  rw [h]
  exact refl (fun _ => rfl) y

theorem imp {T : α → β → Prop} (h : Alike R x y) (himp : ∀ a b, R a b → T a b) : Alike T x y := by
  cases h with
  | error d e => exact .error d e
  | ok h => exact .ok (himp _ _ h)

theorem trans {T : α → δ → Prop} {U : β → δ → Prop} {z : Except ε δ} (h : Alike R x y)
    (h' : Alike U y z) (htrans : ∀ a b c, R a b → U b c → T a c) : Alike T x z := by
  cases h with
  | error d e =>
    cases h' with
    | error _ f => exact .error d f
  | ok h =>
    cases h' with
    | ok h' => exact .ok (htrans _ _ _ h h')

theorem bind {f : α → Except ε γ} {g : β → Except ε δ} (h : Alike R x y)
    (hfg : ∀ a b, x = .ok a → R a b → Alike S (f a) (g b)) : Alike S (x >>= f) (y >>= g) := by
  cases h with
  | error d e => exact .error d e
  | ok h => exact hfg _ _ rfl h

theorem map {f : α → γ} {g : β → δ} (h : Alike R x y) (hfg : ∀ a b, R a b → S (f a) (g b)) :
    Alike S (x.map f) (y.map g) := by
  cases h with
  | error d e => exact .error d e
  | ok h => exact .ok (hfg _ _ h)

theorem mapError {f : ε → ε'} (h : Alike R x y) : Alike R (x.mapError f) (y.mapError f) := by
  cases h with
  | error d e => exact .error (f d) (f e)
  | ok h => exact .ok h

/-- Computations with equal results succeed with one of them, or fail both. -/
theorem eq_iff {x y : Except ε α} :
    Alike Eq x y ↔ (∃ a, x = .ok a ∧ y = .ok a) ∨ (∃ e, x = .error e) ∧ ∃ e, y = .error e := by
  constructor
  · rintro (⟨d, e⟩ | rfl)
    · exact .inr ⟨⟨d, rfl⟩, e, rfl⟩
    · exact .inl ⟨_, rfl, rfl⟩
  · rintro (⟨a, rfl, rfl⟩ | ⟨⟨d, rfl⟩, e, rfl⟩)
    · exact .ok rfl
    · exact .error d e

/-- Runs over related lists end alike if their steps do, from any state with what the steps
preserve. -/
theorem foldlM {T : α → β → Prop} {as : List α} {bs : List β} {step : γ → α → Except ε γ}
    {step' : γ → β → Except ε γ} {P : γ → Prop} {s : γ} (h : List.Forall₂ T as bs)
    (hP : ∀ a ∈ as, ∀ s t, P s → step s a = .ok t → P t)
    (hstep : ∀ a ∈ as, ∀ b, T a b → ∀ s, P s → Alike Eq (step s a) (step' s b)) (hs : P s) :
    Alike Eq (as.foldlM step s) (bs.foldlM step' s) := by
  induction h generalizing s with
  | nil => exact .ok rfl
  | cons hab _ ih =>
    rw [List.foldlM_cons, List.foldlM_cons]
    refine (hstep _ List.mem_cons_self _ hab s hs).bind ?_
    rintro t _ ht rfl
    have hPt : P t := hP _ List.mem_cons_self s t hs ht
    exact ih (fun a ha => hP a (List.mem_cons_of_mem _ ha))
      (fun a ha => hstep a (List.mem_cons_of_mem _ ha)) hPt

end Alike
end ServiceCatalog
