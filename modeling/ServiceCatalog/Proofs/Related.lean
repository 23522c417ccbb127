import Mathlib.Data.List.Forall2
import ServiceCatalog.Document.Pointer

/-!
# Parts that correspond

Two documents that say the same are compared part by part: what one holds under a key with what the
other holds there, and the items of a list in their order.  `Option.Rel` and `List.Forall₂` are such
comparisons of options and of lists, and `EntryRel` is the one of the entries of mappings.  Whatever
is computed part by part from parts that correspond is the same.
-/

namespace ServiceCatalog

universe u v w

variable {α : Type u} {β : Type v} {T U : α → α → Prop} {as bs : List α}

/-- Two entries with one key and related values. -/
inductive EntryRel (R : Value → Value → Prop) : Scalar × Value → Scalar × Value → Prop
  | mk (key : Scalar) {v w : Value} (h : R v w) : EntryRel R (key, v) (key, w)

/-- Two options are related if both are empty, or if they hold related values. -/
theorem eq_none_or_eq_some_of_rel {a b : Option α} (h : Option.Rel T a b) :
    (a = none ∧ b = none) ∨ ∃ c d, a = some c ∧ b = some d ∧ T c d := by
  cases h with
  | none => exact .inl ⟨rfl, rfl⟩
  | some h => exact .inr ⟨_, _, rfl, rfl, h⟩

theorem optionRel_refl (hrefl : ∀ a, T a a) (a : Option α) : Option.Rel T a a := by
  cases a with
  | none => exact .none
  | some a => exact .some (hrefl a)

section

variable {R S : α → β → Prop} {cs : List β}

theorem forall₂_imp_of_mem (h : List.Forall₂ R as cs) (himp : ∀ a ∈ as, ∀ c, R a c → S a c) :
    List.Forall₂ S as cs := by
  have hand : List.Forall₂ (fun a c => a ∈ as ∧ R a c) as cs :=
    (List.forall₂_and_left as cs).mpr ⟨fun _ ha => ha, h⟩
  exact hand.imp fun a c hac => himp a hac.1 c hac.2

theorem map_eq_of_forall₂ {γ : Type w} {f : α → γ} {g : β → γ} (h : List.Forall₂ R as cs)
    (hfg : ∀ a c, R a c → f a = g c) : as.map f = cs.map g := by
  induction h with
  | nil => rfl
  | cons hac _ ih => rw [List.map_cons, List.map_cons, hfg _ _ hac, ih]

/-- What stands at a place of the first list is related to what stands there in the second. -/
theorem exists_getElem?_of_forall₂ (h : List.Forall₂ R as cs) {i : Nat} {a : α}
    (ha : as[i]? = some a) : ∃ c, cs[i]? = some c ∧ R a c := by
  induction h generalizing i with
  | nil =>
    rw [List.getElem?_nil] at ha
    cases ha
  | cons hac _ ih =>
    cases i with
    | zero =>
      rw [List.getElem?_cons_zero, Option.some.injEq] at ha
      exact ⟨_, List.getElem?_cons_zero, ha ▸ hac⟩
    | succ i =>
      rw [List.getElem?_cons_succ] at ha ⊢
      exact ih ha

end

/-- Mappings with related entries have the same keys. -/
theorem keys_eq_of_entryRel {R : Value → Value → Prop} {x y : Value}
    (h : List.Forall₂ (EntryRel R) x.entries y.entries) : x.keys = y.keys := by
  refine map_eq_of_forall₂ h ?_
  rintro _ _ ⟨key, -⟩
  rfl

/-- A test that cannot tell related items apart leaves related ones. -/
theorem filter_rel {p : α → Bool} (h : List.Forall₂ T as bs) (hp : ∀ a b, T a b → p a = p b) :
    List.Forall₂ T (as.filter p) (bs.filter p) := by
  refine List.rel_filter (fun a b hab => ?_) h
  simp only [hp a b hab]

/-- Runs over related lists are the same if their steps are. -/
theorem foldlM_eq_of_forall₂ {m : Type v → Type v} [Monad m] {step : β → α → m β}
    (h : List.Forall₂ T as bs) (hstep : ∀ a b, T a b → ∀ s, step s a = step s b) (s : β) :
    as.foldlM step s = bs.foldlM step s := by
  induction h generalizing s with
  | nil => rfl
  | cons hab _ ih =>
    rw [List.foldlM_cons, List.foldlM_cons, hstep _ _ hab]
    exact congrArg (step s _ >>= ·) (funext ih)

/-- The first hits in related lists are related if the tests of the items are. -/
theorem findSome?_rel {V : β → β → Prop} {f : α → Option β} (h : List.Forall₂ T as bs)
    (hf : ∀ a b, T a b → Option.Rel V (f a) (f b)) :
    Option.Rel V (as.findSome? f) (bs.findSome? f) := by
  induction h with
  | nil => exact .none
  | cons hab _ ih =>
    rw [List.findSome?_cons, List.findSome?_cons]
    rcases eq_none_or_eq_some_of_rel (hf _ _ hab) with ⟨ha, hb⟩ | ⟨c, d, ha, hb, hcd⟩
    · rwa [ha, hb]
    · rw [ha, hb]
      exact .some hcd

end ServiceCatalog
