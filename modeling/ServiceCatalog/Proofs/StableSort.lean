import Mathlib.Data.List.Basic
import Mathlib.Data.List.Nodup

/-!
# What a stable sort leaves alone

Sorting moves elements past each other, but never two that tie.  So the elements of a class in which
all tie stand in the same order before and after (`filter_mergeSort`), and if a class and its
complement both tie, sorting puts one in front of the other and does nothing else.

Whatever is sorted here is sorted by a key, and ties are equal keys (`filter_sortBy`).  Where no two
keys are equal nothing ties, and the order in which the elements came is forgotten
(`sortBy_eq_of_perm`).  Where there are no more than two keys a sorted list falls into two parts
(`eq_filter_append_filter`).
-/

namespace ServiceCatalog
namespace StableSort

universe u

variable {α : Type u} {le : α → α → Bool}

/-- **Elements that tie keep their order.** -/
theorem filter_mergeSort (trans : ∀ a b c, le a b → le b c → le a c)
    (total : ∀ a b, le a b || le b a) {p : α → Bool} (tie : ∀ a b, p a → p b → le a b)
    (l : List α) : (l.mergeSort le).filter p = l.filter p := by
  have htie : (l.filter p).Pairwise fun a b => le a b :=
    List.pairwise_of_forall_mem_list fun a ha b hb =>
      tie a b (List.mem_filter.mp ha).2 (List.mem_filter.mp hb).2
  -- the class is a sorted sublist, so it survives the sort as a sublist
  have hsub : (l.filter p).Sublist (l.mergeSort le) :=
    List.sublist_mergeSort trans total htie List.filter_sublist
  have hsub' : (l.filter p).Sublist ((l.mergeSort le).filter p) := by
    have h := hsub.filter p
    rwa [List.filter_filter, show (fun a => p a && p a) = p from funext fun a => Bool.and_self _]
      at h
  have hlen : (l.filter p).length = ((l.mergeSort le).filter p).length :=
    ((List.mergeSort_perm l le).filter p).length_eq.symm
  exact (hsub'.eq_of_length hlen).symm

/-- A list in which one class precedes the other is the one and then the other. -/
theorem eq_filter_append_filter {p : α → Bool} {l : List α} (h : l.Pairwise fun a b => p b → p a) :
    l = l.filter p ++ l.filter fun a => !p a := by
  induction l with
  | nil => rfl
  | cons a l ih =>
    obtain ⟨ha, hl⟩ := List.pairwise_cons.mp h
    cases hp : p a with
    | true =>
      rw [List.filter_cons_of_pos hp, List.filter_cons_of_neg (by simp [hp]), List.cons_append,
        ← ih hl]
    | false =>
      -- the other class has begun, and goes on to the end
      have hrest : ∀ b ∈ l, p b = false := fun b hb =>
        Bool.eq_false_iff.mpr fun hpb => by simp [ha b hb hpb] at hp
      rw [List.filter_cons_of_neg (by simp [hp]), List.filter_cons_of_pos (by simp [hp]),
        List.filter_eq_nil_iff.mpr fun b hb => by simp [hrest b hb],
        List.filter_eq_self.mpr fun b hb => by simp [hrest b hb], List.nil_append]

/-! ## Sorting by a key -/

variable {κ : Type} [LE κ] [DecidableLE κ] [Std.IsLinearOrder κ] (key : α → κ)

theorem key_le_trans (a b c : α) :
    decide (key a ≤ key b) → decide (key b ≤ key c) → decide (key a ≤ key c) := by
  simp only [decide_eq_true_eq]
  exact Std.le_trans

theorem key_le_total (a b : α) : decide (key a ≤ key b) || decide (key b ≤ key a) := by
  simp only [Bool.or_eq_true, decide_eq_true_eq]
  exact Std.le_total

/-- The keys ascend. -/
theorem pairwise_sortBy (l : List α) :
    (l.mergeSort fun a b => key a ≤ key b).Pairwise fun a b => key a ≤ key b :=
  (List.pairwise_mergeSort (key_le_trans key) (key_le_total key) l).imp of_decide_eq_true

/-- **Elements with the same key keep their order.** -/
theorem filter_sortBy {p : α → Bool} (tie : ∀ a b, p a → p b → key a = key b) (l : List α) :
    (l.mergeSort fun a b => key a ≤ key b).filter p = l.filter p := by
  refine filter_mergeSort (key_le_trans key) (key_le_total key) (fun a b ha hb => ?_) l
  exact decide_eq_true (Std.le_of_eq (tie a b ha hb))

/-- **Of elements with different keys there is one order.** -/
theorem sortBy_eq_of_perm {l l' : List α} (h : l.Perm l') (hkeys : (l.map key).Nodup) :
    (l.mergeSort fun a b => key a ≤ key b) = l'.mergeSort fun a b => key a ≤ key b := by
  have hperm : (l.mergeSort fun a b => key a ≤ key b).Perm
      (l'.mergeSort fun a b => key a ≤ key b) :=
    (List.mergeSort_perm l _).trans (h.trans (List.mergeSort_perm l' _).symm)
  refine hperm.eq_of_pairwise (fun a b ha hb hab hba => ?_) (pairwise_sortBy key l)
    (pairwise_sortBy key l')
  have hal : a ∈ l := List.mem_mergeSort.mp ha
  have hbl : b ∈ l := h.mem_iff.mpr (List.mem_mergeSort.mp hb)
  exact List.inj_on_of_nodup_map hkeys hal hbl (Std.le_antisymm hab hba)

end StableSort
end ServiceCatalog
