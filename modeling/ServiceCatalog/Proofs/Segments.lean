import Mathlib.Data.List.Infix
import ServiceCatalog.Text.Erase
import ServiceCatalog.Text.Pieces

/-!
# Texts made of segments

A path is cut at its slashes, and some parts of it are erased.  This file says what both do to a
text that is put together from segments.

* `join_split`, `notMem_of_mem_split`: the segments of a text have no cuts in them, and joined again
  they are the text.
* `erase_append_of_eq_none`, `erase_of_map_eq_some`: an erasure passes over a segment in which no
  match begins, and begins anew behind a match.
* `map_through_append`, `exists_behind_append`: what the two matchers find that all others are made
  of, the next occurrence of a character and a fixed text.

A matcher returns what is left together with a proof that depends on the text, so what it finds is
stated of the text that is left alone (`Option.map Subtype.val`).
-/

namespace ServiceCatalog
namespace Text

/-! ## Segments -/

section segments

variable {cut : Char} {cs w : List Char}

theorem split_cons_cut (cs : List Char) : split cut (cut :: cs) = [] :: split cut cs :=
  split_append cut [] cs

theorem split_cons_keep {c : Char} (h : c ≠ cut) (cs : List Char) :
    ∃ w ws, split cut cs = w :: ws ∧ split cut (c :: cs) = (c :: w) :: ws := by
  have hkeep : (c == cut) = false := by simpa using h
  refine ⟨_, _, rfl, ?_⟩
  rw [split, @pieces_cons_keep (· == cut) c hkeep]

/-- A text is what its pieces are with cuts between them. -/
theorem join_split (cut : Char) (cs : List Char) : join [cut] (split cut cs) = cs := by
  induction cs with
  | nil => rfl
  | cons c cs ih =>
    by_cases h : c = cut
    · subst h
      rw [split_cons_cut]
      exact congrArg (c :: ·) ih
    · obtain ⟨w, ws, hcs, hcons⟩ := split_cons_keep h cs
      rw [hcons]
      rw [hcs] at ih
      cases ws with
      | nil => exact congrArg (c :: ·) ih
      | cons v ws => exact congrArg (c :: ·) ih

theorem notMem_of_mem_split (h : w ∈ split cut cs) : cut ∉ w := by
  induction cs generalizing w with
  | nil =>
    rw [List.mem_singleton.mp h]
    exact List.not_mem_nil
  | cons c cs ih =>
    by_cases hc : c = cut
    · subst hc
      rw [split_cons_cut] at h
      rcases List.mem_cons.mp h with rfl | h
      · exact List.not_mem_nil
      · exact ih h
    · obtain ⟨v, ws, hcs, hcons⟩ := split_cons_keep hc cs
      rw [hcons] at h
      rcases List.mem_cons.mp h with rfl | h
      · rw [List.mem_cons, not_or]
        exact ⟨fun heq => hc heq.symm, ih (hcs ▸ List.mem_cons_self)⟩
      · exact ih (hcs ▸ List.mem_cons_of_mem v h)

/-- The pieces hold nothing else than the text. -/
theorem mem_of_mem_split {c : Char} (h : w ∈ split cut cs) (hc : c ∈ w) : c ∈ cs := by
  induction cs generalizing w with
  | nil =>
    rw [List.mem_singleton.mp h] at hc
    exact hc
  | cons d cs ih =>
    by_cases hd : d = cut
    · subst hd
      rw [split_cons_cut] at h
      rcases List.mem_cons.mp h with rfl | h
      · cases hc
      · exact List.mem_cons_of_mem d (ih h hc)
    · obtain ⟨v, ws, hcs, hcons⟩ := split_cons_keep hd cs
      rw [hcons] at h
      rcases List.mem_cons.mp h with rfl | h
      · rcases List.mem_cons.mp hc with rfl | hc
        · exact List.mem_cons_self
        · exact List.mem_cons_of_mem d (ih (hcs ▸ List.mem_cons_self) hc)
      · exact List.mem_cons_of_mem d (ih (hcs ▸ List.mem_cons_of_mem v h) hc)

theorem exists_split_eq_append (cut : Char) (cs : List Char) :
    ∃ front, split cut cs = front ++ [afterLast cut cs] := by
  rcases List.eq_nil_or_concat (pieces (· == cut) cs).2 with h | ⟨front, last, h⟩
  · exact ⟨[], by simp [split, afterLast, h]⟩
  · exact ⟨(pieces (· == cut) cs).1 :: front, by simp [split, afterLast, h]⟩

theorem join_cons {sep : List Char} {ws : List (List Char)} (h : ws ≠ []) (w : List Char) :
    join sep (w :: ws) = w ++ sep ++ join sep ws := by
  cases ws with
  | nil => exact absurd rfl h
  | cons v ws => rfl

theorem join_append_singleton {sep : List Char} {ws : List (List Char)} (h : ws ≠ [])
    (w : List Char) : join sep (ws ++ [w]) = join sep ws ++ sep ++ w := by
  induction ws with
  | nil => exact absurd rfl h
  | cons v ws ih =>
    rw [List.cons_append, join_cons (List.concat_ne_nil w ws)]
    cases ws with
    | nil => rfl
    | cons u ws =>
      rw [ih (List.cons_ne_nil u ws), join_cons (List.cons_ne_nil u ws)]
      simp only [List.append_assoc]

/-- Another mark between texts without marks. -/
theorem map_join {mark other : Char} {ws : List (List Char)} (h : ∀ w ∈ ws, mark ∉ w) :
    (join [mark] ws).map (fun c => if c = mark then other else c) = join [other] ws := by
  have hmap : ∀ w ∈ ws, w.map (fun c => if c = mark then other else c) = w := by
    intro w hw
    refine (List.map_congr_left fun c hc => ?_).trans (List.map_id w)
    have hne : c ≠ mark := fun heq => h w hw (heq ▸ hc)
    exact if_neg hne
  induction ws with
  | nil => rfl
  | cons w ws ih =>
    have hw := hmap w List.mem_cons_self
    cases ws with
    | nil => exact hw
    | cons v ws =>
      have hrest := ih (fun u hu => h u (List.mem_cons_of_mem w hu)) fun u hu =>
        hmap u (List.mem_cons_of_mem w hu)
      rw [join_cons (List.cons_ne_nil v ws), join_cons (List.cons_ne_nil v ws), List.map_append,
        List.map_append, hw, hrest, List.map_singleton, if_pos rfl]

end segments

/-! ## Erasing -/

section erasing

variable {matcher : (cs : List Char) → Option (Rest cs)} {stop : Char} {cs ds : List Char}

/-- What no match begins in stays. -/
theorem erase_append_of_eq_none
    (h : ∀ es, es ≠ [] → es <:+ cs → matcher (es ++ ds) = none) :
    erase matcher (cs ++ ds) = cs ++ erase matcher ds := by
  induction cs with
  | nil => rfl
  | cons c cs ih =>
    have hc : matcher (c :: (cs ++ ds)) = none :=
      h (c :: cs) (List.cons_ne_nil c cs) List.suffix_rfl
    rw [List.cons_append, erase, hc]
    exact congrArg (c :: ·) (ih fun es hne hes => h es hne (hes.trans (List.suffix_cons c cs)))

/-- Behind a match the walk begins anew. -/
theorem erase_of_map_eq_some (h : (matcher cs).map Subtype.val = some ds) :
    erase matcher cs = erase matcher ds := by
  obtain ⟨rest, hrest, rfl⟩ := Option.map_eq_some_iff.mp h
  rw [erase.eq_def, hrest]

theorem map_through_append (hstop : stop ∉ cs) (hline : '\n' ∉ cs) (ds : List Char) :
    (through stop (cs ++ stop :: ds)).map Subtype.val = some ds := by
  induction cs with
  | nil => rw [List.nil_append, through, if_pos rfl, Option.map_some]
  | cons c cs ih =>
    rw [List.mem_cons, not_or] at hstop hline
    rw [List.cons_append, through, if_neg (Ne.symm hstop.1), if_neg (Ne.symm hline.1),
      Option.map_map]
    exact ih hstop.2 hline.2

theorem through_eq_none (h : stop ∉ cs) : through stop cs = none := by
  induction cs with
  | nil => rfl
  | cons c cs ih =>
    rw [List.mem_cons, not_or] at h
    rw [through, if_neg (Ne.symm h.1), ih h.2]
    split <;> rfl

theorem exists_behind_append (fixed ds : List Char) :
    ∃ hle, behind fixed (fixed ++ ds) = some ⟨ds, hle⟩ := by
  induction fixed with
  | nil => exact ⟨Nat.le_refl _, rfl⟩
  | cons f fs ih =>
    obtain ⟨hle, hfs⟩ := ih
    refine ⟨Nat.le_succ_of_le hle, ?_⟩
    show behind (f :: fs) (f :: (fs ++ ds)) = _
    rw [behind, if_pos rfl, hfs]
    rfl

theorem behind_eq_none {fixed : List Char} (h : ¬ fixed <+: cs) : behind fixed cs = none := by
  induction fixed generalizing cs with
  | nil => exact absurd (List.nil_prefix) h
  | cons f fs ih =>
    cases cs with
    | nil => rfl
    | cons c cs =>
      rw [behind]
      by_cases hc : f = c
      · subst hc
        have hcs : ¬ fs <+: cs := fun hp => h ((List.prefix_cons_inj f).mpr hp)
        rw [if_pos rfl, ih hcs]
        rfl
      · rw [if_neg hc]

end erasing

end Text
end ServiceCatalog
