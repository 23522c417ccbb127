import ServiceCatalog.Terminal.Wrap
import Mathlib.Data.List.Infix

/-!
# The front of the first line

A text that is cut into lines keeps its front: a short word without blanks with which it starts is
the start of the first line as well, whatever follows (`prefix_fitted`).

The word goes through the passes of `Terminal.fitted` one by one.  Cuts at line ends and tabs do not
touch it, since it has none.  When words are collected it is the front of the first one, and a line
takes it whole, be the word that it begins short enough for a line or not.  And what is cut off the
end of a line are blanks, or what is beyond the width (`exists_append_of_size_lt`).
-/

namespace ServiceCatalog
namespace Terminal

variable {word line rest : List Char}

theorem size_mono (h : word <+: line) : size word ≤ size line := by
  obtain ⟨t, rfl⟩ := h
  rw [size_append]
  exact Nat.le_add_right _ _

/-- Of two texts at the front of a line the larger one begins with the smaller one. -/
theorem exists_append_of_size_lt {head : List Char} (hword : word <+: line) (hhead : head <+: line)
    (h : size word < size head) : ∃ t, t ≠ [] ∧ head = word ++ t := by
  rcases List.prefix_or_prefix_of_prefix hword hhead with ⟨t, rfl⟩ | hle
  · refine ⟨t, ?_, rfl⟩
    rintro rfl
    rw [List.append_nil] at h
    exact Nat.lt_irrefl _ h
  · exact absurd (size_mono hle) (Nat.not_le.mpr h)

theorem prefix_croppedBetween (hword : word <+: line) (hsize : size word < width)
    (steps low high : Nat) : word <+: croppedBetween line steps low high := by
  induction steps generalizing low high with
  | zero => exact hword
  | succ steps ih =>
    have hhead : line.take ((low + high) / 2 + 1) <+: line := List.take_prefix _ _
    unfold croppedBetween
    dsimp only
    split
    next h =>
      obtain ⟨t, hne, ht⟩ := exists_append_of_size_lt hword hhead (by omega)
      rw [ht, List.dropLast_append_of_ne_nil hne, List.append_assoc]
      exact List.prefix_append _ _
    next =>
      split
      next h =>
        obtain ⟨t, -, ht⟩ := exists_append_of_size_lt hword hhead (by omega)
        exact ⟨t, ht.symm⟩
      next =>
        split
        · exact ih _ _
        · exact ih _ _

theorem prefix_cropped (hword : word <+: line) (hsize : size word < width) :
    word <+: cropped line := by
  unfold cropped
  split
  · exact hword
  · exact prefix_croppedBetween hword hsize _ _ _

/-- Only blanks are cut off at the end of a line. -/
theorem prefix_trimmed (hplain : ∀ c ∈ word, Text.isBlank c = false) (hword : word <+: line) :
    word <+: trimmed line := by
  obtain ⟨rest, rfl⟩ := hword
  have hblanks : ((word ++ rest).reverse.takeWhile Text.isBlank).length ≤ rest.length := by
    have hnone : word.reverse.takeWhile Text.isBlank = [] := by
      cases hrev : word.reverse with
      | nil => rfl
      | cons c others =>
        have hc : c ∈ word := List.mem_reverse.mp (hrev ▸ List.mem_cons_self)
        exact List.takeWhile_cons_of_neg (by rw [hplain c hc]; exact Bool.false_ne_true)
    rw [List.reverse_append, List.takeWhile_append]
    split
    · rw [hnone, List.append_nil, List.length_reverse]
    · exact (List.takeWhile_prefix _).length_le.trans (Nat.le_of_eq List.length_reverse)
  have hlength : word.length ≤ (word ++ rest).length -
      min ((word ++ rest).reverse.takeWhile Text.isBlank).length
        ((word ++ rest).length - width) := by
    rw [List.length_append]
    omega
  unfold trimmed
  dsimp only
  rw [List.take_append, List.take_of_length_le hlength]
  exact List.prefix_append _ _

/-- A line that is begun is the front of the first one of those that it is filled up to. -/
theorem exists_filled (line : List Char) (words : List (List Char)) :
    ∃ first others, filled line words = first :: others ∧ line <+: first := by
  induction words generalizing line with
  | nil => exact ⟨line, [], rfl, List.prefix_rfl⟩
  | cons w words ih =>
    unfold filled
    dsimp only
    split
    · obtain ⟨first, others, h, hfirst⟩ := ih (line ++ w)
      exact ⟨first, others, h, (List.prefix_append _ _).trans hfirst⟩
    · split
      · exact ⟨line, _, rfl, List.prefix_rfl⟩
      · cases line with
        | nil =>
          obtain ⟨first, others, h, -⟩ := ih (chopped 0 [] w).2
          cases hlines : (chopped 0 [] w).1 with
          | nil => exact ⟨first, others, by rw [h]; rfl, List.nil_prefix⟩
          | cons l ls => exact ⟨l, _, rfl, List.nil_prefix⟩
        | cons c line => exact ⟨c :: line, _, rfl, List.prefix_rfl⟩

/-- A line that is chopped takes what fits. -/
theorem chopped_append {full : Nat} (h : full + size word ≤ width) (line rest : List Char) :
    chopped full line (word ++ rest) = chopped (full + size word) (word.reverse ++ line) rest := by
  induction word generalizing full line with
  | nil => rfl
  | cons c word ih =>
    rw [size_cons] at h
    rw [List.cons_append, chopped, if_pos (by omega), ih (by omega), size_cons, Nat.add_assoc,
      List.reverse_cons, List.append_assoc]
    rfl

theorem exists_chopped (full : Nat) (line rest : List Char) :
    ∃ first others, (chopped full line rest).1 ++ [(chopped full line rest).2] = first :: others ∧
      line.reverse <+: first := by
  induction rest generalizing full line with
  | nil => exact ⟨line.reverse, [], rfl, List.prefix_rfl⟩
  | cons c rest ih =>
    unfold chopped
    split
    · obtain ⟨first, others, h, hfirst⟩ := ih (full + cells c) (c :: line)
      refine ⟨first, others, h, ?_⟩
      rw [List.reverse_cons] at hfirst
      exact (List.prefix_append _ _).trans hfirst
    · exact ⟨line.reverse, _, rfl, List.prefix_rfl⟩

/-- A short word at the front of the first one is at the front of the first line. -/
theorem exists_filled_cons (hsize : size word < width) (words : List (List Char)) :
    ∃ first others, filled [] ((word ++ rest) :: words) = first :: others ∧ word <+: first := by
  unfold filled
  dsimp only
  split
  · obtain ⟨first, others, h, hfirst⟩ := exists_filled ([] ++ (word ++ rest)) words
    exact ⟨first, others, h, (List.prefix_append _ _).trans hfirst⟩
  next hfits =>
    split
    next hshort =>
      rw [size_nil, Nat.zero_add] at hfits
      exact absurd hshort hfits
    next =>
      obtain ⟨first, others, h, hfirst⟩ := exists_chopped (0 + size word) word.reverse rest
      rw [← List.append_nil word.reverse, ← chopped_append (by omega)] at h
      rw [List.reverse_reverse] at hfirst
      cases hlines : (chopped 0 [] (word ++ rest)).1 with
      | nil =>
        obtain ⟨first', others', h', hfirst'⟩ := exists_filled (chopped 0 [] (word ++ rest)).2 words
        rw [hlines, List.nil_append, List.cons.injEq] at h
        rw [h.1] at h' hfirst'
        rw [h.1, h']
        exact ⟨first', others', rfl, hfirst.trans hfirst'⟩
      | cons l ls =>
        rw [hlines, List.cons_append, List.cons.injEq] at h
        exact ⟨l, _, rfl, h.1 ▸ hfirst⟩

/-- The first piece of a text begins with what stands in front of every cut. -/
theorem exists_split_append {cut : Char} (h : cut ∉ word) (rest : List Char) :
    ∃ first others, Text.split cut (word ++ rest) = (word ++ first) :: others := by
  refine ⟨(Text.pieces (· == cut) rest).1, (Text.pieces (· == cut) rest).2, ?_⟩
  unfold Text.split
  induction word with
  | nil => rfl
  | cons c word ih =>
    have hc : (c == cut) = false := beq_eq_false_iff_ne.mpr (List.ne_of_not_mem_cons h).symm
    have htail := ih (List.not_mem_of_not_mem_cons h)
    rw [List.cons.injEq] at htail
    rw [List.cons_append, @Text.pieces_cons_keep (· == cut) c hc, htail.1, htail.2]
    rfl

theorem exists_withoutTabs (h : '\t' ∉ word) (rest : List Char) :
    ∃ later, withoutTabs (word ++ rest) = word ++ later := by
  obtain ⟨first, others, hsplit⟩ := exists_split_append h rest
  unfold withoutTabs
  rw [hsplit]
  cases others with
  | nil => exact ⟨first, rfl⟩
  | cons next others =>
    unfold expanded
    dsimp only
    rw [List.append_assoc, List.append_assoc]
    exact ⟨_, rfl⟩

theorem exists_spacedWords (hne : word ≠ []) (hplain : ∀ c ∈ word, Text.isBlank c = false)
    (rest : List Char) :
    ∃ first others, spacedWords (word ++ rest) = (word ++ first) :: others := by
  cases word with
  | nil => exact absurd rfl hne
  | cons c word =>
    have hc : ¬ Text.isBlank c = true := by
      rw [hplain c List.mem_cons_self]
      exact Bool.false_ne_true
    have hword : ∀ d ∈ word, (!Text.isBlank d) = true := by
      intro d hd
      rw [hplain d (List.mem_cons_of_mem c hd)]
      rfl
    have htake : (c :: (word ++ rest)).takeWhile Text.isBlank = [] := List.takeWhile_cons_of_neg hc
    have hdrop : (c :: (word ++ rest)).dropWhile Text.isBlank = c :: (word ++ rest) :=
      List.dropWhile_cons_of_neg hc
    rw [List.cons_append, spacedWords]
    split
    next h =>
      rw [hdrop] at h
      cases h
    next d ds h =>
      rw [hdrop] at h
      cases h
      dsimp only
      rw [htake, List.takeWhile_append_of_pos hword]
      exact ⟨_, _, by rw [List.nil_append, List.cons_append, List.append_assoc, List.cons_append]⟩

/-- **A short word at the front of a text is at the front of its first line.** -/
theorem prefix_fitted (hne : word ≠ []) (hword : word.all (fun c => !Text.isBlank c) = true)
    (hsize : size word < width) (rest : List Char) : word <+: fitted (word ++ rest) := by
  have hplain : ∀ c ∈ word, Text.isBlank c = false := by
    intro c hc
    exact Bool.not_eq_true' _ ▸ List.all_eq_true.mp hword c hc
  have hmem : ∀ c, Text.isBlank c = true → c ∉ word := by
    intro c hc h
    rw [hplain c h] at hc
    cases hc
  obtain ⟨line, lines, hlines⟩ := exists_split_append (hmem '\n' (by decide)) rest
  obtain ⟨plain, htabs⟩ := exists_withoutTabs (hmem '\t' (by decide)) line
  obtain ⟨first, words, hwords⟩ := exists_spacedWords hne hplain plain
  obtain ⟨front, others, hfilled, hfront⟩ := @exists_filled_cons word first hsize words
  have hwrapped : wrapped (word ++ line) =
      cropped (trimmed front) :: others.map fun l => cropped (trimmed l) := by
    unfold wrapped
    dsimp only
    rw [htabs, hwords]
    dsimp only
    rw [hfilled, List.map_cons]
  have hprefix : word <+: cropped (trimmed front) :=
    prefix_cropped (prefix_trimmed hplain hfront) hsize
  unfold fitted
  rw [hlines, List.flatMap_cons, hwrapped, List.cons_append]
  refine hprefix.trans ?_
  generalize others.map (fun l => cropped (trimmed l)) ++ lines.flatMap wrapped = later
  cases later with
  | nil => exact List.prefix_rfl
  | cons l later =>
    unfold Text.join
    rw [List.append_assoc]
    exact List.prefix_append _ _

end Terminal
end ServiceCatalog
