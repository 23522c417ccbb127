/-!
# Cutting texts into pieces

A pointer is cut at its slashes, a media type at its first semicolon, an identifier at its
separators.  All of them are one function: `pieces` cuts at every character of a class, keeps the
empty pieces, and returns the first piece apart, since there always is one.
-/

namespace ServiceCatalog
namespace Text

/-- The pieces between the characters of a class: the first one, and the others in order. -/
def pieces (isCut : Char → Bool) : List Char → List Char × List (List Char)
  | [] => ([], [])
  | c :: cs =>
    let later := pieces isCut cs
    if isCut c then ([], later.1 :: later.2) else (c :: later.1, later.2)

/-- All pieces of a text, cut at every occurrence of one character. -/
def split (cut : Char) (cs : List Char) : List (List Char) :=
  let p := pieces (· == cut) cs
  p.1 :: p.2

@[simp] theorem pieces_nil (isCut : Char → Bool) : pieces isCut [] = ([], []) := rfl

theorem pieces_cons_cut {isCut : Char → Bool} {c : Char} (h : isCut c = true) (cs : List Char) :
    pieces isCut (c :: cs) = ([], (pieces isCut cs).1 :: (pieces isCut cs).2) := by
  simp [pieces, h]

theorem pieces_cons_keep {isCut : Char → Bool} {c : Char} (h : isCut c = false) (cs : List Char) :
    pieces isCut (c :: cs) = (c :: (pieces isCut cs).1, (pieces isCut cs).2) := by
  simp [pieces, h]

/-- A text without cuts is its own only piece. -/
theorem pieces_eq_self {isCut : Char → Bool} {cs : List Char} (h : ∀ c ∈ cs, isCut c = false) :
    pieces isCut cs = (cs, []) := by
  induction cs with
  | nil => rfl
  | cons c cs ih =>
    rw [pieces_cons_keep (h c List.mem_cons_self),
      ih fun d hd => h d (List.mem_cons_of_mem c hd)]

/-- The pieces of two texts with a cut between them. -/
theorem pieces_append_cut {isCut : Char → Bool} {c : Char} (h : isCut c = true)
    (cs ds : List Char) :
    pieces isCut (cs ++ c :: ds) =
      ((pieces isCut cs).1,
        (pieces isCut cs).2 ++ (pieces isCut ds).1 :: (pieces isCut ds).2) := by
  induction cs with
  | nil => rw [List.nil_append, pieces_cons_cut h, pieces_nil, List.nil_append]
  | cons d cs ih =>
    rw [List.cons_append]
    by_cases hd : isCut d = true
    · rw [pieces_cons_cut hd, pieces_cons_cut hd, ih, List.cons_append]
    · rw [Bool.not_eq_true] at hd
      rw [pieces_cons_keep hd, pieces_cons_keep hd, ih]

/-- The pieces hold what is no cut. -/
theorem flatten_pieces {isCut : Char → Bool} (cs : List Char) :
    (pieces isCut cs).1 ++ (pieces isCut cs).2.flatten = cs.filter fun d => !isCut d := by
  induction cs with
  | nil => rfl
  | cons d cs ih =>
    by_cases hd : isCut d = true
    · rw [pieces_cons_cut hd, List.filter_cons_of_neg (by simp [hd]), ← ih]
      rfl
    · rw [Bool.not_eq_true] at hd
      rw [pieces_cons_keep hd, List.filter_cons_of_pos (by simp [hd]), ← ih]
      rfl

/-- A text without a cut is its own only piece. -/
theorem split_eq_singleton {cut : Char} {cs : List Char} (h : cut ∉ cs) : split cut cs = [cs] := by
  have hcut : ∀ c ∈ cs, (c == cut) = false := by
    intro c hc
    simpa using fun heq : c = cut => h (heq ▸ hc)
  simp [split, pieces_eq_self hcut]

/-- Two texts with a cut between them are split on their own. -/
theorem split_append (cut : Char) (cs ds : List Char) :
    split cut (cs ++ cut :: ds) = split cut cs ++ split cut ds := by
  have hpieces := @pieces_append_cut (· == cut) cut (beq_self_eq_true cut) cs ds
  simp only [split, hpieces, List.cons_append]

/-- What stands before the first cut; the whole text if there is none. -/
def before (cut : Char) (cs : List Char) : List Char := (pieces (· == cut) cs).1

/-- What stands behind the last cut; the whole text if there is none. -/
def afterLast (cut : Char) (cs : List Char) : List Char :=
  let p := pieces (· == cut) cs
  p.2.getLast?.getD p.1

/-- The non-empty pieces between the characters of a class. -/
def words (isCut : Char → Bool) (cs : List Char) : List (List Char) :=
  let p := pieces isCut cs
  (p.1 :: p.2).filter fun w => !w.isEmpty

/-- A cut stands between two words, and in none. -/
theorem words_append_cut {isCut : Char → Bool} {c : Char} (h : isCut c = true)
    (cs ds : List Char) : words isCut (cs ++ c :: ds) = words isCut cs ++ words isCut ds := by
  simp only [words, pieces_append_cut h]
  rw [← List.cons_append, List.filter_append]

/-- The words of a text hold what is no cut, in order. -/
theorem flatten_words {isCut : Char → Bool} (cs : List Char) :
    (words isCut cs).flatten = cs.filter fun d => !isCut d := by
  simp only [words]
  rw [List.flatten_filter_not_isEmpty, List.flatten_cons, flatten_pieces]

theorem ne_nil_of_mem_words {isCut : Char → Bool} {cs w : List Char} (h : w ∈ words isCut cs) :
    w ≠ [] := by
  rintro rfl
  exact Bool.false_ne_true (List.mem_filter.mp h).2

/-- A text without cuts is its only word. -/
theorem words_eq_singleton {isCut : Char → Bool} {cs : List Char} (hne : cs ≠ [])
    (h : ∀ d ∈ cs, isCut d = false) : words isCut cs = [cs] := by
  rw [words, pieces_eq_self h]
  exact List.filter_cons_of_pos (by simpa using hne)

/-- Replaces each longest run of characters outside a class by one mark; the flag says that the
text before was such a run. -/
def collapseFrom (keep : Char → Bool) (mark : Char) : Bool → List Char → List Char
  | _, [] => []
  | inRun, c :: cs =>
    if keep c then c :: collapseFrom keep mark false cs
    else if inRun then collapseFrom keep mark true cs
    else mark :: collapseFrom keep mark true cs

/-- Replaces each longest run of characters outside a class by one mark. -/
def collapse (keep : Char → Bool) (mark : Char) (cs : List Char) : List Char :=
  collapseFrom keep mark false cs

@[simp] theorem collapse_nil (keep : Char → Bool) (mark : Char) : collapse keep mark [] = [] := rfl

/-- Every character of the result is the mark or a kept character. -/
theorem mem_collapse {keep : Char → Bool} {mark d : Char} {cs : List Char}
    (h : d ∈ collapse keep mark cs) : d = mark ∨ keep d = true := by
  have key : ∀ (b : Bool) (ds : List Char), d ∈ collapseFrom keep mark b ds →
      d = mark ∨ keep d = true := by
    intro b ds
    induction ds generalizing b with
    | nil => intro hd; simp [collapseFrom] at hd
    | cons e ds ih =>
      intro hd
      unfold collapseFrom at hd
      split at hd
      · rename_i he
        rcases List.mem_cons.1 hd with rfl | hd
        · exact Or.inr he
        · exact ih _ hd
      · split at hd
        · exact ih _ hd
        · rcases List.mem_cons.1 hd with rfl | hd
          · exact Or.inl rfl
          · exact ih _ hd
  exact key _ _ h

/-- A character that is kept ends a run, so what follows it is collapsed on its own. -/
theorem collapse_append_cons {keep : Char → Bool} {mark c : Char} {cs : List Char}
    (hcs : ∀ d ∈ cs, keep d = true) (hc : keep c = true) (ds : List Char) :
    collapse keep mark (cs ++ c :: ds) = cs ++ c :: collapse keep mark ds := by
  unfold collapse
  induction cs with
  | nil => simp [collapseFrom, hc]
  | cons d cs ih =>
    rw [List.cons_append, collapseFrom, if_pos (hcs d List.mem_cons_self),
      ih fun e he => hcs e (List.mem_cons_of_mem d he)]
    rfl

/-- Characters that are kept, other than the mark, stay as they are. -/
theorem filter_collapse {keep p : Char → Bool} {mark : Char}
    (hkeep : ∀ d, p d = true → keep d = true) (hmark : p mark = false) (cs : List Char) :
    (collapse keep mark cs).filter p = cs.filter p := by
  have key : ∀ b, (collapseFrom keep mark b cs).filter p = cs.filter p := by
    induction cs with
    | nil => exact fun _ => rfl
    | cons d cs ih =>
      intro b
      unfold collapseFrom
      by_cases hd : keep d = true
      · rw [if_pos hd, List.filter_cons, List.filter_cons, ih]
      · have hp : ¬ p d = true := fun h => hd (hkeep d h)
        rw [if_neg hd, List.filter_cons_of_neg hp]
        split
        · exact ih true
        · rw [List.filter_cons_of_neg (by simp [hmark]), ih]
  exact key false

/-- Joins texts with a separator between neighbours. -/
def join (sep : List Char) : List (List Char) → List Char
  | [] => []
  | [w] => w
  | w :: ws => w ++ sep ++ join sep ws

end Text
end ServiceCatalog
