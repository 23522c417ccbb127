import Mathlib.Data.List.Infix
import ServiceCatalog.Naming.ParameterName
import ServiceCatalog.Proofs.LetterCase
import ServiceCatalog.Proofs.Segments

/-!
# Parameters with reserved names

The reserved words are arbitrary texts, and a name is compared with all of them at once, by one
pattern.  So there are words that could be taken for a pattern, words that begin like others, and
the empty word, and each of them has to count as itself.

* `alternatives?_wordPattern`: the pattern for some words is read as these words.
* `wholeWord?_eq`: a text without line breaks matches if it is one of the words, and then as a
  whole.
* `parameterName_eq`: so a name is prefixed exactly if it is reserved.

That the prefix makes no name equal to another one has nothing to do with patterns: an identifier
holds letters and digits only, so what begins with an underscore was made by the prefix.
-/

namespace ServiceCatalog
namespace Text

/-! ## Reading the pattern for some words -/

section patterns

variable {c : Char} {cs : List Char}

theorem mem_escapedChars_of_mem_operators (h : c ∈ operators) : c ∈ escapedChars := by
  have hall : operators.all (fun c => decide (c ∈ escapedChars)) = true := by decide
  exact of_decide_eq_true (List.all_eq_true.mp hall c h)

/-- What is escaped is neither a letter nor a digit, so a backslash gives it no other meaning. -/
theorem not_isAlphanum_of_mem_escapedChars (h : c ∈ escapedChars) : c.isAlphanum = false := by
  have hall : escapedChars.all (fun c => !c.isAlphanum) = true := by decide
  exact Bool.not_eq_eq_eq_not.mp (List.all_eq_true.mp hall c h)

theorem alternatives?_bar (cs : List Char) :
    alternatives? ('|' :: cs) = (alternatives? cs).map ([] :: ·) := by
  rw [alternatives?, if_pos rfl]
  exact nofun

theorem alternatives?_escape (h : c.isAlphanum = false) (cs : List Char) :
    alternatives? ('\\' :: c :: cs) = (alternatives? cs).map (List.modifyHead (c :: ·)) := by
  rw [alternatives?, if_neg (by rw [h]; exact Bool.false_ne_true)]

theorem alternatives?_cons (h : c ∉ operators) (cs : List Char) :
    alternatives? (c :: cs) = (alternatives? cs).map (List.modifyHead (c :: ·)) := by
  have hbackslash : c ≠ '\\' := fun heq => h (heq ▸ by decide)
  have hbar : c ≠ '|' := fun heq => h (heq ▸ by decide)
  rw [alternatives?, if_neg hbar, if_neg h]
  exact fun _ _ heq _ => hbackslash heq

/-- A word in front of a pattern goes to the front of its first alternative. -/
theorem alternatives?_escapedWord_append (w cs : List Char) :
    alternatives? (escapedWord w ++ cs) = (alternatives? cs).map (List.modifyHead (w ++ ·)) := by
  induction w with
  | nil =>
    have hid : (List.modifyHead fun ws : List Char => [] ++ ws) = id := by
      funext ws
      cases ws <;> rfl
    rw [hid, Option.map_id_fun, escapedWord, List.flatMap_nil, List.nil_append, id]
  | cons c w ih =>
    have hcons : (List.modifyHead (c :: ·)) ∘ (List.modifyHead (w ++ ·)) =
        List.modifyHead ((c :: w) ++ ·) := by
      funext ws
      cases ws <;> rfl
    rw [escapedWord, List.flatMap_cons, ← escapedWord]
    by_cases hc : c ∈ escapedChars
    · rw [if_pos hc]
      show alternatives? ('\\' :: c :: (escapedWord w ++ cs)) = _
      rw [alternatives?_escape (not_isAlphanum_of_mem_escapedChars hc), ih, Option.map_map, hcons]
    · rw [if_neg hc]
      show alternatives? (c :: (escapedWord w ++ cs)) = _
      rw [alternatives?_cons (fun h => hc (mem_escapedChars_of_mem_operators h)), ih,
        Option.map_map, hcons]

/-- **The pattern for some words stands for these words**, whatever they hold. -/
theorem alternatives?_wordPattern {words : List (List Char)} (h : words ≠ []) :
    alternatives? (wordPattern words) = some words := by
  induction words with
  | nil => exact absurd rfl h
  | cons w ws ih =>
    by_cases hws : ws = []
    · subst hws
      have hword := alternatives?_escapedWord_append w []
      rw [List.append_nil] at hword
      simpa [wordPattern, join, alternatives?] using hword
    · have hne : ws.map escapedWord ≠ [] := mt List.map_eq_nil_iff.mp hws
      rw [wordPattern, List.map_cons, join_cons hne, List.append_assoc,
        alternatives?_escapedWord_append, List.singleton_append, alternatives?_bar, ← wordPattern,
        ih hws]
      simp

end patterns

/-! ## Matching -/

section matching

variable {w cs : List Char}

/-- Without a line break at its end, a text is a word or it is not. -/
theorem behindWord?_eq (h : '\n' ∉ cs) (w : List Char) :
    behindWord? w cs = if w = cs then some [] else none := by
  unfold behindWord?
  split
  · rename_i heq
    rw [List.isPrefixOf?_eq_some_iff_append_eq, List.append_nil] at heq
    rw [if_pos heq]
  · rename_i heq
    rw [List.isPrefixOf?_eq_some_iff_append_eq] at heq
    exact absurd (heq ▸ List.mem_append_right w List.mem_cons_self) h
  · rename_i hne _
    refine (if_neg fun heq => hne ?_).symm
    rw [List.isPrefixOf?_eq_some_iff_append_eq, List.append_nil, heq]

theorem wholeWord?_eq (h : '\n' ∉ cs) (words : List (List Char)) :
    wholeWord? words cs = if cs ∈ words then some (cs, []) else none := by
  induction words with
  | nil => rfl
  | cons w ws ih =>
    rw [wholeWord?, List.findSome?_cons, behindWord?_eq h]
    by_cases hw : w = cs
    · subst hw
      simp
    · rw [if_neg hw, Option.map_none, ← wholeWord?, ih]
      simp [Ne.symm hw]

end matching
end Text

namespace Naming

open Text

/-! ## Names of parameters -/

section names

variable {raw a b : String} {reserved : List String}

theorem mem_map_toList_iff {cs : List Char} {ss : List String} :
    cs ∈ ss.map String.toList ↔ String.ofList cs ∈ ss := by
  rw [← String.toList_ofList (l := cs), List.mem_map_of_injective fun _ _ => String.toList_inj.mp,
    String.toList_ofList]

/-- **A name is prefixed exactly if it is reserved.** -/
theorem parameterName_eq (raw : String) (reserved : List String) :
    parameterName raw reserved =
      if identifier raw ∈ reserved then "_" ++ identifier raw else identifier raw := by
  have hbreak : '\n' ∉ identify raw.toList := fun h => by
    have hword := isAlphanum_of_mem_identify h
    exact absurd hword (by decide)
  have hmem : identify raw.toList ∈ reserved.map String.toList ↔ identifier raw ∈ reserved :=
    mem_map_toList_iff
  unfold parameterName reservedWord?
  cases reserved with
  | nil => rfl
  | cons w ws =>
    have hne : (w :: ws).map String.toList ≠ [] := by simp
    simp only [List.isEmpty_cons, Bool.false_eq_true, if_false, alternatives?_wordPattern hne,
      Option.bind_some, wholeWord?_eq hbreak, hmem]
    by_cases h : identifier raw ∈ w :: ws
    · simp only [if_pos h]
      rw [List.append_nil]
      exact String.ofList_cons
    · simp only [if_neg h]
      rfl

/-- What begins with an underscore is no identifier. -/
theorem identifier_ne_prefixed (a b : String) : identifier a ≠ "_" ++ identifier b := by
  intro h
  have hmem : '_' ∈ (identifier a).toList := by
    rw [h, String.toList_append]
    exact List.mem_append_left _ List.mem_cons_self
  rw [identifier, String.toList_ofList] at hmem
  exact absurd (isAlphanum_of_mem_identify hmem) (by decide)

theorem parameterName_eq_iff :
    parameterName a reserved = parameterName b reserved ↔ identifier a = identifier b := by
  rw [parameterName_eq, parameterName_eq]
  constructor
  · intro h
    split at h <;> split at h
    · exact (String.append_right_inj "_").mp h
    · exact absurd h.symm (identifier_ne_prefixed b a)
    · exact absurd h (identifier_ne_prefixed a b)
    · exact h
  · intro h
    rw [h]

/-- Only a word that begins with an underscore can be met by a name. -/
theorem parameterName_mem_iff : parameterName raw reserved ∈ reserved ↔
    identifier raw ∈ reserved ∧ "_" ++ identifier raw ∈ reserved := by
  rw [parameterName_eq]
  split
  · rename_i h
    exact (and_iff_right h).symm
  · rename_i h
    exact iff_of_false h fun hmem => h hmem.1

/-- **Parameter names stay distinct and unreserved.**  Whatever the reserved words are, the name of
a parameter is its identifier, with an underscore in front exactly if the identifier is one of them.
Two parameters have the same name only if they have the same identifier.  And if no reserved word
begins with an underscore, no name is a reserved word. -/
theorem parameterName_distinct_and_unreserved (reserved : List String) (a b : String) :
    (identifier a ∈ reserved → parameterName a reserved = "_" ++ identifier a) ∧
      (identifier a ∉ reserved → parameterName a reserved = identifier a) ∧
      (parameterName a reserved = parameterName b reserved ↔ identifier a = identifier b) ∧
      ((∀ w ∈ reserved, w.toList.head? ≠ some '_') → parameterName a reserved ∉ reserved) := by
  refine ⟨fun h => ?_, fun h => ?_, parameterName_eq_iff, fun h hmem => ?_⟩
  · rw [parameterName_eq, if_pos h]
  · rw [parameterName_eq, if_neg h]
  · refine h _ (parameterName_mem_iff.mp hmem).2 ?_
    rw [String.toList_append]
    rfl

/-- Reserved words that a pattern could take for something else: the empty one, one that begins
like another, one with a line break at its end, and two with operators in them. -/
def oddWords : List String := ["", "in", "index", "page\n", "i.*", "a|b"]

/-- The empty word and a word count as themselves, and the others reserve nothing more. -/
theorem parameterName_oddWords :
    (identifier "In" ∈ oddWords ∧ parameterName "In" oddWords = "_in") ∧
      (identifier "42" ∈ oddWords ∧ parameterName "42" oddWords = "_") ∧
      (identifier "page" ∉ oddWords ∧ parameterName "page" oddWords = "page") ∧
      (identifier "is" ∉ oddWords ∧ parameterName "is" oddWords = "is") ∧
      ((∀ w ∈ oddWords, w.toList.head? ≠ some '_') ∧
        parameterName "index" oddWords ∉ oddWords) := by
  have hin : identifier "In" ∈ oddWords := by decide +kernel
  have hempty : identifier "42" ∈ oddWords := by decide +kernel
  have hpage : identifier "page" ∉ oddWords := by decide +kernel
  have his : identifier "is" ∉ oddWords := by decide +kernel
  have hplain : ∀ w ∈ oddWords, w.toList.head? ≠ some '_' := by decide
  refine ⟨⟨hin, ?_⟩, ⟨hempty, ?_⟩, ⟨hpage, ?_⟩, ⟨his, ?_⟩, hplain, ?_⟩
  · exact (parameterName_distinct_and_unreserved oddWords "In" "In").1 hin
  · exact (parameterName_distinct_and_unreserved oddWords "42" "In").1 hempty
  · exact (parameterName_distinct_and_unreserved oddWords "page" "In").2.1 hpage
  · exact (parameterName_distinct_and_unreserved oddWords "is" "In").2.1 his
  · exact (parameterName_distinct_and_unreserved oddWords "index" "In").2.2.2 hplain

end names
end Naming
end ServiceCatalog
