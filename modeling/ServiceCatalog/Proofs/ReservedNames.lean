import ServiceCatalog.Api.Settings
import ServiceCatalog.Naming.OperationName
import ServiceCatalog.Proofs.CamelCase

/-!
# Operations with reserved names

A name that is reserved is told apart by a second word.  The second word is made from text of the
document, and such a text may hold nothing that a word is made of.  Then nothing is added, and the
name is the reserved one after all.  The same happens where no name is declared: the method is the
first word, two of the methods are reserved words, and the path may add nothing.

`operationName_mem_reserved_iff` says that these are all the cases.  Reserved words consist of small
letters, and a second word begins with a capital or a digit, so a name with a second word is none of
them.
-/

namespace ServiceCatalog
namespace Naming

open Text

/-- A text without letters and digits: it adds no word to an identifier. -/
def Wordless (cs : List Char) : Prop := ∀ c ∈ cs, c.isAlphanum = false

instance (cs : List Char) : Decidable (Wordless cs) :=
  decidable_of_iff (cs.all (fun c => !c.isAlphanum) = true) (by simp [Wordless])

/-! ## A second word -/

theorem furtherWords_eq_nil_iff {cs : List Char} : furtherWords cs = [] ↔ Wordless cs := by
  have hflatten := flatten_furtherWords cs
  constructor
  · intro h
    rw [h, List.flatten_nil, eq_comm, List.map_eq_nil_iff, List.filter_eq_nil_iff] at hflatten
    exact fun c hc => Bool.eq_false_iff.mpr (hflatten c hc)
  · intro h
    have hnone : cs.filter Char.isAlphanum = [] :=
      List.filter_eq_nil_iff.mpr fun c hc => Bool.eq_false_iff.mp (h c hc)
    rw [hnone, List.map_nil, List.flatten_eq_nil_iff] at hflatten
    refine List.eq_nil_iff_forall_not_mem.mpr fun w hw => ?_
    exact ne_nil_of_mem_words hw (hflatten w hw)

/-- The letters of further words are ASCII. -/
theorem toNat_lt_of_mem_furtherWords {cs w : List Char} (hw : w ∈ furtherWords cs) {c : Char}
    (hc : c ∈ w) : c.toNat < 128 := by
  have hmem : c ∈ (furtherWords cs).flatten := List.mem_flatten.mpr ⟨w, hw, hc⟩
  rw [flatten_furtherWords] at hmem
  obtain ⟨d, hd, rfl⟩ := List.mem_map.mp hmem
  have hname : isNameChar d = true := by
    rw [isNameChar, (List.mem_filter.mp hd).2]
    rfl
  have hlt := toNat_lt_of_isNameChar hname
  exact toNat_lt_of_isNameChar ((isNameChar_toLower hlt).trans hname)

/-- What further words add begins with a character that is no small letter. -/
theorem exists_capitalized_furtherWords {cs : List Char} (h : ¬ Wordless cs) :
    ∃ c ds, raiseAfterDigits false ((furtherWords cs).flatMap capitalize) = c :: ds ∧
      c.isLower = false := by
  have hne : furtherWords cs ≠ [] := fun hnil => h (furtherWords_eq_nil_iff.mp hnil)
  obtain ⟨w, ws, hws⟩ := List.exists_cons_of_ne_nil hne
  have hw : w ∈ furtherWords cs := hws ▸ List.mem_cons_self
  obtain ⟨c, v, rfl⟩ := List.exists_cons_of_ne_nil (ne_nil_of_mem_words hw)
  have hlt : c.toNat < 128 := toNat_lt_of_mem_furtherWords hw List.mem_cons_self
  rw [hws, List.flatMap_cons, capitalize, titleChar_ascii hlt]
  exact ⟨c.toUpper, _, rfl, isLower_toUpper hlt⟩

/-! ## Reserved words -/

theorem isLower_of_mem_reserved {s : String} (h : s ∈ reservedOperationNames) {c : Char}
    (hc : c ∈ s.toList) : c.isLower = true := by
  have hall : reservedOperationNames.all (fun s => s.toList.all Char.isLower) = true := by decide
  exact List.all_eq_true.mp (List.all_eq_true.mp hall s h) c hc

theorem toList_ne_nil_of_mem_reserved {s : String} (h : s ∈ reservedOperationNames) :
    s.toList ≠ [] := by
  have hall : ∀ s ∈ reservedOperationNames, s.toList ≠ [] := by decide
  exact hall s h

/-- A name that begins with a word in small letters is reserved if it has no second word and the
first one is reserved. -/
theorem identify_append_hyphen_mem_reserved_iff {w : String} (hne : w.toList ≠ [])
    (hw : ∀ c ∈ w.toList, c.isLower = true) (cs : List Char) :
    String.ofList (identify (w.toList ++ '-' :: cs)) ∈ reservedOperationNames ↔
      w ∈ reservedOperationNames ∧ Wordless cs := by
  rw [identify_append_hyphen hne hw]
  by_cases h : Wordless cs
  · rw [furtherWords_eq_nil_iff.mpr h, List.flatMap_nil, raiseAfterDigits, List.append_nil,
      String.ofList_toList]
    exact (and_iff_left h).symm
  · obtain ⟨c, ds, hcs, hc⟩ := exists_capitalized_furtherWords h
    refine iff_of_false (fun hmem => ?_) fun hmem => h hmem.2
    have hlower := isLower_of_mem_reserved hmem (c := c) (by simp [hcs])
    rw [hc] at hlower
    cases hlower

/-! ## Names of operations -/

variable {path method id : String}

theorem isLower_of_mem_defaultMethods (h : method ∈ defaultMethods) {c : Char}
    (hc : c ∈ method.toList) : c.isLower = true := by
  have hall : defaultMethods.all (fun m => m.toList.all Char.isLower) = true := by decide
  exact List.all_eq_true.mp (List.all_eq_true.mp hall method h) c hc

theorem toList_ne_nil_of_mem_defaultMethods (h : method ∈ defaultMethods) :
    method.toList ≠ [] := by
  have hall : ∀ m ∈ defaultMethods, m.toList ≠ [] := by decide
  exact hall method h

/-- Two methods are reserved words. -/
theorem mem_reserved_iff_of_mem_defaultMethods (h : method ∈ defaultMethods) :
    method ∈ reservedOperationNames ↔ method = "get" ∨ method = "delete" := by
  have hall : ∀ m ∈ defaultMethods,
      (m ∈ reservedOperationNames ↔ m = "get" ∨ m = "delete") := by decide
  exact hall method h

/-- A name that is made from a method and a path is reserved if the method is and the path adds
nothing. -/
theorem synthesizedName_mem_reserved_iff (hmethod : method ∈ defaultMethods)
    (placeholder : String) :
    synthesizedName path method placeholder ∈ reservedOperationNames ↔
      (method = "get" ∨ method = "delete") ∧
        Wordless (pathWords placeholder.toList path.toList) := by
  rw [synthesizedName, identify_append_hyphen_mem_reserved_iff
    (toList_ne_nil_of_mem_defaultMethods hmethod)
    fun c hc => isLower_of_mem_defaultMethods hmethod hc,
    mem_reserved_iff_of_mem_defaultMethods hmethod]

/-- The name of the last segment of an id. -/
def lastName (id : String) : String := String.ofList (identify (afterLast '/' id.toList))

/-- A declared name is reserved if that of its last segment is and its group adds nothing.  A method
always adds something, since a reserved word is a word. -/
theorem declaredName_mem_reserved_iff (hmethod : method ∈ defaultMethods) :
    declaredName id method reservedOperationNames ∈ reservedOperationNames ↔
      lastName id ∈ reservedOperationNames ∧ '/' ∈ id.toList ∧ Wordless (before '/' id.toList) := by
  have hlast : identify (afterLast '/' id.toList) = (lastName id).toList :=
    String.toList_ofList.symm
  unfold declaredName
  simp only [hlast, String.ofList_toList, List.contains_iff_mem]
  by_cases hname : lastName id ∈ reservedOperationNames
  · have hlower : ∀ c ∈ (lastName id).toList, c.isLower = true :=
      fun c hc => isLower_of_mem_reserved hname hc
    have hne := toList_ne_nil_of_mem_reserved hname
    rw [if_pos hname]
    by_cases hslash : '/' ∈ id.toList
    · rw [if_pos hslash, identify_append_hyphen_mem_reserved_iff hne hlower]
      simp [hname, hslash]
    · rw [if_neg hslash, identify_append_hyphen_mem_reserved_iff
        (toList_ne_nil_of_mem_defaultMethods hmethod)
        fun c hc => isLower_of_mem_defaultMethods hmethod hc]
      refine iff_of_false (fun h => ?_) fun h => hslash h.2.1
      obtain ⟨c, v, hcv⟩ := List.exists_cons_of_ne_nil hne
      have hc : c ∈ (lastName id).toList := hcv ▸ List.mem_cons_self
      have halnum := isAlphanum_of_isLower (hlower c hc)
      rw [h.2 c hc] at halnum
      cases halnum
  · rw [if_neg hname]
    exact iff_of_false hname fun h => hname h.1

/-- **When the name of an operation is reserved.**  Without an id it is reserved exactly if the
method is `get` or `delete` and the path, after its version and its placeholders are dropped, holds
neither a letter nor a digit.  With an id it is reserved exactly if the name of the last segment is,
there is a group, and the group holds neither a letter nor a digit. -/
theorem operationName_mem_reserved_iff (hmethod : method ∈ defaultMethods)
    (declaredId : Option String) :
    operationName path method declaredId ∈ reservedOperationNames ↔
      ((declaredId = none ∨ declaredId = some "") ∧ (method = "get" ∨ method = "delete") ∧
        Wordless (pathWords defaultVersionPlaceholder.toList path.toList)) ∨
      ∃ id, declaredId = some id ∧ lastName id ∈ reservedOperationNames ∧ '/' ∈ id.toList ∧
        Wordless (before '/' id.toList) := by
  cases declaredId with
  | none =>
    rw [operationName, synthesizedName_mem_reserved_iff hmethod]
    simp
  | some id =>
    rw [operationName]
    by_cases hid : id = ""
    · subst hid
      rw [if_pos rfl, synthesizedName_mem_reserved_iff hmethod]
      simp
    · rw [if_neg hid, declaredName_mem_reserved_iff hmethod]
      simp [hid]

/-- A group with a letter tells a reserved name apart, and so does a path. -/
theorem operationName_of_group :
    "delete" ∈ defaultMethods ∧
      operationName "/" "delete" (some "pets/delete") ∉ reservedOperationNames ∧
      operationName "/\x7bapi-version\x7d/pets/\x7bid\x7d" "delete" none ∉
        reservedOperationNames := by
  have hmethod : "delete" ∈ defaultMethods := by decide
  refine ⟨hmethod, ?_, ?_⟩
  · rw [operationName_mem_reserved_iff hmethod]
    rintro (⟨hid, -⟩ | ⟨id, hid, -, -, hgroup⟩)
    · exact absurd hid (by decide)
    · cases hid
      exact absurd (hgroup 'p' (by decide)) (by decide)
  · rw [operationName_mem_reserved_iff hmethod]
    rintro (⟨-, -, hpath⟩ | ⟨id, hid, -⟩)
    · exact absurd (hpath 'p' (by decide +kernel)) (by decide)
    · cases hid

/-- **A reserved name can stay.**  The root path has no words, and neither has the group in front of
a leading slash. -/
theorem operationName_of_root :
    operationName "/" "get" none = "get" ∧ operationName "/x" "post" (some "/delete") = "delete" ∧
      "get" ∈ reservedOperationNames ∧ "delete" ∈ reservedOperationNames ∧
      "get" ∈ defaultMethods ∧ "post" ∈ defaultMethods := by
  refine ⟨by decide +kernel, by decide +kernel, by decide, by decide, by decide, by decide⟩

end Naming
end ServiceCatalog
