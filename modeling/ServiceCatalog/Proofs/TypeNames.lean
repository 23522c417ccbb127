import Mathlib.Data.List.TakeWhile
import ServiceCatalog.Proofs.ModelTrees
import ServiceCatalog.Proofs.Segments

/-!
# Which references name a type

A reference to a component becomes the name of a type, and that name is written into generated code:
as the type, and as what has to be imported.  So it has to be an identifier.

Cleaning drops what stands in front of the first character that a name may begin with and keeps that
character, so a cleaned name is an identifier or it is empty (`isTypeName_typeName_iff`).  It is
empty where there is no such character: keys like `404` or `--` are legal, and no name is left of
them.

The rest is about brackets.  A key without brackets is one name, and `Outer[Inner]` is cut at its
only pair of brackets (`generic?_bracketed`).
-/

namespace ServiceCatalog
namespace Text

/-- Behind the last cut nothing is cut. -/
theorem afterLast_append {cut : Char} {ds : List Char} (h : cut ∉ ds) (cs : List Char) :
    afterLast cut (cs ++ cut :: ds) = ds := by
  have hpieces := @pieces_append_cut (· == cut) cut (beq_self_eq_true cut) cs ds
  have hlast : pieces (· == cut) ds = (ds, []) :=
    pieces_eq_self fun c hc => beq_eq_false_iff_ne.mpr fun heq => h (heq ▸ hc)
  rw [afterLast, hpieces, hlast]
  simp

/-- A run is never dropped as a whole, so the first character is kept or marked. -/
theorem exists_collapse_cons (keep : Char → Bool) (mark c : Char) (cs : List Char) :
    ∃ ds, collapse keep mark (c :: cs) = (if keep c then c else mark) :: ds := by
  unfold collapse collapseFrom
  by_cases hc : keep c = true
  · exact ⟨_, by rw [if_pos hc, if_pos hc]⟩
  · exact ⟨_, by rw [if_neg hc, if_neg hc, if_neg Bool.false_ne_true]⟩

theorem keep_of_mem_collapse {keep : Char → Bool} {mark d : Char} {cs : List Char}
    (hmark : keep mark = true) (h : d ∈ collapse keep mark cs) : keep d = true := by
  rcases mem_collapse h with rfl | hkeep
  · exact hmark
  · exact hkeep

end Text

namespace Naming

open Text

/-! ## Names -/

/-- A text is a name: it begins with a character of one class and goes on with those of another. -/
def IsName (starts goesOn : Char → Bool) : List Char → Prop
  | [] => False
  | c :: cs => starts c = true ∧ ∀ d ∈ cs, goesOn d = true

instance (starts goesOn : Char → Bool) : DecidablePred (IsName starts goesOn)
  | [] => inferInstanceAs (Decidable False)
  | _ :: _ => decidable_of_iff _ (and_congr_right' List.all_eq_true)

/-- A character that the name of a type may hold. -/
def isTypeNameChar (c : Char) : Bool := isWordChar c || c = '$'

/-- A text is the name of a type: letters, digits, `_` and `$`, and no digit at the start. -/
def IsTypeName (name : String) : Prop := IsName startsTypeName isTypeNameChar name.toList

instance : DecidablePred IsTypeName := fun name =>
  inferInstanceAs (Decidable (IsName startsTypeName isTypeNameChar name.toList))

/-! ## Cleaned names -/

section cleaned

variable {cs : List Char}

theorem isTypeNameChar_of_startsTypeName {c : Char} (h : startsTypeName c = true) :
    isTypeNameChar c = true := by
  simp only [startsTypeName, isTypeNameChar, isWordChar, Char.isAlphanum, Bool.or_eq_true] at h ⊢
  tauto

/-- Where a name can begin, a cleaned name does. -/
theorem isName_cleanTypeName (h : ∃ c ∈ cs, startsTypeName c = true) :
    IsName startsTypeName isTypeNameChar (cleanTypeName cs) := by
  have hne : cs.dropWhile (fun c => !startsTypeName c) ≠ [] := by
    rw [Ne, List.dropWhile_eq_nil_iff]
    intro hall
    obtain ⟨c, hc, hstart⟩ := h
    have hnone := hall c hc
    rw [hstart] at hnone
    cases hnone
  obtain ⟨c, ds, hds⟩ := List.exists_cons_of_ne_nil hne
  have hstart : startsTypeName c = true := by
    have hhead := List.head_dropWhile_not (fun c => !startsTypeName c) hne
    simpa [hds] using hhead
  obtain ⟨es, hes⟩ := exists_collapse_cons isTypeNameChar '_' c ds
  rw [if_pos (isTypeNameChar_of_startsTypeName hstart)] at hes
  have hname : cleanTypeName cs = c :: es := by
    rw [cleanTypeName, hds]
    exact hes
  rw [hname]
  refine ⟨hstart, fun d hd => ?_⟩
  have hmem : d ∈ collapse isTypeNameChar '_' (c :: ds) := hes ▸ List.mem_cons_of_mem c hd
  exact keep_of_mem_collapse rfl hmem

/-- Where no name can begin, nothing is left. -/
theorem cleanTypeName_eq_nil (h : ∀ c ∈ cs, startsTypeName c = false) : cleanTypeName cs = [] := by
  have hdrop : cs.dropWhile (fun c => !startsTypeName c) = [] := by
    rw [List.dropWhile_eq_nil_iff]
    exact fun c hc => by rw [h c hc]; rfl
  rw [cleanTypeName, hdrop, collapse_nil]

end cleaned

/-- A name can begin somewhere in a text. -/
def HasNameStart (raw : String) : Prop := ∃ c ∈ raw.toList, startsTypeName c = true

/-- **A cleaned name is the name of a type or empty**, and which of the two depends on whether a
name can begin anywhere in the text. -/
theorem isTypeName_typeName_iff (raw : String) :
    (IsTypeName (typeName raw) ↔ HasNameStart raw) ∧ (typeName raw = "" ↔ ¬ HasNameStart raw) := by
  by_cases h : HasNameStart raw
  · have hname : IsTypeName (typeName raw) := by
      rw [IsTypeName, typeName, String.toList_ofList]
      exact isName_cleanTypeName h
    refine ⟨iff_of_true hname h, iff_of_false (fun hempty => ?_) (not_not_intro h)⟩
    rw [hempty] at hname
    exact hname
  · have hempty : typeName raw = "" := by
      rw [typeName, cleanTypeName_eq_nil, String.ofList_nil]
      exact fun c hc => Bool.eq_false_iff.mpr fun hstart => h ⟨c, hc, hstart⟩
    refine ⟨iff_of_false (fun hname => ?_) h, iff_of_true hempty h⟩
    rw [hempty] at hname
    exact hname

/-! ## Brackets -/

section brackets

variable {cs outer inner : List Char}

theorem withoutFinalBreak_eq_self (h : '\n' ∉ cs) : withoutFinalBreak cs = cs := by
  unfold withoutFinalBreak
  split
  · rename_i ds hds
    have hmem : '\n' ∈ cs.reverse := hds ▸ List.mem_cons_self
    exact absurd (List.mem_reverse.mp hmem) h
  · rfl

theorem mem_of_mem_withoutFinalBreak {c : Char} (h : c ∈ withoutFinalBreak cs) : c ∈ cs := by
  unfold withoutFinalBreak at h
  split at h
  · rename_i ds hds
    have hmem : c ∈ cs.reverse := hds ▸ List.mem_cons_of_mem _ (List.mem_reverse.mp h)
    exact List.mem_reverse.mp hmem
  · exact h

/-- Without an opening bracket there is no generic name. -/
theorem generic?_eq_none (h : '[' ∉ cs) : generic? cs = none := by
  have hdrop : (withoutFinalBreak cs).dropWhile (· ≠ '[') = [] := by
    rw [List.dropWhile_eq_nil_iff]
    intro c hc
    refine decide_eq_true fun heq => ?_
    exact h (heq ▸ mem_of_mem_withoutFinalBreak hc)
  unfold generic?
  simp only [hdrop, ite_self]

/-- Two names, the second one in brackets behind the first. -/
theorem generic?_bracketed (houter : '\n' ∉ outer) (hinner : '\n' ∉ inner) (h : '[' ∉ outer) :
    generic? (outer ++ '[' :: (inner ++ [']'])) = some (outer, inner) := by
  have hbreak : '\n' ∉ outer ++ '[' :: (inner ++ [']']) := by
    simp [houter, hinner]
  have hall : ∀ c ∈ outer, decide (c ≠ '[') = true :=
    fun c hc => decide_eq_true fun heq => h (heq ▸ hc)
  unfold generic?
  simp only [withoutFinalBreak_eq_self hbreak]
  rw [if_neg (by simpa using hbreak), List.dropWhile_append_of_pos hall,
    List.takeWhile_append_of_pos hall]
  simp

end brackets
end Naming

namespace Schema

open Naming

/-! ## References to components -/

/-- A character of a component key. -/
def isKeyChar (c : Char) : Bool := c.isAlphanum || c = '.' || c = '_' || c = '-'

/-- A text is a component key: letters, digits, `.`, `_` and `-`. -/
structure IsKey (key : String) : Prop where
  ne_empty : key ≠ ""
  chars : ∀ c ∈ key.toList, isKeyChar c = true

instance : DecidablePred IsKey := fun key =>
  decidable_of_iff (key ≠ "" ∧ key.toList.all isKeyChar = true)
    ⟨fun h => ⟨h.1, List.all_eq_true.mp h.2⟩, fun h => ⟨h.1, List.all_eq_true.mpr h.2⟩⟩

/-- The pointer to a component, from its key. -/
def componentPointer (key : String) : String := "#/components/schemas" ++ "/" ++ key

/-- A pointer leads to the type of a model: the names of the model are those of a type and, if it is
a generic one, of its argument, and just these are imported. -/
structure NamesType (m : Model) (outer : String) (inner : Option String) : Prop where
  shape : m.shape = .reference
  type : m.type = typeText outer inner
  base : m.base = outer
  template : m.template = inner
  imports : m.imports = outer :: inner.toList

section keys

variable {key outer inner : String} {c : Char}

theorem IsKey.notMem (h : IsKey key) (hc : isKeyChar c = false) : c ∉ key.toList := by
  intro hmem
  have hchar := h.chars c hmem
  rw [hc] at hchar
  cases hchar

theorem afterLast_home (home : String) (h : '/' ∉ key.toList) :
    Text.afterLast '/' (home ++ "/" ++ key).toList = key.toList := by
  rw [String.toList_append, String.toList_append, List.append_assoc]
  exact Text.afterLast_append h home.toList

theorem afterLast_componentPointer (h : '/' ∉ key.toList) :
    Text.afterLast '/' (componentPointer key).toList = key.toList :=
  afterLast_home _ h

/-- What stands behind the home of components names the type, as it is written there. -/
theorem namesType_of_notMem (hslash : '/' ∉ key.toList) (hbracket : '[' ∉ key.toList) :
    NamesType (ofReference (componentPointer key)) (typeName key) none := by
  unfold ofReference
  simp only [afterLast_componentPointer hslash, generic?_eq_none hbracket]
  exact ⟨rfl, rfl, rfl, rfl, rfl⟩

theorem namesType_of_key (h : IsKey key) :
    NamesType (ofReference (componentPointer key)) (typeName key) none :=
  namesType_of_notMem (h.notMem rfl) (h.notMem rfl)

theorem namesType_of_generic (houter : IsKey outer) (hinner : IsKey inner) :
    NamesType (ofReference (componentPointer (outer ++ "[" ++ inner ++ "]"))) (typeName outer)
      (some (typeName inner)) := by
  have hchars : (outer ++ "[" ++ inner ++ "]").toList =
      outer.toList ++ '[' :: (inner.toList ++ [']']) := by
    simp [String.toList_append]
  have hslash : '/' ∉ (outer ++ "[" ++ inner ++ "]").toList := by
    rw [hchars]
    simp [houter.notMem (c := '/') rfl, hinner.notMem (c := '/') rfl]
  have hgeneric := generic?_bracketed (houter.notMem rfl) (hinner.notMem rfl)
    (houter.notMem (c := '[') rfl)
  unfold ofReference
  simp only [afterLast_componentPointer hslash, hchars, hgeneric]
  exact ⟨rfl, rfl, rfl, rfl, rfl⟩

end keys

/-- In a key, a name can begin with a letter or an underscore. -/
theorem IsKey.hasNameStart_iff {key : String} (h : IsKey key) :
    HasNameStart key ↔ ∃ c ∈ key.toList, c.isAlpha = true ∨ c = '_' := by
  have hdollar : '$' ∉ key.toList := h.notMem rfl
  constructor
  · rintro ⟨c, hc, hstart⟩
    simp only [startsTypeName, Bool.or_eq_true, decide_eq_true_eq] at hstart
    refine ⟨c, hc, hstart.resolve_right ?_⟩
    rintro rfl
    exact hdollar hc
  · rintro ⟨c, hc, hstart⟩
    refine ⟨c, hc, ?_⟩
    simp only [startsTypeName, Bool.or_eq_true, decide_eq_true_eq]
    exact .inl hstart

/-- **The type of a reference.**  The pointer to a component gives the type that is named by the
key, or by the two keys of a generic component, and imports just these names.  The name of a key is
an identifier exactly if the key has a letter or an underscore in it, and otherwise it is empty. -/
theorem ofReference_componentPointer {outer inner : String} (houter : IsKey outer)
    (hinner : IsKey inner) :
    NamesType (ofReference (componentPointer outer)) (typeName outer) none ∧
      NamesType (ofReference (componentPointer (outer ++ "[" ++ inner ++ "]"))) (typeName outer)
        (some (typeName inner)) ∧
      ∀ key ∈ [outer, inner],
        (IsTypeName (typeName key) ↔ ∃ c ∈ key.toList, c.isAlpha = true ∨ c = '_') ∧
        (typeName key = "" ↔ ¬ ∃ c ∈ key.toList, c.isAlpha = true ∨ c = '_') := by
  refine ⟨namesType_of_key houter, namesType_of_generic houter hinner, fun key hkey => ?_⟩
  have hall : IsKey key := by
    rcases List.mem_pair.mp hkey with rfl | rfl
    · exact houter
    · exact hinner
  rw [← hall.hasNameStart_iff]
  exact isTypeName_typeName_iff key

/-- Keys that begin with what no name begins with. -/
theorem ofReference_componentPointer_of_digits :
    IsKey "3D-Page.v2" ∧ IsKey "1_Pet" ∧
      NamesType (ofReference (componentPointer ("3D-Page.v2" ++ "[" ++ "1_Pet" ++ "]"))) "D_Page_v2"
        (some "_Pet") ∧
      IsTypeName "D_Page_v2" ∧ IsTypeName "_Pet" := by
  have houter : IsKey "3D-Page.v2" := by decide +kernel
  have hinner : IsKey "1_Pet" := by decide +kernel
  obtain ⟨-, hgeneric, hnames⟩ := ofReference_componentPointer houter hinner
  refine ⟨houter, hinner, hgeneric, (hnames "3D-Page.v2" ?_).1.mpr ?_, (hnames "1_Pet" ?_).1.mpr ?_⟩
  · exact List.mem_cons_self
  · exact ⟨'D', by decide, .inl rfl⟩
  · exact List.mem_cons_of_mem _ List.mem_cons_self
  · exact ⟨'_', by decide, .inr rfl⟩

/-- **A key without letters leaves no name**: the type is empty, and so is what is imported. -/
theorem ofReference_of_numeral :
    IsKey "404" ∧ IsKey "Page" ∧
      NamesType (ofReference (componentPointer "404")) "" none ∧
      NamesType (ofReference (componentPointer ("Page" ++ "[" ++ "404" ++ "]"))) "Page" (some "") ∧
      ¬ IsTypeName "" :=
  ⟨by decide +kernel, by decide +kernel, ⟨by decide +kernel, by decide +kernel,
    by decide +kernel, by decide +kernel, by decide +kernel⟩, ⟨by decide +kernel, by decide +kernel,
    by decide +kernel, by decide +kernel, by decide +kernel⟩, by decide⟩

end Schema
end ServiceCatalog
