import ServiceCatalog.Proofs.Places
import ServiceCatalog.Proofs.TypeNames

/-!
# Two readings of a pointer to a component

The key of a component may hold anything, and in a pointer its tildes and slashes are escaped
(`Schema.keyPointer`).  Such a pointer is read twice.  Whoever looks the component up undoes the
escapes and finds the entry with that key.  Whoever names its type takes the last segment as it is
written, escapes included, and so it is the name of another text.

The two agree as long as no escape is left in the name.  Cleaning drops everything in front of the
first character that a name may begin with, and neither a tilde nor a slash nor the digit behind the
tilde of an escape is one.  So escapes in front of that character vanish (`dropWhile_escape`), and
each one behind it leaves a digit that the key does not have (`length_filter_escape`).
-/

namespace ServiceCatalog
namespace Pointer

variable {cs : List Char} {c : Char}

/-- A character that is written as an escape. -/
def isEscaped (c : Char) : Bool := c = '~' || c = '/'

/-- A digit that ends an escape. -/
def endsEscape (c : Char) : Bool := c = '0' || c = '1'

theorem escape_of_isEscaped (h : isEscaped c = true) (cs : List Char) :
    ∃ d, endsEscape d = true ∧ escape (c :: cs) = '~' :: d :: escape cs := by
  simp only [isEscaped, Bool.or_eq_true, decide_eq_true_eq] at h
  rcases h with rfl | rfl
  · exact ⟨'0', rfl, rfl⟩
  · exact ⟨'1', rfl, rfl⟩

theorem escape_of_not_isEscaped (h : isEscaped c = false) (cs : List Char) :
    escape (c :: cs) = c :: escape cs := by
  simp only [isEscaped, Bool.or_eq_false_iff, decide_eq_false_iff_not] at h
  rw [escape, if_neg h.1, if_neg h.2]

theorem escape_eq_self (h : ∀ c ∈ cs, isEscaped c = false) : escape cs = cs := by
  induction cs with
  | nil => rfl
  | cons c cs ih =>
    rw [escape_of_not_isEscaped (h c List.mem_cons_self),
      ih fun d hd => h d (List.mem_cons_of_mem c hd)]

/-- Escaping brings in nothing but tildes and digits. -/
theorem mem_of_mem_escape (h : c ∈ escape cs) : c ∈ cs ∨ c = '~' ∨ endsEscape c = true := by
  induction cs with
  | nil => cases h
  | cons d cs ih =>
    by_cases hd : isEscaped d = true
    · obtain ⟨e, he, hescape⟩ := escape_of_isEscaped hd cs
      rw [hescape, List.mem_cons, List.mem_cons] at h
      rcases h with rfl | rfl | h
      · exact .inr (.inl rfl)
      · exact .inr (.inr he)
      · exact (ih h).imp_left (List.mem_cons_of_mem d)
    · rw [Bool.not_eq_true] at hd
      rw [escape_of_not_isEscaped hd, List.mem_cons] at h
      rcases h with rfl | h
      · exact .inl List.mem_cons_self
      · exact (ih h).imp_left (List.mem_cons_of_mem d)

/-- Each escape has a digit of its own. -/
theorem length_filter_escape (cs : List Char) :
    ((escape cs).filter endsEscape).length =
      (cs.filter endsEscape).length + (cs.filter isEscaped).length := by
  induction cs with
  | nil => rfl
  | cons c cs ih =>
    by_cases hc : isEscaped c = true
    · obtain ⟨d, hd, hescape⟩ := escape_of_isEscaped hc cs
      have hdigit : endsEscape c = false := by
        simp only [isEscaped, Bool.or_eq_true, decide_eq_true_eq] at hc
        rcases hc with rfl | rfl <;> rfl
      have htilde : endsEscape '~' = false := rfl
      simp only [hescape, List.filter_cons, hc, hd, hdigit, htilde, if_true, Bool.false_eq_true,
        if_false, List.length_cons, ih]
      omega
    · rw [Bool.not_eq_true] at hc
      rw [escape_of_not_isEscaped hc]
      by_cases hdigit : endsEscape c = true
      · simp only [List.filter_cons, hc, hdigit, if_true, Bool.false_eq_true, if_false,
          List.length_cons, ih]
        omega
      · simp only [List.filter_cons, hc, hdigit, Bool.false_eq_true, if_false, ih]

/-- The segments of the written form of a place are the keys on the way to it. -/
theorem segments?_written (names : List String) (hne : names ≠ []) :
    segments? (written (names.map Step.key)) = some names := by
  obtain ⟨first, later, rfl⟩ := List.exists_cons_of_ne_nil hne
  have hkeys : ∀ names : List String,
      (((names.map Step.key).map segment).map fun s => String.ofList (unescape s)) = names := by
    intro names
    simp [Pointer.segment, Function.comp_def]
  have hsplit := split_segments (.key first) (later.map Step.key)
  unfold segments? written
  rw [String.toList_ofList, List.map_cons, List.flatMap_cons, List.cons_append]
  simp only [hsplit]
  exact congrArg some (hkeys (first :: later))

end Pointer

namespace Naming

open Pointer Text

variable {cs : List Char}

/-- Escapes vanish in front of a name. -/
theorem dropWhile_escape (cs : List Char) :
    (escape cs).dropWhile (fun c => !startsTypeName c) =
      escape (cs.dropWhile fun c => !startsTypeName c) := by
  have hfirst : ∀ c, isEscaped c = true ∨ endsEscape c = true → startsTypeName c = false := by
    intro c hc
    simp only [isEscaped, endsEscape, Bool.or_eq_true, decide_eq_true_eq] at hc
    rcases hc with (rfl | rfl) | rfl | rfl <;> rfl
  induction cs with
  | nil => rfl
  | cons c cs ih =>
    by_cases hc : isEscaped c = true
    · obtain ⟨d, hd, hescape⟩ := escape_of_isEscaped hc cs
      rw [hescape, List.dropWhile_cons_of_pos rfl,
        List.dropWhile_cons_of_pos (by rw [hfirst d (.inr hd)]; rfl),
        List.dropWhile_cons_of_pos (by rw [hfirst c (.inl hc)]; rfl), ih]
    · rw [Bool.not_eq_true] at hc
      rw [escape_of_not_isEscaped hc]
      by_cases hstart : startsTypeName c = true
      · rw [List.dropWhile_cons_of_neg (by simp [hstart]),
          List.dropWhile_cons_of_neg (by simp [hstart]), escape_of_not_isEscaped hc]
      · rw [List.dropWhile_cons_of_pos (by simp [hstart]),
          List.dropWhile_cons_of_pos (by simp [hstart]), ih]

/-- From the first character on that a name may begin with, nothing is escaped. -/
def IsNamedPlainly (cs : List Char) : Prop :=
  ∀ c ∈ cs.dropWhile fun c => !startsTypeName c, isEscaped c = false

instance : DecidablePred IsNamedPlainly := fun cs =>
  decidable_of_iff (((cs.dropWhile fun c => !startsTypeName c).all fun c => !isEscaped c) = true)
    (by simp [IsNamedPlainly])

/-- **When a text and its escaped form have one name.** -/
theorem cleanTypeName_escape_iff :
    cleanTypeName (escape cs) = cleanTypeName cs ↔ IsNamedPlainly cs := by
  unfold cleanTypeName IsNamedPlainly
  rw [dropWhile_escape]
  generalize cs.dropWhile (fun c => !startsTypeName c) = rest
  constructor
  · intro h c hc
    have hkeep : ∀ d, endsEscape d = true → (isWordChar d || d = '$') = true := by
      intro d hd
      simp only [endsEscape, Bool.or_eq_true, decide_eq_true_eq] at hd
      rcases hd with rfl | rfl <;> rfl
    have hmark : endsEscape '_' = false := rfl
    have hdigits : (escape rest).filter endsEscape = rest.filter endsEscape := by
      rw [← filter_collapse hkeep hmark (escape rest), h, filter_collapse hkeep hmark rest]
    have hlength := length_filter_escape rest
    rw [hdigits] at hlength
    have hnone : rest.filter isEscaped = [] := List.length_eq_zero_iff.mp (by omega)
    exact Bool.eq_false_iff.mpr (List.filter_eq_nil_iff.mp hnone c hc)
  · intro h
    rw [escape_eq_self h]

end Naming

namespace Schema

open Naming Pointer

/-- The key of a component as it is written in a pointer. -/
def escapedKey (key : String) : String := String.ofList (escape key.toList)

/-- The pointer to a component, from any key. -/
def keyPointer (key : String) : String := componentPointer (escapedKey key)

variable {key : String}

/-- The pointer to a component is the written form of its place. -/
theorem keyPointer_eq_written (key : String) :
    keyPointer key = Pointer.written [.key "components", .key "schemas", .key key] := by
  have hhome : "#/components/schemas" = Pointer.written [.key "components", .key "schemas"] := by
    decide +kernel
  have hconcat : ∀ steps,
      Pointer.written (steps ++ [.key key]) = Pointer.written steps ++ "/" ++ escapedKey key := by
    intro steps
    rw [← String.toList_inj]
    simp [Pointer.written, Pointer.segment, escapedKey, String.toList_append]
  calc keyPointer key
      = Pointer.written [.key "components", .key "schemas"] ++ "/" ++ escapedKey key :=
        congrArg (fun home => home ++ "/" ++ escapedKey key) hhome
    _ = Pointer.written [.key "components", .key "schemas", .key key] :=
        (hconcat [.key "components", .key "schemas"]).symm

theorem segments?_keyPointer (key : String) :
    segments? (keyPointer key) = some ["components", "schemas", key] := by
  rw [keyPointer_eq_written]
  exact segments?_written ["components", "schemas", key] (List.cons_ne_nil _ _)

/-- **A pointer to a component leads to the entry with its key**, and fails for want of that key. -/
theorem resolve_keyPointer {doc components schemas : Value}
    (hcomponents : doc.field? "components" = some components)
    (hschemas : components.field? "schemas" = some schemas) (hmapping : schemas.isMapping = true)
    (key : String) :
    Pointer.resolve doc (keyPointer key) =
      match schemas.field? key with
      | some v => .ok v
      | none => .error (.missingKey (keyPointer key) key) := by
  unfold Pointer.resolve
  rw [segments?_keyPointer]
  simp only [follow, step_of_field? hcomponents, step_of_field? hschemas,
    step_of_isMapping hmapping, Except.bind]
  cases schemas.field? key <;> rfl

/-- The pointer to a component names its type by the key as it is written. -/
theorem namesType_keyPointer (h : '[' ∉ key.toList) :
    NamesType (ofReference (keyPointer key)) (typeName (escapedKey key)) none := by
  have hchars : (escapedKey key).toList = escape key.toList := String.toList_ofList
  refine namesType_of_notMem (hchars ▸ slash_notMem_escape key.toList) fun hmem => ?_
  rw [hchars] at hmem
  rcases mem_of_mem_escape hmem with hmem | hmem | hmem
  · exact h hmem
  · revert hmem
    decide
  · revert hmem
    decide

theorem typeName_escapedKey_iff :
    typeName (escapedKey key) = typeName key ↔ IsNamedPlainly key.toList := by
  rw [typeName, typeName, escapedKey, String.toList_ofList, String.ofList_inj,
    cleanTypeName_escape_iff]

/-- **Two readings of a pointer.**  Take a component under a key without brackets, and the pointer
in which the tildes and slashes of the key are escaped.  Looking it up gives the entry with that
key, or fails because there is none.  The type it names is the name of the key as it is written
there, and that is the name of the key itself exactly if nothing is escaped from the first character
on that a name may begin with. -/
theorem ofReference_keyPointer (h : '[' ∉ key.toList) :
    (∀ doc components schemas : Value, doc.field? "components" = some components →
      components.field? "schemas" = some schemas → schemas.isMapping = true →
      Pointer.resolve doc (keyPointer key) =
        match schemas.field? key with
        | some v => .ok v
        | none => .error (.missingKey (keyPointer key) key)) ∧
    NamesType (ofReference (keyPointer key)) (typeName (escapedKey key)) none ∧
    (NamesType (ofReference (keyPointer key)) (typeName key) none ↔
      IsNamedPlainly key.toList) := by
  have hwritten := namesType_keyPointer h
  refine ⟨fun doc components schemas hcomponents hschemas hmapping =>
    resolve_keyPointer hcomponents hschemas hmapping key, hwritten, ?_⟩
  rw [← typeName_escapedKey_iff]
  constructor
  · intro hnamed
    rw [← hwritten.base, hnamed.base]
  · intro heq
    rwa [← heq]

/-- A document with components under some keys. -/
def sampleComponents (keys : List String) : Value :=
  .mapping [(.text "components", .mapping [(.text "schemas",
    .mapping (keys.map fun key => (.text key, .text key)))])]

/-- A key with escapes in front of its name only. -/
theorem ofReference_keyPointer_of_leading :
    '[' ∉ "~/v2.Pet".toList ∧ keyPointer "~/v2.Pet" = "#/components/schemas/~0~1v2.Pet" ∧
      Pointer.resolve (sampleComponents ["v2.Pet", "~/v2.Pet"]) (keyPointer "~/v2.Pet") =
        .ok (.text "~/v2.Pet") ∧
      NamesType (ofReference (keyPointer "~/v2.Pet")) "v2_Pet" none := by
  have hkey : '[' ∉ "~/v2.Pet".toList := by decide +kernel
  have hname : typeName "~/v2.Pet" = "v2_Pet" := by decide +kernel
  have hplain : IsNamedPlainly "~/v2.Pet".toList := by decide +kernel
  obtain ⟨hlookup, -, hnamed⟩ := ofReference_keyPointer hkey
  refine ⟨hkey, by decide +kernel, (hlookup _ _ _ rfl rfl rfl).trans rfl, ?_⟩
  rw [← hname]
  exact hnamed.mpr hplain

/-- **A component that gets the name of another one.**  The pointer to `a/b` leads to that
component, but names the type of `a_1b`. -/
theorem ofReference_keyPointer_of_slash :
    keyPointer "a/b" = "#/components/schemas/a~1b" ∧
      Pointer.resolve (sampleComponents ["a_1b", "a/b"]) (keyPointer "a/b") = .ok (.text "a/b") ∧
      NamesType (ofReference (keyPointer "a/b")) "a_1b" none ∧ typeName "a_1b" = "a_1b" ∧
      typeName "a/b" = "a_b" ∧
      ¬ NamesType (ofReference (keyPointer "a/b")) (typeName "a/b") none := by
  have hwritten : NamesType (ofReference (keyPointer "a/b")) "a_1b" none :=
    ⟨by decide +kernel, by decide +kernel, by decide +kernel, by decide +kernel, by decide +kernel⟩
  have hname : typeName "a/b" = "a_b" := by decide +kernel
  refine ⟨by decide +kernel, (resolve_keyPointer rfl rfl rfl "a/b").trans rfl, hwritten,
    by decide +kernel, hname, ?_⟩
  rw [hname]
  intro hnamed
  have heq : "a_1b" = "a_b" := hwritten.base.symm.trans hnamed.base
  revert heq
  decide

end Schema
end ServiceCatalog
