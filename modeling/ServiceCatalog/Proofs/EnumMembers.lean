import ServiceCatalog.Proofs.ModelTrees
import ServiceCatalog.Proofs.TypeNames
import ServiceCatalog.Proofs.WrittenMagnitude

/-!
# The members of an enum

Every value of an enum but null becomes a member of the model, and the name of the member is made
from the written value.  It is made in one of two ways.  A number gets an underscore in front, its
minus sign is spelled and its point becomes an underscore; any other value is cut into words, which
are joined by underscores and written in capitals.

* `isName_enumMemberName`: the name for a text is an identifier, unless the text is empty.
* `isName_enumNumberName_iff`: the name for a number is an identifier, unless the number is written
  with a plus sign.
* `plain_ne_nil`: only the empty text is written as nothing.
* `members_eq`: the members of a model are those for the enum of its schema, at every depth.

So two kinds of values have members without a usable name: the empty text, and floating-point
numbers from `10 ^ 16` on.
-/

namespace ServiceCatalog
namespace Naming

open Text

/-! ## Identifiers -/

/-- A character that an identifier may start with. -/
def startsIdentifier (c : Char) : Bool := c.isAlpha || c = '_'

/-- A text is an identifier: letters, digits and underscores, and no digit at the start. -/
def IsIdentifier (name : String) : Prop := IsName startsIdentifier isWordChar name.toList

instance : DecidablePred IsIdentifier := fun name =>
  inferInstanceAs (Decidable (IsName startsIdentifier isWordChar name.toList))

section characters

variable {c : Char}

theorem toNat_lt_of_isWordChar (h : isWordChar c = true) : c.toNat < 128 := by
  refine toNat_lt_of_isNameChar ?_
  rw [isWordChar] at h
  rw [isNameChar, h, Bool.true_or]

theorem isWordChar_toUpper (h : isWordChar c = true) : isWordChar c.toUpper = true :=
  forall_ascii (P := fun c => isWordChar c = true → isWordChar c.toUpper = true) (by decide)
    (toNat_lt_of_isWordChar h) h

theorem isWordChar_of_startsIdentifier (h : startsIdentifier c = true) : isWordChar c = true := by
  simp only [startsIdentifier, isWordChar, Char.isAlphanum, Bool.or_eq_true] at h ⊢
  tauto

theorem startsIdentifier_toUpper (h : startsIdentifier c = true) :
    startsIdentifier c.toUpper = true :=
  forall_ascii (P := fun c => startsIdentifier c = true → startsIdentifier c.toUpper = true)
    (by decide) (toNat_lt_of_isWordChar (isWordChar_of_startsIdentifier h)) h

theorem startsIdentifier_of_not_isDigit (h : isWordChar c = true) (hdigit : isDigit c = false) :
    startsIdentifier c = true := by
  have hcore : c.isDigit = false := Bool.eq_false_iff.mpr fun hcore => by
    rw [isDigit_of_isDigit hcore] at hdigit
    cases hdigit
  rw [isWordChar, Char.isAlphanum, hcore, Bool.or_false] at h
  exact h

end characters

/-! ## The name for a text -/

section texts

variable {cs : List Char}

/-- A digit at the start is not at the start any more. -/
theorem isName_guardDigit (hne : cs ≠ []) (h : ∀ c ∈ cs, isWordChar c = true) :
    IsName startsIdentifier isWordChar (guardDigit cs) := by
  obtain ⟨c, ds, rfl⟩ := List.exists_cons_of_ne_nil hne
  by_cases hdigit : isDigit c = true
  · rw [guardDigit, if_pos hdigit]
    exact ⟨rfl, h⟩
  · rw [guardDigit, if_neg hdigit]
    have hstart := startsIdentifier_of_not_isDigit (h c List.mem_cons_self)
      (Bool.not_eq_true _ ▸ hdigit)
    exact ⟨hstart, fun d hd => h d (List.mem_cons_of_mem c hd)⟩

theorem mem_markCapitalsAfter {a d : Char} (h : d ∈ markCapitalsAfter a cs) : d = '_' ∨ d ∈ cs := by
  induction cs generalizing a with
  | nil => cases h
  | cons b cs ih =>
    have hcons : d = '_' ∨ d ∈ b :: markCapitalsAfter b cs := by
      unfold markCapitalsAfter at h
      split at h
      · exact List.mem_cons.mp h
      · exact .inr h
    rcases hcons with rfl | hcons
    · exact .inl rfl
    · rcases List.mem_cons.mp hcons with rfl | hcons
      · exact .inr List.mem_cons_self
      · exact (ih hcons).imp_right (List.mem_cons_of_mem b)

theorem isName_markCapitals (h : IsName startsIdentifier isWordChar cs) :
    IsName startsIdentifier isWordChar (markCapitals cs) := by
  cases cs with
  | nil => exact h
  | cons c cs =>
    refine ⟨h.1, fun d hd => ?_⟩
    rcases mem_markCapitalsAfter hd with rfl | hd
    · rfl
    · exact h.2 d hd

theorem isName_map_toUpper (h : IsName startsIdentifier isWordChar cs) :
    IsName startsIdentifier isWordChar (cs.map Char.toUpper) := by
  cases cs with
  | nil => exact h
  | cons c cs =>
    refine ⟨startsIdentifier_toUpper h.1, fun d hd => ?_⟩
    obtain ⟨e, he, rfl⟩ := List.mem_map.mp hd
    exact isWordChar_toUpper (h.2 e he)

/-- **The name for a text is an identifier**, unless the text is empty. -/
theorem isName_enumMemberName (h : cs ≠ []) :
    IsName startsIdentifier isWordChar (enumMemberName cs) := by
  obtain ⟨c, ds, rfl⟩ := List.exists_cons_of_ne_nil h
  obtain ⟨es, hes⟩ := exists_collapse_cons isWordChar '_' c ds
  have hne : collapse isWordChar '_' (c :: ds) ≠ [] := hes ▸ List.cons_ne_nil _ es
  have hwords : ∀ d ∈ collapse isWordChar '_' (c :: ds), isWordChar d = true :=
    fun d hd => keep_of_mem_collapse rfl hd
  exact isName_map_toUpper (isName_markCapitals (isName_guardDigit hne hwords))

end texts

/-! ## The name for a number -/

/-- **The name for a number is an identifier**, unless the number is written with a plus sign. -/
theorem isName_enumNumberName_iff {cs : List Char} {p : Prop} (h : Double.IsNumberText cs p) :
    IsName startsIdentifier isWordChar (enumNumberName cs) ↔ ¬ p := by
  rw [← h.plus]
  constructor
  · intro hname hplus
    have hmem : '+' ∈ cs.flatMap fun c =>
        if c = '-' then "MINUS_".toList else if c = '.' then ['_'] else [c] :=
      List.mem_flatMap.mpr ⟨'+', hplus, by decide⟩
    exact absurd (hname.2 '+' hmem) (by decide)
  · intro hplus
    refine ⟨rfl, fun d hd => ?_⟩
    obtain ⟨c, hc, hd⟩ := List.mem_flatMap.mp hd
    rcases h.chars c hc with halnum | rfl | rfl | rfl
    · have hminus : c ≠ '-' := fun heq => by rw [heq] at halnum; cases halnum
      have hpoint : c ≠ '.' := fun heq => by rw [heq] at halnum; cases halnum
      rw [if_neg hminus, if_neg hpoint, List.mem_singleton] at hd
      rw [hd, isWordChar, halnum, Bool.true_or]
    · have hall : "MINUS_".toList.all isWordChar = true := by decide +kernel
      exact List.all_eq_true.mp hall d hd
    · rw [List.mem_singleton.mp hd]
      rfl
    · exact absurd hc hplus

end Naming

/-! ## What is written as nothing -/

theorem Double.write_ne_nil (x : Double) : writtenDouble.write x ≠ [] := by
  cases x with
  | nan => decide
  | infinite negative => exact List.append_ne_nil_of_right_ne_nil _ (by decide)
  | finite negative rank =>
    refine List.append_ne_nil_of_right_ne_nil _ ?_
    split
    · exact List.cons_ne_nil _ _
    · unfold Layout.decimal
      dsimp only
      split
      · unfold positional
        dsimp only
        split
        · exact List.cons_ne_nil _ _
        · split <;> exact List.append_ne_nil_of_right_ne_nil _ (List.cons_ne_nil _ _)
      · exact List.append_ne_nil_of_right_ne_nil _ Nat.toDigits_ne_nil

theorem Moment.literal_ne_nil (m : Moment) : m.literal ≠ [] := by
  have happend (a b : String) (hb : b.toList ≠ []) : (a ++ b).toList ≠ [] := by
    rw [String.toList_append]
    exact List.append_ne_nil_of_right_ne_nil _ hb
  exact happend _ ")" (by decide)

theorem Scalar.literal_ne_nil (s : Scalar) : s.literal ≠ [] := by
  cases s with
  | null => exact nofun
  | bool b => cases b <;> exact nofun
  | int n => exact List.append_ne_nil_of_right_ne_nil _ Nat.toDigits_ne_nil
  | float x => exact x.write_ne_nil
  | text s => exact nofun
  | date d => exact List.append_ne_nil_of_right_ne_nil _ (List.cons_ne_nil _ _)
  | moment m => exact m.literal_ne_nil
  | bytes bs => exact nofun

theorem Date.iso_ne_nil (d : Date) : d.iso ≠ [] :=
  List.append_ne_nil_of_right_ne_nil _ (List.cons_ne_nil _ _)

theorem Scalar.plain_ne_nil {s : Scalar} (h : s ≠ .text "") : s.plain ≠ [] := by
  unfold plain
  split
  · rename_i t
    intro hnil
    rw [String.toList_eq_nil_iff] at hnil
    exact h (by rw [hnil])
  · exact Date.iso_ne_nil _
  · exact List.append_ne_nil_of_left_ne_nil
      (List.append_ne_nil_of_right_ne_nil _ (List.cons_ne_nil _ _)) _
  · exact literal_ne_nil _

namespace Value

theorem again_ne_nil (v : Value) : v.again ≠ [] := by
  induction v using again.induct with
  | case1 es =>
    rw [again]
    decide
  | case2 place v ih => exact ih
  | case3 v hm hk =>
    rw [again.eq_3 v hm hk]
    decide

theorem literalWithin_ne_nil (around : List Nat) (v : Value) : v.literalWithin around ≠ [] := by
  cases v with
  | scalar s => exact s.literal_ne_nil
  | list items => exact nofun
  | mapping es => exact nofun
  | pair first second => exact nofun
  | set members =>
    rw [literalWithin, literalSet]
    split
    · decide
    · exact nofun
  | knot place v =>
    rw [literalWithin]
    split
    · exact v.again_ne_nil
    · exact literalWithin_ne_nil _ v

/-- Only the empty text is written as nothing. -/
theorem plain_ne_nil {v : Value} (h : v ≠ .text "") : v.plain ≠ [] := by
  cases v with
  | scalar s => exact Scalar.plain_ne_nil fun heq => h (by rw [heq])
  | _ => exact literalWithin_ne_nil [] _

end Value

namespace Schema

open Model Naming

/-! ## The name of a member -/

/-- A value that a member can be named for: neither the empty text nor a vast double. -/
def IsNameable (v : Value) : Prop := v ≠ .text "" ∧ ∀ x, v = .scalar (.float x) → ¬ x.IsVast

/-- **The name of a member is an identifier exactly if its value is nameable.** -/
theorem isIdentifier_enumMember_iff (v : Value) :
    IsIdentifier (enumMember v).name ↔ IsNameable v := by
  unfold enumMember IsIdentifier
  by_cases hnumber : isNumber v = true
  · rw [if_pos hnumber, String.toList_ofList]
    unfold isNumber at hnumber
    split at hnumber
    · rename_i n
      refine (isName_enumNumberName_iff (Double.isNumberText_writtenInt n)).trans ?_
      exact iff_of_true id ⟨nofun, nofun⟩
    · rename_i x
      refine (isName_enumNumberName_iff (Double.isNumberText_write x)).trans ?_
      refine ⟨fun h => ⟨nofun, ?_⟩, fun h => h.2 x rfl⟩
      rintro y ⟨⟩
      exact h
    · cases hnumber
  · rw [if_neg hnumber, String.toList_ofList]
    by_cases hempty : v = .text ""
    · subst hempty
      exact iff_of_false id fun h => h.1 rfl
    · refine iff_of_true (isName_enumMemberName (Value.plain_ne_nil hempty)) ⟨hempty, ?_⟩
      rintro x rfl
      exact absurd rfl hnumber

/-! ## The members of a model -/

section members

variable {name : String} {schema : Value} {m : Model}

/-- The values of an enum that have a member. -/
def memberValues (schema : Value) : List Value :=
  (declaredMembers schema "enum").filter fun v => !v.isNull

/-- The values of the form are those under the keyword. -/
theorem declaredMembers_of_enumeration {es : Entries} {values : List Value}
    (hs : schema.entries? = some es) (h : Form.of es = .enumeration values) :
    declaredMembers schema "enum" = values := by
  unfold Form.of at h
  dsimp only at h
  split at h
  · rename_i vs hvs
    cases h
    unfold enumValues? at hvs
    split at hvs
    · cases hvs
    · exact declaredMembers_of_nonemptyItems? hs hvs
  · split at h
    · cases h
    · split at h
      · cases h
      · split at h
        · cases h
        · split at h <;> cases h

/-- Only the form of an enum makes a model of an enum. -/
theorem exists_enumeration_of_shape {o : Model} {form : Form}
    (hform : ∀ shape vs, form = .composition shape vs → IsComposition shape)
    (h : (complete o schema form).shape = .enumeration) :
    ∃ values, form = .enumeration values := by
  have hcontain : ∀ shape element, (contain o shape element).shape = shape := by
    intro shape element
    unfold contain
    split <;> rfl
  cases form with
  | enumeration values => exact ⟨values, rfl⟩
  | array element =>
    rw [complete, hcontain] at h
    cases h
  | dictionary element =>
    rw [complete, hcontain] at h
    cases h
  | composition shape vs =>
    have hshape : shape = .enumeration := h
    rcases hform shape vs rfl with rfl | rfl | rfl <;> cases hshape
  | interface properties => cases h
  | primitive => cases h

/-- **The members of an enum** are those for the values of its schema, in order. -/
theorem IsModelOf.members_eq (h : IsModelOf name schema m) (hshape : m.shape = .enumeration) :
    m.members = (memberValues schema).map enumMember := by
  obtain ⟨isDefinition, isRequired, rfl⟩ := h
  have hresolve : (resolve name isDefinition schema).shape = .enumeration := hshape
  show (resolve name isDefinition schema).members = _
  cases hs : schema.entries? with
  | none =>
    rw [resolve_of_not_mapping (by rw [Value.isMapping, hs]; rfl)] at hresolve
    cases hresolve
  | some es =>
    cases hr : schema.reference? with
    | some ref =>
      rw [resolve_of_reference hr] at hresolve
      exact absurd ((ofReference_handle ref).1.symm.trans hresolve) (by decide)
    | none =>
      rw [resolve_of_not_reference hs hr] at hresolve ⊢
      obtain ⟨values, hvalues⟩ :=
        exists_enumeration_of_shape (fun _ _ => Form.isComposition) hresolve
      rw [hvalues, memberValues, declaredMembers_of_enumeration hs hvalues]
      rfl

end members

/-- Every enum inside the model of a schema stands for a schema, and has a member for each value
there. -/
theorem exists_members_of_inside {name : String} {isDefinition : Bool} {schema : Value} {m : Model}
    (h : Inside m (resolve name isDefinition schema)) (hshape : m.shape = .enumeration) :
    ∃ n s, Node name schema (resolve name isDefinition schema) n s m ∧
      m.members = (memberValues s).map enumMember := by
  have hroot := isModelOf_resolve name isDefinition schema
  obtain ⟨n, s, hnode⟩ := Node.root.exists_of_inside hroot h
  exact ⟨n, s, hnode, (hnode.isModelOf hroot).members_eq hshape⟩

/-- **Which members of an enum have a usable name.**  Every enum inside the model of a schema stands
for a schema in there, and has one member for each value of that schema but null, in order.  The
name of the member is an identifier exactly if the value is neither the empty text nor a
floating-point number of at least `10 ^ 16`. -/
theorem enumMember_names {name : String} {isDefinition : Bool} {schema : Value} {m : Model}
    (h : Inside m (resolve name isDefinition schema)) (hshape : m.shape = .enumeration) :
    ∃ n s, Node name schema (resolve name isDefinition schema) n s m ∧
      List.Forall₂ (fun v e => IsIdentifier e.name ↔ IsNameable v) (memberValues s)
        m.members := by
  obtain ⟨n, s, hnode, hmembers⟩ := exists_members_of_inside h hshape
  refine ⟨n, s, hnode, ?_⟩
  rw [hmembers, List.forall₂_map_right_iff, List.forall₂_same]
  exact fun v _ => isIdentifier_enumMember_iff v

/-- A list of grades: a text that begins with a digit, a negative number, a fraction and a truth
value. -/
def sampleGrades : Value :=
  .mapping [(.text "type", .text "array"),
    (.text "items", .mapping [(.text "enum", .list [.text "3rd bestOf", .scalar (.int (-2)),
      .null, .scalar (.float (.ofDecimal false 25 (-1))), .bool true])])]

/-- All four grades are nameable. -/
theorem enumMember_names_sampleGrades :
    ∃ m, Inside m (resolve "grades" false sampleGrades) ∧ m.shape = .enumeration ∧
      m.members.map EnumMember.name = ["_3RD_BEST_OF", "_MINUS_2", "_2_5", "TRUE"] ∧
      ∃ n s, Node "grades" sampleGrades (resolve "grades" false sampleGrades) n s m ∧
        List.Forall₂ (fun v e => IsIdentifier e.name ↔ IsNameable v) (memberValues s)
          m.members := by
  have hlink : (resolve "grades" false sampleGrades).link.map
      (fun m => (m.shape, m.members.map EnumMember.name)) =
      some (.enumeration, ["_3RD_BEST_OF", "_MINUS_2", "_2_5", "TRUE"]) := by decide +kernel
  obtain ⟨m, hm, heq⟩ := Option.map_eq_some_iff.mp hlink
  obtain ⟨hshape, hnames⟩ := Prod.mk.inj heq
  have hinside : Inside m (resolve "grades" false sampleGrades) := .link hm (.self m)
  exact ⟨m, hinside, hshape, hnames, enumMember_names hinside hshape⟩

/-- An enum of the empty text and a vast double. -/
def sampleUnnameable : Value :=
  .mapping [(.text "enum", .list [.text "", .scalar (.float (.ofDecimal false 1 16))])]

/-- **A member can go without a usable name**: the empty text has no words, and the sign of an
exponent is not replaced. -/
theorem enumMember_names_of_empty_and_vast :
    (resolve "" false sampleUnnameable).shape = .enumeration ∧
      (resolve "" false sampleUnnameable).members.map EnumMember.name = ["", "_1e+16"] ∧
      ¬ IsIdentifier "" ∧ ¬ IsIdentifier "_1e+16" :=
  ⟨by decide +kernel, by decide +kernel, by decide +kernel, by decide +kernel⟩

end Schema
end ServiceCatalog
