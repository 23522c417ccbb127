import ServiceCatalog.Proofs.Places

/-!
# Pointers that the standard does not know

RFC 6901 says which references lead to a place: in each segment every tilde begins an escape, and a
list is indexed by a decimal without sign, blanks or leading zeros (`Conforms`).  All of these lead
to their places here as well.  But more references do.

* A tilde that begins no escape stands for itself.
* An index may be any written integer of not too many digits, so it may have a sign, blanks around
  it, leading zeros, underscores or the digits of another script, and a negative one counts from the
  end.

`resolve_eq_ok_iff_and_conforms_iff` says that there is nothing else.  A reference that resolves has
one way through the document (`Leads.unique`), so it can be read off the segments on this way
whether it conforms.
-/

namespace ServiceCatalog
namespace Pointer

open Json (IsWhole)
open Text

variable {v w x y : Value} {ref : String} {t : List Char} {s s' : Step}

/-- By the standard, a reference leads to a place: it is `#`, or its segments stand for the steps to
that place. -/
def Conforms (doc : Value) (ref : String) (v : Value) : Prop :=
  ref = "#" ∧ v = doc ∨
    ∃ path ss, ref.toList = '#' :: '/' :: path ∧ List.Forall₂ Denotes (split '/' path) ss ∧
      doc.at? ss = some v

/-- A segment has the form that the standard asks for where it is taken for a step. -/
def IsStandard (t : List Char) (s : Step) : Prop :=
  TildesEscape t ∧ ∀ n, s = .index n → IsWhole t

/-! ## There is one way -/

/-- A key leads nowhere in a list, and an index nowhere else. -/
theorem items?_eq_none_of_key {name : String} (h : v.part? (.key name) = some w) :
    v.items? = none := by
  cases hitems : v.items? with
  | none => rfl
  | some items =>
    rw [Value.part?, Value.field?_of_items? hitems] at h
    cases h

theorem items?_ne_none_of_index {n : Nat} (h : v.part? (.index n) = some w) : v.items? ≠ none := by
  intro hitems
  rw [Value.part?, hitems] at h
  cases h

/-- A segment is taken for one step only. -/
theorem IsReadAs.unique (h : IsReadAs v t s) (h' : IsReadAs v t s') (hpart : v.part? s = some w)
    (hpart' : v.part? s' = some x) : s = s' := by
  cases h with
  | key =>
    cases h' with
    | key => rfl
    | fromStart => exact absurd (items?_eq_none_of_key hpart) (items?_ne_none_of_index hpart')
    | fromEnd => exact absurd (items?_eq_none_of_key hpart) (items?_ne_none_of_index hpart')
  | @fromStart items n hitems h =>
    cases h' with
    | key => exact absurd (items?_eq_none_of_key hpart') (items?_ne_none_of_index hpart)
    | @fromStart items' m hitems' h' =>
      cases hitems.symm.trans hitems'
      have hnm : (n : Int) = m := Option.some.inj (h.symm.trans h')
      rw [Int.ofNat_inj.mp hnm]
    | @fromEnd items' m k hitems' h' hk =>
      cases hitems.symm.trans hitems'
      have hneg : (n : Int) = -(k : Int) := Option.some.inj (h.symm.trans h')
      omega
  | @fromEnd items n k hitems h hk hn =>
    cases h' with
    | key => exact absurd (items?_eq_none_of_key hpart') (items?_ne_none_of_index hpart)
    | @fromStart items' m hitems' h' =>
      cases hitems.symm.trans hitems'
      have hneg : -(k : Int) = (m : Int) := Option.some.inj (h.symm.trans h')
      omega
    | @fromEnd items' m j hitems' h' hj hm =>
      cases hitems.symm.trans hitems'
      have hkj : -(k : Int) = -(j : Int) := Option.some.inj (h.symm.trans h')
      have hnm : n = m := by omega
      rw [hnm]

/-- **A reference has one way through a document.** -/
theorem Leads.unique {ts : List (List Char)} {ss ss' : List Step} (h : Leads v ts ss x)
    (h' : Leads v ts ss' y) : ss = ss' := by
  induction h generalizing ss' with
  | nil v =>
    cases h'
    rfl
  | cons hread hpart h ih =>
    cases h' with
    | cons hread' hpart' h' =>
      obtain rfl := hread.unique hread' hpart hpart'
      cases hpart.symm.trans hpart'
      rw [ih h']

/-! ## Which ways conform -/

/-- A segment stands for the step that it is taken for, if it has a standard form. -/
theorem IsReadAs.denotes_iff (h : IsReadAs v t s) : Denotes t s ↔ IsStandard t s := by
  constructor
  · intro hd
    cases hd with
    | key htilde => exact ⟨htilde, nofun⟩
    | index hwhole =>
      exact ⟨tildesEscape_of_notMem (tilde_notMem_of_isWhole hwhole), fun _ _ => hwhole⟩
  · rintro ⟨htilde, hindex⟩
    cases h with
    | key => exact .key htilde
    | @fromStart items n hitems h =>
      have hread := integer?_unescape (hindex n rfl)
      have hn : (n : Int) = Json.digitsValue t :=
        Option.some.inj ((integer?_of_index? h).symm.trans hread)
      rw [Int.ofNat_inj.mp hn]
      exact .index (hindex n rfl)
    | @fromEnd items n k hitems h hk hn =>
      have hread := integer?_unescape (hindex n rfl)
      have hneg : -(k : Int) = Json.digitsValue t :=
        Option.some.inj ((integer?_of_index? h).symm.trans hread)
      omega

theorem Leads.denotes_iff {ts : List (List Char)} {ss : List Step} (h : Leads v ts ss x) :
    List.Forall₂ Denotes ts ss ↔ List.Forall₂ IsStandard ts ss := by
  induction h with
  | nil v => exact iff_of_true .nil .nil
  | cons hread hpart h ih =>
    rw [List.forall₂_cons, List.forall₂_cons, hread.denotes_iff, ih]

/-- **When a reference that resolves conforms.** -/
theorem conforms_iff_of_leads {doc : Value} {path : List Char} {ss : List Step}
    (href : ref.toList = '#' :: '/' :: path) (h : Leads doc (split '/' path) ss v) :
    (∃ w, Conforms doc ref w) ↔ List.Forall₂ IsStandard (split '/' path) ss := by
  rw [← h.denotes_iff]
  constructor
  · rintro ⟨w, ⟨rfl, -⟩ | ⟨path', ss', href', hall, hplace⟩⟩
    · cases href
    · cases href.symm.trans href'
      rwa [h.unique (leads_of_denotes hall hplace)]
  · exact fun hall => ⟨v, .inr ⟨path, ss, href, hall, h.at?_eq⟩⟩

theorem resolve_of_conforms {doc : Value} (h : Conforms doc ref v) : resolve doc ref = .ok v := by
  rw [resolve_eq_ok_iff]
  rcases h with h | ⟨path, ss, href, hall, hplace⟩
  · exact .inl h
  · exact .inr ⟨path, ss, href, leads_of_denotes hall hplace⟩

/-- **What resolves, and what of it conforms to the standard.**  A reference leads to a value
exactly if it is `#`, or begins with `#/` and its segments lead there, each being taken for a key or
for any written integer within the list.  All that conforms to the standard resolves.  What resolves
leads to a place, and it conforms exactly if every tilde in it begins an escape and every index on
its way is a plain decimal. -/
theorem resolve_eq_ok_iff_and_conforms_iff (doc : Value) (ref : String) (v : Value) :
    (resolve doc ref = .ok v ↔
      ref = "#" ∧ v = doc ∨
        ∃ path ss, ref.toList = '#' :: '/' :: path ∧ Leads doc (split '/' path) ss v) ∧
    (Conforms doc ref v → resolve doc ref = .ok v) ∧
    ∀ path ss, ref.toList = '#' :: '/' :: path → Leads doc (split '/' path) ss v →
      doc.at? ss = some v ∧
        ((∃ w, Conforms doc ref w) ↔ List.Forall₂ IsStandard (split '/' path) ss) :=
  ⟨resolve_eq_ok_iff, resolve_of_conforms, fun _ _ href h =>
    ⟨h.at?_eq, conforms_iff_of_leads href h⟩⟩

/-- A list of two, and a key with a tilde that begins no escape. -/
def sampleRow : Value :=
  .mapping [(.text "a", .list [.text "first", .text "last"]), (.text "~2", .text "tilde")]

theorem leads_sampleRow_of_fromEnd :
    Leads sampleRow [['a'], ['-', '1']] [.key "a", .index 1] (.text "last") :=
  .cons .key rfl (.cons (.fromEnd (k := 1) rfl (by decide) (by decide) rfl) rfl (.nil _))

theorem leads_sampleRow_of_tilde :
    Leads sampleRow [['~', '2']] [.key "~2"] (.text "tilde") := .cons .key rfl (.nil _)

theorem not_isStandard_negative : ¬ IsStandard ['-', '1'] (.index 1) := by
  rintro ⟨-, hindex⟩
  have hdigit := allDigits_of_isWhole (hindex 1 rfl) '-' List.mem_cons_self
  cases hdigit

/-- The last item by a plain index, which conforms, and from the end, which does not. -/
theorem resolve_sampleRow_last :
    Conforms sampleRow "#/a/1" (.text "last") ∧
      resolve sampleRow "#/a/1" = .ok (.text "last") ∧
      ¬ ∃ w, Conforms sampleRow "#/a/-1" w := by
  have hplace : sampleRow.at? [.key "a", .index 1] = some (.text "last") := rfl
  have hsegments : List.Forall₂ Denotes [['a'], ['1']] [.key "a", .index 1] :=
    .cons (denotes_segment (.key "a")) (.cons (denotes_segment (.index 1)) .nil)
  have hconforms : Conforms sampleRow "#/a/1" (.text "last") :=
    .inr ⟨['a', '/', '1'], _, rfl, hsegments, hplace⟩
  refine ⟨hconforms, (resolve_eq_ok_iff_and_conforms_iff sampleRow "#/a/1" _).2.1 hconforms, ?_⟩
  have hway := (resolve_eq_ok_iff_and_conforms_iff sampleRow "#/a/-1" (.text "last")).2.2
    ['a', '/', '-', '1'] _ rfl leads_sampleRow_of_fromEnd
  rw [hway.2]
  rintro (_ | ⟨-, _ | ⟨hlast, -⟩⟩)
  exact not_isStandard_negative hlast

/-- **Some references resolve that lead nowhere by the standard.**  An index counts from the end,
and a tilde begins no escape. -/
theorem resolve_of_negative_index :
    (resolve sampleRow "#/a/-1" = .ok (.text "last") ∧ ¬ ∃ w, Conforms sampleRow "#/a/-1" w) ∧
      resolve sampleRow "#/~2" = .ok (.text "tilde") ∧ ¬ ∃ w, Conforms sampleRow "#/~2" w := by
  refine ⟨⟨by rfl, ?_⟩, by rfl, ?_⟩
  · have hway := @conforms_iff_of_leads _ "#/a/-1" _ ['a', '/', '-', '1'] _ rfl
      leads_sampleRow_of_fromEnd
    rw [hway]
    rintro (_ | ⟨-, _ | ⟨hlast, -⟩⟩)
    exact not_isStandard_negative hlast
  · have hway := @conforms_iff_of_leads _ "#/~2" _ ['~', '2'] _ rfl leads_sampleRow_of_tilde
    rw [hway]
    rintro (_ | ⟨hhead, -⟩)
    rcases hhead.1 0 rfl with h | h <;> cases h

end Pointer
end ServiceCatalog
