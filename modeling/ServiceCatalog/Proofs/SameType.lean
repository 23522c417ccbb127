import ServiceCatalog.Schema.Model

/-!
# Describing the same type is an equivalence

`Model.sameType` walks down the links of two models at once, and a result is dropped when it
describes the same type as an earlier one.  That the choice of representatives does not matter needs
an equivalence, which a walk does not show.  So each model gets a value that the walk compares: its
`typeChain`, the three names of every level.  Two models describe the same type if and only if their
chains are equal (`sameType_iff`), and the three laws follow.

The induction is `linkInduction`, along the links of one model: a model without a link ends it.
-/

namespace ServiceCatalog
namespace Model

/-- Induction along the links of a model. -/
@[elab_as_elim] theorem linkInduction {P : Model → Prop} (unlinked : ∀ m, m.link = none → P m)
    (linked : ∀ m l, m.link = some l → P l → P m) (m : Model) : P m := by
  cases h : m.link with
  | none => exact unlinked m h
  | some l => exact linked m l h (linkInduction unlinked linked l)
termination_by sizeOf m
decreasing_by exact sizeOf_link_lt h

/-- The three names of a model. -/
def names (m : Model) : String × String × Option String := (m.type, m.base, m.template)

theorem sameNames_iff {a b : Model} : a.sameNames b = true ↔ a.names = b.names := by
  simp [sameNames, names, and_assoc]

/-- The names of a model, of what it links to, and so on to the end of the links. -/
def typeChain (m : Model) : List (String × String × Option String) :=
  m.names ::
    match _h : m.link with
    | none => []
    | some l => typeChain l
termination_by sizeOf m
decreasing_by exact sizeOf_link_lt ‹m.link = some l›

theorem typeChain_of_link_eq_none {m : Model} (h : m.link = none) : m.typeChain = [m.names] := by
  rw [typeChain]
  split <;> simp_all

theorem typeChain_of_link_eq_some {m l : Model} (h : m.link = some l) :
    m.typeChain = m.names :: l.typeChain := by
  rw [typeChain]
  split <;> simp_all

theorem typeChain_ne_nil (m : Model) : m.typeChain ≠ [] := by
  rw [typeChain]
  exact List.cons_ne_nil _ _

/-- **Two models describe the same type if and only if they have the same chain of names.** -/
theorem sameType_iff {a b : Model} : a.sameType b = true ↔ a.typeChain = b.typeChain := by
  induction a using linkInduction generalizing b with
  | unlinked a ha =>
    rw [typeChain_of_link_eq_none ha]
    cases hb : b.link with
    | none =>
      rw [sameType_of_links_eq_none ha hb, typeChain_of_link_eq_none hb, sameNames_iff]
      simp
    | some r =>
      rw [sameType_of_isSome_link_ne (by simp [ha, hb]), typeChain_of_link_eq_some hb]
      simp [(typeChain_ne_nil r).symm]
  | linked a l ha ih =>
    rw [typeChain_of_link_eq_some ha]
    cases hb : b.link with
    | none =>
      rw [sameType_of_isSome_link_ne (by simp [ha, hb]), typeChain_of_link_eq_none hb]
      simp [typeChain_ne_nil l]
    | some r =>
      rw [sameType_of_links_eq_some ha hb, typeChain_of_link_eq_some hb, Bool.and_eq_true,
        sameNames_iff, ih, List.cons.injEq]

@[simp] theorem sameType_self (m : Model) : m.sameType m = true := sameType_iff.mpr rfl

theorem sameType_symm {a b : Model} (h : a.sameType b = true) : b.sameType a = true :=
  sameType_iff.mpr (sameType_iff.mp h).symm

theorem sameType_trans {a b c : Model} (hab : a.sameType b = true) (hbc : b.sameType c = true) :
    a.sameType c = true :=
  sameType_iff.mpr ((sameType_iff.mp hab).trans (sameType_iff.mp hbc))

end Model
end ServiceCatalog
