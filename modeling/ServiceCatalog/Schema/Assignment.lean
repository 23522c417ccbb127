import ServiceCatalog.Schema.Model

/-!
# Assigning a type to a target

A parameter, a body and a response are models with a name and a place of their own, and the schema
that is found for them says what type they have.  There are two assignments.  `refer` makes the
target a handle on a named type.  `adopt` copies a whole model: its type, its constraints and its
parts.

Flags are kept apart from all of this: when `adopt` merges them, a target that is already required
or nullable stays so.  Imports and parts are appended and never replaced, while the name of the
target, its description and its default are left alone.
-/

namespace ServiceCatalog
namespace Model

/-- Makes the target a handle on the named type that a reference describes. -/
def refer (target reference : Model) : Model :=
  { target with
    shape := .reference
    type := reference.type
    base := reference.base
    template := reference.template
    imports := target.imports ++ reference.imports }

/-- Gives the target the type, the constraints and the parts of a model.  With `merge` the flags of
the target are kept beside those of the model, and otherwise they are replaced. -/
def adopt (target m : Model) (merge : Bool := true) : Model :=
  { target with
    shape := m.shape
    type := m.type
    base := m.base
    template := m.template
    link := m.link
    isReadOnly := m.isReadOnly
    isRequired := (merge && target.isRequired) || m.isRequired
    isNullable := (merge && target.isNullable) || m.isNullable
    constraints := m.constraints
    imports := target.imports ++ m.imports
    members := target.members ++ m.members
    enums := target.enums ++ m.enums
    properties := target.properties ++ m.properties }

/-- A step in the making of a target. -/
inductive Assignment where
  | refer (reference : Model)
  | adopt (m : Model) (merge : Bool)

/-- What a step makes of a target. -/
def assign (target : Model) : Assignment → Model
  | .refer reference => target.refer reference
  | .adopt m merge => target.adopt m merge

@[simp] theorem assign_refer (target reference : Model) :
    target.assign (.refer reference) = target.refer reference := rfl

@[simp] theorem assign_adopt (target m : Model) (merge : Bool) :
    target.assign (.adopt m merge) = target.adopt m merge := rfl

end Model
end ServiceCatalog
