import ServiceCatalog.Api.Settings
import ServiceCatalog.Json.Basic

/-!
# The entries of a configuration

A configuration is a JSON object, and each of its members may set one of the settings.  A setting
has two spellings, and the camel-case one counts if both are there.  Members that set nothing are
passed over, and a setting without a member keeps its default.

## Faults

A member that sets something has to hold what the setting demands: a text, or an array of texts.
All faults are found, not only the first, and a configuration with a fault sets nothing.  An item
that is no text is a fault of its own, told by its index.
-/

namespace ServiceCatalog

/-- What a setting demands.  A set and a list are both written as an array of texts; a set has no
order and no repetitions. -/
inductive Demand where
  | text
  | wordSet
  | wordList
  deriving DecidableEq, Repr

/-- A setting, with its two spellings. -/
structure SettingName where
  camel : String
  snake : String
  demand : Demand
  deriving DecidableEq

namespace SettingName

/-- Names of operations that are disambiguated. -/
def operationNames : SettingName := ⟨"operationReservedWords", "operation_reserved_words", .wordSet⟩

/-- Names of parameters that are marked. -/
def parameterNames : SettingName := ⟨"parameterReservedWords", "parameter_reserved_words", .wordSet⟩

/-- Parameters that are not listed. -/
def ignoredParameters : SettingName := ⟨"ignoredParameters", "ignored_parameters", .wordSet⟩

/-- The placeholder of the version in a path. -/
def versionPlaceholder : SettingName := ⟨"versionPlaceholder", "version_placeholder", .text⟩

/-- Media types, the preferred ones first. -/
def mediaTypes : SettingName := ⟨"mediaTypes", "media_types", .wordList⟩

/-- Methods of a path, in the order of their operations. -/
def methods : SettingName := ⟨"httpMethods", "http_methods", .wordList⟩

/-- All settings. -/
def all : List SettingName :=
  [operationNames, parameterNames, ignoredParameters, versionPlaceholder, mediaTypes, methods]

/-- The member that sets a setting, by the spelling it uses. -/
def entry? (s : SettingName) (members : List (String × Json)) : Option (String × Json) :=
  match members.lookup s.camel with
  | some j => some (s.camel, j)
  | none => (members.lookup s.snake).map fun j => (s.snake, j)

end SettingName

/-- A member that does not hold what its setting demands. -/
structure SettingFault where
  /-- The spelling that the member uses. -/
  key : String
  /-- The place of an item that is no text; a fault of the whole member has none. -/
  index : Option Nat
  demand : Demand
  deriving DecidableEq

/-- The items that are no texts, counted from an index. -/
def itemFaults (key : String) : (index : Nat) → List Json → List SettingFault
  | _, [] => []
  | index, .text _ :: js => itemFaults key (index + 1) js
  | index, _ :: js => ⟨key, some index, .text⟩ :: itemFaults key (index + 1) js

/-- The faults of what a member holds. -/
def entryFaults (demand : Demand) (key : String) (held : Json) : List SettingFault :=
  match demand, held with
  | .text, .text _ => []
  | .text, _ => [⟨key, none, .text⟩]
  | _, .array items => itemFaults key 0 items
  | _, _ => [⟨key, none, demand⟩]

/-- The text that sets a setting. -/
def chosenText (s : SettingName) (default : String) (members : List (String × Json)) : String :=
  match s.entry? members with
  | some (_, .text t) => t
  | _ => default

/-- The texts that set a setting. -/
def chosenWords (s : SettingName) (default : List String) (members : List (String × Json)) :
    List String :=
  match s.entry? members with
  | some (_, .array items) => items.filterMap fun
    | .text t => some t
    | _ => none
  | _ => default

namespace Settings

/-- The faults of a configuration, setting by setting. -/
def faults (members : List (String × Json)) : List SettingFault :=
  SettingName.all.flatMap fun s =>
    ((s.entry? members).map fun e => entryFaults s.demand e.1 e.2).getD []

/-- The settings that a configuration without faults makes. -/
def chosen (members : List (String × Json)) : Settings where
  reservedOperationNames := chosenWords .operationNames Naming.reservedOperationNames members
  reservedParameterNames := chosenWords .parameterNames Naming.reservedParameterNames members
  ignoredParameters := chosenWords .ignoredParameters defaultIgnoredParameters members
  versionPlaceholder := chosenText .versionPlaceholder Naming.defaultVersionPlaceholder members
  mediaTypes := chosenWords .mediaTypes defaultMediaTypes members
  methods := chosenWords .methods defaultMethods members

/-- The settings that a configuration makes, or all of its faults. -/
def ofMembers (members : List (String × Json)) : Except (List SettingFault) Settings :=
  match faults members with
  | [] => .ok (chosen members)
  | fs => .error fs

end Settings
end ServiceCatalog
