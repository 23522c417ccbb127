import ServiceCatalog.Yaml.Fault

/-!
# Tokens

The grammar of YAML is read from tokens, and indentation is among them: a block starts and ends with
a token of its own, although no character of the text stands for it.  The end of the text is the end
of the list.

A text with a fault has tokens too, up to some place in front of the fault.  What they mean is
looked at first, so a fault in their order counts before the one behind them.
-/

namespace ServiceCatalog
namespace Yaml

/-- What a directive says. -/
inductive Directive where
  | version (major minor : Nat)
  | handle (name lead : String)
  /-- A directive that means nothing here. -/
  | other (name : String)
  deriving DecidableEq

/-- A tag as it is written: behind a handle, or in full. -/
structure WrittenTag where
  handle : Option String
  suffix : String
  deriving DecidableEq

/-- A token of a YAML text. -/
inductive Token where
  | directive (d : Directive)
  | documentStart
  | documentEnd
  | blockSequence
  | blockMapping
  | blockEnd
  | openSequence
  | closeSequence
  | openMapping
  | closeMapping
  | entry
  | comma
  | key
  | value
  | «alias» (name : String)
  | anchor (name : String)
  | tag (t : WrittenTag)
  | scalar (text : String) (plain : Bool)
  deriving DecidableEq

/-- The tokens of a text, or those in front of a fault. -/
structure Tokens where
  tokens : List Token
  fault : Option Fault := none

end Yaml
end ServiceCatalog
