import ServiceCatalog.Yaml.Content
import ServiceCatalog.Yaml.Layout

/-!
# Reading YAML text

A text is read in three steps: its tokens (`ServiceCatalog.Yaml.Layout`), the nodes that they
describe (`ServiceCatalog.Yaml.Node`), and the value of the outermost node
(`ServiceCatalog.Yaml.Content`).  A text that is not YAML is found out before any of its scalars is
looked at.

A text holds one document.  One without any says nothing, and its value is null.
-/

namespace ServiceCatalog
namespace Yaml

/-- A code point that may stand in a text. -/
def isAllowed (n : Nat) : Bool :=
  n = 0x09 || n = 0x0A || n = 0x0D || (0x20 ≤ n && n ≤ 0x7E) || n = 0x85 ||
    (0xA0 ≤ n && n ≤ 0xFFFD && !Text.isHalf n) || 0x10000 ≤ n

/-- The graph of a text, if it has one. -/
def graph? (cs : List Char) : Except Fault (Option Graph) :=
  if (Text.points cs).all isAllowed then Graph.ofTokens? (tokens cs) else malformed .unprintable

/-- The value of a text. -/
def parse (text : String) : Except Fault Value :=
  (graph? text.toList).bind fun g =>
    match g with
    | none => .ok .null
    | some g => g.value

end Yaml
end ServiceCatalog
