import ServiceCatalog.Naming.Identifier
import ServiceCatalog.Naming.Reserved
import ServiceCatalog.Text.WordPattern

/-!
# Names of parameters

A parameter is called by the identifier of its name.  An identifier that is reserved gets an
underscore in front, which no identifier has, so two parameters with different identifiers keep
different names.

The reserved words are one pattern, and it is the text that matches the pattern which gets the
underscore.  No words make no pattern, since that of no words would be the one of the empty word.
-/

namespace ServiceCatalog
namespace Naming

open Text

/-- The reserved word that a name is, and what is behind the end of the name. -/
def reservedWord? (reserved : List String) (name : List Char) : Option (List Char × List Char) :=
  if reserved.isEmpty then none
  else (alternatives? (wordPattern (reserved.map String.toList))).bind (wholeWord? · name)

/-- The name of a parameter in a generated signature. -/
def parameterName (raw : String) (reserved : List String := reservedParameterNames) : String :=
  let name := identify raw.toList
  match reservedWord? reserved name with
  | some (word, behind) => String.ofList ('_' :: word ++ behind)
  | none => String.ofList name

end Naming
end ServiceCatalog
