/-!
# Reserved words

The words that a generated client must not use as names.  They describe the target of the generation
and not the document, so each set is only a default that a project can replace.
-/

namespace ServiceCatalog
namespace Naming

/-- Names that an operation must not have: keywords, future keywords, and ambient names. -/
def reservedOperationNames : List String :=
  ["break", "case", "catch", "class", "const", "continue", "debugger", "default", "delete", "do",
   "else", "enum", "export", "extends", "false", "finally", "for", "function", "if", "import", "in",
   "instanceof", "let", "new", "null", "return", "super", "switch", "this", "throw", "true", "try",
   "typeof", "var", "void", "while", "with", "yield", "await",
   "implements", "interface", "package", "private", "protected", "public", "static", "abstract",
   "boolean", "byte", "char", "double", "final", "float", "goto", "int", "long", "native", "short",
   "synchronized", "throws", "transient", "volatile",
   "arguments", "async", "eval", "get", "set", "any", "constructor", "declare", "module", "require",
   "number", "string", "of"]

/-- Names that a parameter must not have. -/
def reservedParameterNames : List String :=
  ["arguments", "break", "case", "catch", "class", "const", "continue", "debugger", "default",
   "delete", "do", "else", "enum", "eval", "export", "extends", "false", "finally", "for",
   "function", "if", "implements", "import", "in", "instanceof", "interface", "let", "new", "null",
   "package", "private", "protected", "public", "return", "static", "super", "switch", "this",
   "throw", "true", "try", "typeof", "var", "void", "while", "with", "yield"]

/-- The placeholder of a path that marks the segment of a version. -/
def defaultVersionPlaceholder : String := "\x7bapi-version\x7d"

end Naming
end ServiceCatalog
