import ServiceCatalog.Document.Moment
import ServiceCatalog.Number.Limit
import ServiceCatalog.Text.Quoted

/-!
# Faults of a YAML text

There are two kinds.  A text may be *malformed*: it is not YAML, or it uses a tag, an alias or a
merge that means nothing.  Or a scalar may have a tag that its text does not admit, such as the
thirtieth of February; that is a fault of the *content*, and a reader that only wants to know
whether a text is YAML has to tell the two apart.
-/

namespace ServiceCatalog
namespace Yaml

/-- Why a text is not YAML, or means nothing. -/
inductive Malformed where
  /-- The text holds a control character. -/
  | unprintable
  /-- A character that starts nothing. -/
  | noToken
  /-- A key at the indentation of its mapping has no colon. -/
  | missingColon
  /-- An entry, a key or a value stands where none may start. -/
  | misplaced
  | directive
  | anchorName
  | tag
  /-- The indicators of a block scalar are wrong. -/
  | blockHeader
  | escape
  /-- A quoted scalar does not end. -/
  | unclosedQuote
  /-- A token that does not continue the document. -/
  | unexpectedToken
  | unknownHandle (handle : String)
  | undefinedAlias (name : String)
  | repeatedAnchor (name : String)
  | severalDocuments
  | unknownTag (tag : String)
  /-- A tag that does not suit the kind of its node. -/
  | kind (tag : String)
  /-- A key that is a list or a mapping. -/
  | compoundKey
  /-- Something other than mappings is merged into one. -/
  | merge
  /-- Bytes that are not in base sixty-four. -/
  | bytes
  deriving DecidableEq

/-- What is said about a malformed text. -/
def Malformed.message : Malformed → String
  | .unprintable => "special characters are not allowed"
  | .noToken => "found a character that cannot start any token"
  | .missingColon => "could not find expected ':'"
  | .misplaced => "an entry, a key or a value is not allowed here"
  | .directive => "invalid directive"
  | .anchorName => "invalid name of an anchor or an alias"
  | .tag => "invalid tag"
  | .blockHeader => "invalid indicators of a block scalar"
  | .escape => "invalid escape"
  | .unclosedQuote => "unexpected end of a quoted scalar"
  | .unexpectedToken => "unexpected token"
  | .unknownHandle handle => s!"found undefined tag handle '{handle}'"
  | .undefinedAlias name => s!"found undefined alias '{name}'"
  | .repeatedAnchor name => s!"found duplicate anchor '{name}'"
  | .severalDocuments => "expected a single document in the stream"
  | .unknownTag t => s!"could not determine a constructor for the tag '{t}'"
  | .kind t => s!"the tag '{t}' does not suit its node"
  | .compoundKey => "found unhashable key"
  | .merge => "expected a mapping or list of mappings for merging"
  | .bytes => "failed to decode base64 data"

/-- Why the text of a scalar does not suit its tag. -/
inductive Unsuitable where
  /-- A text is no integer in some base. -/
  | integer (base : Nat) (text : String)
  /-- A text is no number. -/
  | number (text : String)
  /-- Nothing at all is written where a number should be. -/
  | noNumber
  /-- A power of sixty is beyond every number. -/
  | power
  /-- Neither yes nor no. -/
  | truthValue (text : String)
  /-- No date is written. -/
  | noDate
  /-- A mapping stands where a date should be written. -/
  | compoundDate
  /-- The calendar or the clock has no such time. -/
  | calendar (fault : CalendarFault)
  /-- An escape names a number beyond the last character. -/
  | codePoint
  /-- An escape names a number of more than thirty-one bits. -/
  | wideCodePoint
  /-- An integer in base ten is too long. -/
  | overlong (cause : Overlong)
  deriving DecidableEq

/-- A text between quotes. -/
def quotedText (text : String) : List Char := Text.quoted text.toList

/-- What is said about a text that does not suit its tag.  Of the text of an integer no more than
two hundred characters are shown. -/
def Unsuitable.message : Unsuitable → String
  | .integer base text =>
    s!"invalid literal for int() with base {base}: " ++ String.ofList ((quotedText text).take 200)
  | .number text => "could not convert string to float: " ++ String.ofList (quotedText text)
  | .noNumber => "string index out of range"
  | .power => "int too large to convert to float"
  | .truthValue text => String.ofList (quotedText text)
  | .noDate => "'NoneType' object has no attribute 'groupdict'"
  | .compoundDate => "expected string or bytes-like object, got 'list'"
  | .calendar fault => fault.message
  | .codePoint => "chr() arg not in range(0x110000)"
  | .wideCodePoint => "Python int too large to convert to C int"
  | .overlong cause => cause.message

/-- What is wrong with a YAML text. -/
inductive Fault where
  | malformed (cause : Malformed)
  | unsuitable (cause : Unsuitable)
  deriving DecidableEq

/-- What is said about a YAML text with a fault. -/
def Fault.message : Fault → String
  | .malformed cause => cause.message
  | .unsuitable cause => cause.message

/-- A malformed text. -/
def malformed {α : Type} (cause : Malformed) : Except Fault α := .error (.malformed cause)

/-- A text that does not suit its tag. -/
def unsuitable {α : Type} (cause : Unsuitable) : Except Fault α := .error (.unsuitable cause)

end Yaml
end ServiceCatalog
