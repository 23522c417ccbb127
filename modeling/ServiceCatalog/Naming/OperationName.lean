import ServiceCatalog.Naming.Identifier
import ServiceCatalog.Naming.Reserved
import ServiceCatalog.Text.Erase

/-!
# Names of operations

An operation that declares an id is named after its last `/`-separated segment.  A name that is
reserved is told apart by its group, the first segment, or by the method if there is only one
segment.

Without an id the name is made from the method and the path.  The segment that holds the version
placeholder is dropped, up to and including the slash behind it, and so is every `{…}` placeholder.
A version segment without a slash behind it is not dropped.
-/

namespace ServiceCatalog
namespace Naming

open Text

/-- A text in which a placeholder stands before the next slash, without a line break between them;
the rest behind that slash. -/
def placeholderToSlash (placeholder cs : List Char) : Option (Rest cs) :=
  (behind placeholder cs).bind fun r =>
    (through '/' r.1).map fun t => ⟨t.1, Nat.lt_of_lt_of_le t.2 r.2⟩

/-- A path segment from some place in it on, with the placeholder in it and the slash behind it. -/
def versionSegment (placeholder : List Char) : (cs : List Char) → Option (Rest cs)
  | [] => placeholderToSlash placeholder []
  | c :: cs =>
    (placeholderToSlash placeholder (c :: cs)).or
      (if c = '/' then none
       else (versionSegment placeholder cs).map fun t => ⟨t.1, by have := t.2; simp; omega⟩)

/-- The part of a path that a name is made of. -/
def pathWords (placeholder path : List Char) : List Char :=
  (erase (bracketed '\x7b' '\x7d') (erase (versionSegment placeholder) path)).map fun c =>
    if c = '/' then '-' else c

/-- The name made from a method and a path. -/
def synthesizedName (path method placeholder : String) : String :=
  String.ofList (identify (method.toList ++ '-' :: pathWords placeholder.toList path.toList))

/-- The name of an operation with a declared id. -/
def declaredName (id method : String) (reserved : List String) : String :=
  let name := identify (afterLast '/' id.toList)
  if reserved.contains (String.ofList name) then
    let group := before '/' id.toList
    let qualified :=
      if id.toList.contains '/' then name ++ '-' :: group else method.toList ++ '-' :: name
    String.ofList (identify qualified)
  else String.ofList name

/-- The name of an operation.  An empty id is none. -/
def operationName (path method : String) (declaredId : Option String)
    (reserved : List String := reservedOperationNames)
    (placeholder : String := defaultVersionPlaceholder) : String :=
  match declaredId with
  | none => synthesizedName path method placeholder
  | some id =>
    if id = "" then synthesizedName path method placeholder else declaredName id method reserved

/-- The id of an operation: the declared one, or the method and the path. -/
def operationId (path method : String) (declaredId : Option String) : String :=
  match declaredId with
  | none => s!"{method}:{path}"
  | some id => if id = "" then s!"{method}:{path}" else id

end Naming
end ServiceCatalog
