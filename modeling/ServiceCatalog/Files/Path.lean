import ServiceCatalog.Text.Pieces

/-!
# Paths

A path is a list of names.  Empty names and single points in its text say nothing, so different
texts may be the same path, and a path is printed in its shortest form.  Two points lead back to the
folder around and are kept, because what they lead to depends on the folders that there are.
-/

namespace ServiceCatalog

/-- A path: where it starts, and the names on it. -/
structure Path where
  /-- Empty for a path from the working folder, and otherwise slashes. -/
  root : String
  segments : List String
  deriving DecidableEq

namespace Path

/-- The slashes that a text starts with, as far as they count: exactly two are kept as two. -/
def rootOf : List Char → String
  | '/' :: '/' :: '/' :: _ => "/"
  | '/' :: '/' :: _ => "//"
  | '/' :: _ => "/"
  | _ => ""

/-- The names in a text between slashes. -/
def names (cs : List Char) : List String :=
  ((Text.split '/' cs).filter fun s => !s.isEmpty).map String.ofList

/-- The path that a text writes. -/
def ofText (text : String) : Path where
  root := rootOf text.toList
  segments := (names text.toList).filter (· ≠ ".")

/-- The shortest text of a path; the working folder itself is a point. -/
def text (p : Path) : String :=
  if p.root = "" ∧ p.segments = [] then "."
  else p.root ++ String.intercalate "/" p.segments

/-- The last name on a path. -/
def name (p : Path) : String := p.segments.getLast?.getD ""

/-- The end of the last name, from its last point on.  A point at either end of the name starts
nothing. -/
def suffix (p : Path) : String :=
  let cs := p.name.toList
  let ending := Text.afterLast '.' cs
  if ending.isEmpty ∨ cs.length ≤ ending.length + 1 then "" else String.ofList ('.' :: ending)

end Path
end ServiceCatalog
